import Gorgonia.Template

/-!
# `main`: one run of the generator

A run opens `api_gen.go` (created, truncated) and writes the banner with
`fmt.Fprintf`.  `generateUnary` and then `generateBinary` each parse their
declaration file, extract the operator catalog with `constTypes` and execute
their template once per operator.  What the outside world answers is an `Env`:
whether the open fails, what the parser returns for each file, and which
`Write` calls fail.

Errors of `OpenFile` and `ParseFile` end the process through `log.Fatal`
(status 1, deferred calls not run).  A panic would end it with status 2 after
the deferred `Close`.  The results of `fmt.Fprintf`, of every
`Template.Execute` and of the deferred `Close` are dropped.
`main_status` shows that the exit status depends on the open and the two parses
only, never on a write to `api_gen.go`.

The log output (`log.Printf`, and the message `log.Fatal` prints) goes to
standard error, which the model leaves out: the results here hold of runs in
which writing to standard error does not end the process, as writing to a
closed pipe would through `SIGPIPE`.
-/

set_option autoImplicit false

namespace Gorgonia

def genmsg : String :=
  "// Code generated by genapi, which is a API generation tool for Gorgonia. DO NOT EDIT."

/-- What `fmt.Fprintf` writes first, in one `Write` call. -/
def banner : String :=
  "package gorgonia \n\nimport (\n\t\"gonum.org/v1/gonum/graph\"\n\t\"gorgonia.org/gorgonia/node\"\n" ++
    "\t\"gorgonia.org/gorgonia/ops\"\n)\n\n" ++ genmsg ++ "\n\n"

/-- The operating system's answers to one run. -/
structure Env where
  openFails : Bool
  unaryOps : Except String SourceFile
  binaryOps : Except String SourceFile
  device : Device

/-- How a call of `main` ends: it returns, or the process exits with a status. -/
inductive Step
  | next (w : Writer)
  | exit (status : Nat) (w : Writer)

/-- The exit status, and the bytes of `api_gen.go` afterwards (`none`: never opened). -/
structure Run where
  status : Nat
  output : Option (List UInt8)
deriving DecidableEq, Repr

/-! ## Writing pieces -/

/-- A device on which every `Write` succeeds. -/
def quiet : Device := fun _ => none

theorem writeAll_quiet (ps : List String) (w : Writer) :
    writeAll quiet ps w = (⟨w.written ++ utf8 (String.join ps), w.calls + ps.length⟩, none) := by
  induction ps generalizing w with
  | nil => simp [writeAll]
  | cons p ps ih =>
      simp only [writeAll, Writer.write, quiet, ih, join_cons_eq, utf8_append, List.append_assoc,
        List.length_cons]
      congr 2
      omega

/-- A device on which every `Write` fails before writing anything, as on a full disk. -/
def broken : Device := fun _ => some 0

theorem writeAll_broken (ps : List String) (w : Writer) : (writeAll broken ps w).1.written = w.written := by
  cases ps with
  | nil => rfl
  | cons p ps => simp [writeAll, Writer.write, broken]

/-- Units of pieces written one after another from call `c` on, one `Write`
call a piece: for each unit, the call it starts at and the bytes it leaves.  A
failed call ends its own unit only; the next unit starts at the next call. -/
def writeUnits (dev : Device) (c : Nat) : List (List String) → List (Nat × List UInt8)
  | [] => []
  | u :: us => (c, (writeUnit dev c u).1) :: writeUnits dev (c + (writeUnit dev c u).2) us

theorem foldl_writeAll (dev : Device) (units : List (List String)) (w : Writer) :
    (units.foldl (fun w u => (writeAll dev u w).1) w).written =
      w.written ++ ((writeUnits dev w.calls units).map Prod.snd).flatten := by
  induction units generalizing w with
  | nil => simp [writeUnits]
  | cons u us ih =>
      rw [List.foldl_cons, ih, writeAll_eq_writeUnit]
      simp [writeUnits]

theorem writeUnits_bytes (dev : Device) (c : Nat) (units : List (List String)) :
    List.Forall₂ (fun (r : Nat × List UInt8) (u : List String) => r.2 <+: utf8 (String.join u) ∧
        ((∀ j < u.length, dev (r.1 + j) = none) → r.2 = utf8 (String.join u)))
      (writeUnits dev c units) units := by
  induction units generalizing c with
  | nil => exact .nil
  | cons u us ih => exact .cons (writeUnit_bytes dev c u) (ih _)

/-- `later` is `earlier` followed by one prefix of the bytes of each of `units`,
in order: what `Fprintf` and `Execute` calls leave, each cut at its first
failed `Write`. -/
def Writer.Fills (later earlier : Writer) (units : List String) : Prop :=
  ∃ parts : List (List UInt8), List.Forall₂ (fun q p => q <+: utf8 p) parts units ∧
    later.written = earlier.written ++ parts.flatten

theorem Writer.Extends.fills {later earlier : Writer} {p : String} (grown : later.Extends earlier p) :
    later.Fills earlier [p] := by
  obtain ⟨q, written, pre⟩ := grown
  exact ⟨[q], .cons pre .nil, by simp [written]⟩

theorem Writer.Fills.trans {a b c : Writer} {us vs : List String} (first : b.Fills a us) (second : c.Fills b vs) :
    c.Fills a (us ++ vs) := by
  obtain ⟨ps, pre, hb⟩ := first
  obtain ⟨qs, pre', hc⟩ := second
  exact ⟨ps ++ qs, List.rel_append pre pre', by simp [hc, hb]⟩

section Generate
variable [UnicodeCase]

/-- The loop `for _, v := range names { ...; tmpl.Execute(outFile, data) }`,
each `Execute`'s error dropped. -/
def executeAll (dev : Device) (tmpl : List Node) (dataOf : String → Data) (names : List String)
    (w : Writer) : Writer :=
  names.foldl (fun w v => (execute dev (dataOf v) tmpl w).1) w

/-- `generateUnary` and `generateBinary`, over the declaration file, the group's
type, the sentinel, the template and the data of an operator. -/
def generate (src : Except String SourceFile) (accept max : String) (tmpl : List Node)
    (dataOf : String → Data) (dev : Device) (w : Writer) : Step :=
  match src with
  | .error _ => .exit 1 w
  | .ok file =>
      match constTypes file.decls accept max with
      | none => .exit 2 w
      | some names => .next (executeAll dev tmpl dataOf names w)

def unaryDataOf (v : String) : Data := unaryData (unaryAPIName v) v

def binaryDataOf (v : String) : Data := binaryData (binaryAPIName v) v (asSame (binaryAPIName v))

def generateUnary (src : Except String SourceFile) : Device → Writer → Step :=
  generate src "ʘUnaryOperatorType" "maxʘUnaryOperator" unaryTemplate unaryDataOf

def generateBinary (src : Except String SourceFile) : Device → Writer → Step :=
  generate src "ʘBinaryOperatorType" "maxʘBinaryOpType" binaryTemplate binaryDataOf

def main (env : Env) : Run :=
  if env.openFails then ⟨1, none⟩ else
    let w := (Writer.write env.device ⟨[], 0⟩ banner).1
    match generateUnary env.unaryOps env.device w with
    | .exit status w => ⟨status, some w.written⟩
    | .next w =>
        match generateBinary env.binaryOps env.device w with
        | .exit status w => ⟨status, some w.written⟩
        | .next w => ⟨0, some w.written⟩

theorem generate_ok (file : SourceFile) (accept max : String) (tmpl : List Node)
    (dataOf : String → Data) (dev : Device) (w : Writer) :
    generate (.ok file) accept max tmpl dataOf dev w =
      .next (executeAll dev tmpl dataOf (file.decls.flatMap (acceptedNames accept max)) w) := by
  simp [generate, constTypes_eq file.decls accept max file.wellFormed]

theorem generate_error (e accept max : String) (tmpl : List Node) (dataOf : String → Data)
    (dev : Device) (w : Writer) : generate (.error e) accept max tmpl dataOf dev w = .exit 1 w := rfl

theorem main_ok (unary binary : SourceFile) (dev : Device) :
    main ⟨false, .ok unary, .ok binary, dev⟩ =
      ⟨0, some (executeAll dev binaryTemplate binaryDataOf
        (binary.decls.flatMap (acceptedNames "ʘBinaryOperatorType" "maxʘBinaryOpType"))
        (executeAll dev unaryTemplate unaryDataOf
          (unary.decls.flatMap (acceptedNames "ʘUnaryOperatorType" "maxʘUnaryOperator"))
          (Writer.write dev ⟨[], 0⟩ banner).1)).written⟩ := by
  simp [main, generateUnary, generateBinary, generate_ok]

/-! ## Runs -/

/-- The text one operator's block renders to. -/
def block (tmpl : List Node) (data : Data) : String := String.join (render data tmpl).1

theorem executeAll_quiet (tmpl : List Node) (dataOf : String → Data) (names : List String) (w : Writer)
    (rendered : ∀ v ∈ names, (render (dataOf v) tmpl).2 = none) :
    (executeAll quiet tmpl dataOf names w).written =
      w.written ++ utf8 (String.join (names.map fun v => block tmpl (dataOf v))) := by
  induction names generalizing w with
  | nil => simp [executeAll]
  | cons v names ih =>
      simp only [List.mem_cons, forall_eq_or_imp] at rendered
      have step := ih (execute quiet (dataOf v) tmpl w).1 rendered.2
      simp only [executeAll, List.foldl_cons] at step ⊢
      rw [step, execute_eq_writeAll, rendered.1, thenError_none, writeAll_quiet]
      simp [block]

theorem executeAll_quiet_unary (names : List String) (w : Writer) :
    (executeAll quiet unaryTemplate unaryDataOf names w).written =
      w.written ++ utf8 (String.join (names.map fun v => block unaryTemplate (unaryDataOf v))) :=
  executeAll_quiet _ _ _ _ fun v _ => (render_templates_ok (unaryAPIName v) v false).1

theorem executeAll_quiet_binary (names : List String) (w : Writer) :
    (executeAll quiet binaryTemplate binaryDataOf names w).written =
      w.written ++ utf8 (String.join (names.map fun v => block binaryTemplate (binaryDataOf v))) :=
  executeAll_quiet _ _ _ _ fun v _ => (render_templates_ok (binaryAPIName v) v (asSame (binaryAPIName v))).2

/-- The exit status is decided by the open and the two parses; no write changes it. -/
theorem main_status (env : Env) :
    (main env).status =
      if env.openFails = false ∧ env.unaryOps.toBool = true ∧ env.binaryOps.toBool = true then 0 else 1 := by
  rcases env with ⟨_ | _, _ | unary, _ | binary, dev⟩ <;>
    simp [main, generateUnary, generateBinary, generate_ok, generate_error, Except.toBool]

/-- With no failing write, a run writes the banner and then one block per
operator, unary operators first, each family in catalog order. -/
theorem main_quiet (unary binary : SourceFile) :
    main ⟨false, .ok unary, .ok binary, quiet⟩ =
      ⟨0, some (utf8 (banner ++
        String.join ((unary.decls.flatMap (acceptedNames "ʘUnaryOperatorType" "maxʘUnaryOperator")).map
          fun v => block unaryTemplate (unaryDataOf v)) ++
        String.join ((binary.decls.flatMap (acceptedNames "ʘBinaryOperatorType" "maxʘBinaryOpType")).map
          fun v => block binaryTemplate (binaryDataOf v))))⟩ := by
  rw [main_ok, executeAll_quiet_binary, executeAll_quiet_unary]
  simp [Writer.write, quiet]

/-- `constTypes` never panics on a parsed file and returns the accepted names of
its declarations in order; `generateUnary` and `generateBinary` then write one
rendered block per returned name, in that order. -/
theorem generate_renders_catalog (file : SourceFile) (accept max : String) (w : Writer) :
    constTypes file.decls accept max = some (file.decls.flatMap (acceptedNames accept max)) ∧
    (∃ w', generateUnary (.ok file) quiet w = .next w' ∧
      w'.written = w.written ++
        utf8 (String.join ((file.decls.flatMap (acceptedNames "ʘUnaryOperatorType" "maxʘUnaryOperator")).map
          fun v => block unaryTemplate (unaryDataOf v)))) ∧
    (∃ w', generateBinary (.ok file) quiet w = .next w' ∧
      w'.written = w.written ++
        utf8 (String.join ((file.decls.flatMap (acceptedNames "ʘBinaryOperatorType" "maxʘBinaryOpType")).map
          fun v => block binaryTemplate (binaryDataOf v)))) :=
  ⟨constTypes_eq file.decls accept max file.wellFormed,
    ⟨_, generate_ok .., executeAll_quiet_unary _ _⟩, ⟨_, generate_ok .., executeAll_quiet_binary _ _⟩⟩

theorem executeAll_broken (tmpl : List Node) (dataOf : String → Data) (names : List String) (w : Writer) :
    (executeAll broken tmpl dataOf names w).written = w.written := by
  induction names generalizing w with
  | nil => rfl
  | cons v names ih =>
      simp only [executeAll, List.foldl_cons] at ih ⊢
      rw [ih, execute_eq_writeAll, thenError_fst, writeAll_broken]

/-- When every write fails, a run still exits with status 0, and leaves
`api_gen.go` empty. -/
theorem main_broken (unary binary : SourceFile) : main ⟨false, .ok unary, .ok binary, broken⟩ = ⟨0, some []⟩ := by
  rw [main_ok, executeAll_broken, executeAll_broken]
  rfl

/-! ## Any device -/

theorem executeAll_eq_foldl (dev : Device) (tmpl : List Node) (dataOf : String → Data) (names : List String)
    (w : Writer) :
    executeAll dev tmpl dataOf names w =
      (names.map fun v => (render (dataOf v) tmpl).1).foldl (fun w u => (writeAll dev u w).1) w := by
  simp only [executeAll, List.foldl_map, execute_eq_writeAll, thenError_fst]

/-- Whatever the writes do, a run whose open and parses succeed exits 0, and
`api_gen.go` holds what the banner's `Fprintf` and then every operator's
`Execute` leave, each a unit of `Write` calls: a prefix of the unit's bytes,
all of them when none of its own calls fails.  A failed write ends its own unit
only, and the run goes on with the next. -/
theorem main_written_prefixes (unary binary : SourceFile) (dev : Device) :
    let units := [banner] ::
      (unary.decls.flatMap (acceptedNames "ʘUnaryOperatorType" "maxʘUnaryOperator")).map
          (fun v => (render (unaryDataOf v) unaryTemplate).1) ++
      (binary.decls.flatMap (acceptedNames "ʘBinaryOperatorType" "maxʘBinaryOpType")).map
          fun v => (render (binaryDataOf v) binaryTemplate).1
    main ⟨false, .ok unary, .ok binary, dev⟩ = ⟨0, some ((writeUnits dev 0 units).map Prod.snd).flatten⟩ ∧
      List.Forall₂ (fun (r : Nat × List UInt8) (u : List String) => r.2 <+: utf8 (String.join u) ∧
          ((∀ j < u.length, dev (r.1 + j) = none) → r.2 = utf8 (String.join u)))
        (writeUnits dev 0 units) units := by
  intro units
  refine ⟨?_, writeUnits_bytes dev 0 units⟩
  rw [main_ok, executeAll_eq_foldl, executeAll_eq_foldl, ← writeAll_singleton, ← List.foldl_cons,
    ← List.foldl_append, foldl_writeAll]
  rfl

theorem executeAll_fills (dev : Device) (tmpl : List Node) (dataOf : String → Data) (names : List String)
    (w : Writer) : (executeAll dev tmpl dataOf names w).Fills w (names.map fun v => block tmpl (dataOf v)) := by
  induction names generalizing w with
  | nil => exact ⟨[], .nil, (List.append_nil _).symm⟩
  | cons v names ih =>
      simp only [executeAll, List.foldl_cons, List.map_cons] at ih ⊢
      exact (execute_extends dev (dataOf v) tmpl w).fills.trans (ih _)

/-- A declaration file that does not parse ends the run through `log.Fatal`
with status 1, after `api_gen.go` has been truncated: the file holds a prefix
of the banner's bytes when the unary file fails, and a prefix of the bytes of
the banner and of every unary block, in order, when the binary file fails. -/
theorem main_parse_error_prefixes (dev : Device) (e : String) (binaryOps : Except String SourceFile)
    (unary : SourceFile) :
    (∃ part, main ⟨false, .error e, binaryOps, dev⟩ = ⟨1, some part⟩ ∧ part <+: utf8 banner) ∧
    ∃ parts : List (List UInt8), main ⟨false, .ok unary, .error e, dev⟩ = ⟨1, some parts.flatten⟩ ∧
      List.Forall₂ (fun q p => q <+: utf8 p) parts (banner ::
        (unary.decls.flatMap (acceptedNames "ʘUnaryOperatorType" "maxʘUnaryOperator")).map
          fun v => block unaryTemplate (unaryDataOf v)) := by
  simp only [main, generateUnary, generateBinary, generate_ok, generate_error, Bool.false_eq_true, if_false]
  obtain ⟨part, written, pre⟩ := Writer.write_extends dev ⟨[], 0⟩ banner
  obtain ⟨parts, pre', written'⟩ := (Writer.write_extends dev ⟨[], 0⟩ banner).fills.trans (executeAll_fills ..)
  exact ⟨⟨part, by rw [written]; rfl, pre⟩, parts, by rw [written']; rfl, pre'⟩

end Generate

end Gorgonia
