import Gorgonia.ApiNames

/-!
# The two templates and `Template.Execute`

The generator renders each operator with `text/template`.  The model keeps the
fragment of the template language the two templates use: text, the actions
`{{.F}}`, `{{lower .F}}` and `{{not .F}}`, and `{{if}}`/`{{else}}`.  The template
data is the struct literal of `generateUnary` or `generateBinary`, as a list of
fields.  Trim markers are applied when a template is parsed, so `unaryTemplate`
and `binaryTemplate` hold the trimmed text.

`Execute` walks the parse tree and hands every text node and every printed
value to the writer as one `Write` call, the UTF-8 bytes of the piece.  It stops
at the first failed call or failed evaluation and returns that error.  The
writer is the output file, a list of bytes; a `Device` says which of its calls
fail, and after how many bytes.  `execute_eq_writeAll` splits execution into the
pure rendering `render` and the writes of its pieces.
-/

set_option autoImplicit false

namespace Gorgonia

inductive Value
  | str (s : String)
  | bool (b : Bool)
deriving DecidableEq, Repr

/-- The truth of a value for `{{if}}` and `not`: a non-empty string, `true`. -/
def Value.truth : Value → Bool
  | .str s => !s.isEmpty
  | .bool b => b

/-- `fmt.Fprint` of a value. -/
def Value.print : Value → String
  | .str s => s
  | .bool b => toString b

inductive Pipeline
  | field (name : String)
  | lower (name : String)
  | not (name : String)
deriving DecidableEq, Repr

inductive ExecError
  | write
  | noField (name : String)
  | wrongType (fn : String)
deriving DecidableEq, Repr

/-- The fields of the data struct. -/
abbrev Data := List (String × Value)

inductive Node
  | text (s : String)
  | action (p : Pipeline)
  | ifElse (cond : Pipeline) (yes no : List Node)
deriving Repr

section Execute
variable [UnicodeCase]

def Pipeline.eval (data : Data) : Pipeline → Except ExecError Value
  | .field f => (data.lookup f).elim (.error (.noField f)) .ok
  | .lower f => match data.lookup f with
      | some (.str s) => .ok (.str (toLower s))
      | some (.bool _) => .error (.wrongType "lower")
      | none => .error (.noField f)
  | .not f => (data.lookup f).elim (.error (.noField f)) fun v => .ok (.bool !v.truth)

/-! ## Rendering -/

mutual
/-- The pieces a template hands to the writer, up to the first failed evaluation. -/
def render (data : Data) : List Node → List String × Option ExecError
  | [] => ([], none)
  | n :: ns =>
      match renderNode data n with
      | (pieces, none) => let rest := render data ns; (pieces ++ rest.1, rest.2)
      | stopped => stopped

def renderNode (data : Data) : Node → List String × Option ExecError
  | .text s => ([s], none)
  | .action p => match p.eval data with
      | .ok v => ([v.print], none)
      | .error e => ([], some e)
  | .ifElse c yes no => match c.eval data with
      | .ok v => if v.truth then render data yes else render data no
      | .error e => ([], some e)
end

end Execute

/-! ## The output file -/

/-- The UTF-8 encoding of a string: the bytes a `Write` call is handed. -/
def utf8 (s : String) : List UInt8 := s.data.flatMap String.utf8EncodeChar

@[simp] theorem utf8_append (s t : String) : utf8 (s ++ t) = utf8 s ++ utf8 t := by
  simp [utf8]

@[simp] theorem utf8_empty : utf8 "" = [] := rfl

@[simp] theorem utf8_join (ps : List String) : utf8 (String.join ps) = (ps.map utf8).flatten := by
  induction ps with
  | nil => rfl
  | cons p ps ih =>
      rw [List.map_cons, List.flatten_cons, ← ih, ← utf8_append]
      congr 1
      ext1
      simp [String.data_join]

/-- The bytes of the output file and the number of `Write` calls made. -/
structure Writer where
  written : List UInt8
  calls : Nat

/-- For the `n`-th `Write` call, `none` if it succeeds, `some k` if it fails
after writing `k` bytes. -/
abbrev Device := Nat → Option Nat

/-- One `Write` call; `false` when it returns an error. -/
def Writer.write (dev : Device) (w : Writer) (p : String) : Writer × Bool :=
  match dev w.calls with
  | none => (⟨w.written ++ utf8 p, w.calls + 1⟩, true)
  | some k => (⟨w.written ++ (utf8 p).take k, w.calls + 1⟩, false)

/-- The pieces one `Write` call each, up to the first failure. -/
def writeAll (dev : Device) : List String → Writer → Writer × Option ExecError
  | [], w => (w, none)
  | p :: ps, w =>
      match w.write dev p with
      | (w', true) => writeAll dev ps w'
      | (w', false) => (w', some .write)

/-- Carries on with `e` if the writes succeeded. -/
def thenError (r : Writer × Option ExecError) (e : Option ExecError) : Writer × Option ExecError :=
  match r with
  | (w, none) => (w, e)
  | stopped => stopped

@[simp] theorem thenError_none (r : Writer × Option ExecError) : thenError r none = r := by
  rcases r with ⟨w, _ | _⟩ <;> rfl

theorem writeAll_append (dev : Device) (ps qs : List String) (w : Writer) :
    writeAll dev (ps ++ qs) w =
      match writeAll dev ps w with
      | (w', none) => writeAll dev qs w'
      | stopped => stopped := by
  induction ps generalizing w with
  | nil => rfl
  | cons p ps ih =>
      simp only [List.cons_append, writeAll]
      rcases w.write dev p with ⟨w', _ | _⟩
      · rfl
      · exact ih w'

theorem writeAll_singleton (dev : Device) (p : String) (w : Writer) : (writeAll dev [p] w).1 = (w.write dev p).1 := by
  simp only [writeAll]
  rcases w.write dev p with ⟨w', _ | _⟩ <;> rfl

section Execute
variable [UnicodeCase]

mutual
/-- `Template.Execute`: writes as it walks, and stops at the first error. -/
def execute (dev : Device) (data : Data) : List Node → Writer → Writer × Option ExecError
  | [], w => (w, none)
  | n :: ns, w =>
      match executeNode dev data n w with
      | (w', none) => execute dev data ns w'
      | stopped => stopped

def executeNode (dev : Device) (data : Data) : Node → Writer → Writer × Option ExecError
  | .text s, w => writeAll dev [s] w
  | .action p, w => match p.eval data with
      | .ok v => writeAll dev [v.print] w
      | .error e => (w, some e)
  | .ifElse c yes no, w => match c.eval data with
      | .ok v => if v.truth then execute dev data yes w else execute dev data no w
      | .error e => (w, some e)
end

mutual
theorem execute_eq_writeAll (dev : Device) (data : Data) :
    ∀ (t : List Node) (w : Writer),
      execute dev data t w = thenError (writeAll dev (render data t).1 w) (render data t).2
  | [], w => rfl
  | n :: ns, w => by
      simp only [execute, render, executeNode_eq_writeAll dev data n w]
      rcases renderNode data n with ⟨pieces, _ | e⟩
      · simp only [writeAll_append]
        rcases writeAll dev pieces w with ⟨w', _ | _⟩
        · exact execute_eq_writeAll dev data ns w'
        · rfl
      · rcases writeAll dev pieces w with ⟨w', _ | _⟩ <;> rfl

theorem executeNode_eq_writeAll (dev : Device) (data : Data) :
    ∀ (n : Node) (w : Writer),
      executeNode dev data n w = thenError (writeAll dev (renderNode data n).1 w) (renderNode data n).2
  | .text s, w => by simp [executeNode, renderNode]
  | .action p, w => by
      cases found : p.eval data with
      | error e => simp [executeNode, renderNode, found]; rfl
      | ok v => simp [executeNode, renderNode, found]
  | .ifElse c yes no, w => by
      cases found : c.eval data with
      | error e => simp [executeNode, renderNode, found]; rfl
      | ok v =>
          by_cases holds : v.truth
          · simpa [executeNode, renderNode, found, holds] using execute_eq_writeAll dev data yes w
          · simpa [executeNode, renderNode, found, holds] using execute_eq_writeAll dev data no w
end

end Execute

@[simp] theorem thenError_fst (r : Writer × Option ExecError) (e : Option ExecError) :
    (thenError r e).1 = r.1 := by
  rcases r with ⟨w, _ | _⟩ <;> rfl

@[simp] theorem join_nil_eq : String.join [] = "" := rfl

@[simp] theorem join_cons_eq (p : String) (ps : List String) :
    String.join (p :: ps) = p ++ String.join ps := by
  ext1
  simp [String.data_join]

@[simp] theorem join_append_eq (ps qs : List String) :
    String.join (ps ++ qs) = String.join ps ++ String.join qs := by
  ext1
  simp [String.data_join]

/-! ## What failed writes leave in the file -/

/-- `later` is `earlier` followed by a prefix of the bytes of `p`. -/
def Writer.Extends (later earlier : Writer) (p : String) : Prop :=
  ∃ q : List UInt8, later.written = earlier.written ++ q ∧ q <+: utf8 p

theorem Writer.write_extends (dev : Device) (w : Writer) (p : String) : (w.write dev p).1.Extends w p := by
  unfold Writer.write
  split
  · exact ⟨utf8 p, rfl, List.prefix_refl _⟩
  · exact ⟨(utf8 p).take _, rfl, List.take_prefix _ _⟩

/-- What writing pieces one `Write` call each from call `c` leaves, up to the
first failed call, and the number of calls made. -/
def writeUnit (dev : Device) (c : Nat) : List String → List UInt8 × Nat
  | [] => ([], 0)
  | p :: ps =>
      match dev c with
      | none => ((utf8 p ++ (writeUnit dev (c + 1) ps).1), (writeUnit dev (c + 1) ps).2 + 1)
      | some k => ((utf8 p).take k, 1)

theorem writeAll_eq_writeUnit (dev : Device) (ps : List String) (w : Writer) :
    (writeAll dev ps w).1 = ⟨w.written ++ (writeUnit dev w.calls ps).1, w.calls + (writeUnit dev w.calls ps).2⟩ := by
  induction ps generalizing w with
  | nil => simp [writeAll, writeUnit]
  | cons p ps ih =>
      cases fails : dev w.calls with
      | none =>
          simp only [writeAll, Writer.write, writeUnit, fails, ih, List.append_assoc]
          congr 1
          omega
      | some k => simp [writeAll, Writer.write, writeUnit, fails]

theorem writeUnit_bytes (dev : Device) (c : Nat) (ps : List String) :
    (writeUnit dev c ps).1 <+: utf8 (String.join ps) ∧
      ((∀ j < ps.length, dev (c + j) = none) → (writeUnit dev c ps).1 = utf8 (String.join ps)) := by
  induction ps generalizing c with
  | nil => exact ⟨List.nil_prefix, fun _ => rfl⟩
  | cons p ps ih =>
      rw [join_cons_eq, utf8_append]
      cases fails : dev c with
      | none =>
          simp only [writeUnit, fails]
          refine ⟨(List.prefix_append_right_inj _).mpr (ih (c + 1)).1, fun quiet => ?_⟩
          rw [(ih (c + 1)).2 fun j lt => by simpa [Nat.add_assoc, Nat.add_comm 1] using quiet (j + 1) (by simpa)]
      | some k =>
          simp only [writeUnit, fails]
          refine ⟨(List.take_prefix k _).trans (List.prefix_append _ _), fun quiet => ?_⟩
          simpa [fails] using quiet 0 (by simp)

theorem writeAll_extends (dev : Device) (ps : List String) (w : Writer) :
    (writeAll dev ps w).1.Extends w (String.join ps) := by
  rw [writeAll_eq_writeUnit]
  exact ⟨_, rfl, (writeUnit_bytes dev w.calls ps).1⟩

theorem execute_extends [UnicodeCase] (dev : Device) (data : Data) (t : List Node) (w : Writer) :
    (execute dev data t w).1.Extends w (String.join (render data t).1) := by
  rw [execute_eq_writeAll, thenError_fst]
  exact writeAll_extends dev _ w

/-! ## The templates of `genapi` -/

/-- `unaryTemplateRaw`, parsed. -/
def unaryTemplate : List Node :=
  [.text " // ", .action (.field "FnName"), .text " performs a pointwise ", .action (.lower "FnName"),
    .text ".\nfunc ", .action (.field "FnName"),
    .text "(a *Node) (*Node, error) \x7b return unaryOpNode(newElemUnaryOp(", .action (.field "OpType"),
    .text ", a), a) \x7d\n"]

/-- `binaryTemplateRaw`, parsed: each `-}}` has removed the white space after it. -/
def binaryTemplate : List Node :=
  [.text "// ", .action (.field "FnName"), .text " perfors a pointwise ", .action (.lower "FnName"),
    .text " operation.\n",
    .ifElse (.field "AsSame")
      [.text ("//\tretSame indicates if the data type of the return value should be the same as the " ++
        "input data type. It defaults to Bool otherwise.\n")] [],
    .text "func ", .action (.field "FnName"), .text "(a, b *Node",
    .ifElse (.field "AsSame") [.text ", retSame bool"] [],
    .text ") (*Node, error) \x7b ",
    .ifElse (.not "AsSame")
      [.text "return binOpNode(newElemBinOp(", .action (.field "OpType"), .text ", a, b), a, b) "]
      [.text "op := newElemBinOp(", .action (.field "OpType"),
        .text ", a, b)\n\top.retSame = retSame\n\treturn binOpNode(op, a, b)\n"],
    .text "\x7d\n\n// ", .action (.field "FnName"), .text "Op ...\nfunc New", .action (.field "FnName"),
    .text ("Operation() Operation \x7b\n\treturn func(g graph.WeightedDirected, n node.Node) (ops.Op, error) \x7b" ++
      "\n\t\tit := getOrderedChildren(g, n)\n\t\tchildren := make([]*Node, it.Len())" ++
      "\n\t\tfor i := 0; it.Next(); i++ \x7b\n\t\t\tchildren[i] = it.Node().(*Node)\n\t\t\x7d" ++
      "\n\t\treturn newElemBinOp("),
    .action (.field "OpType"), .text ", children[0], children[1]), nil\n\t\x7d\n\x7d\n"]

/-- `struct{ FnName, OpType string }{apiName, v}`. -/
def unaryData (fnName opType : String) : Data :=
  [("FnName", .str fnName), ("OpType", .str opType)]

/-- The binary data struct, with its `AsSame` field. -/
def binaryData (fnName opType : String) (asSame : Bool) : Data :=
  [("FnName", .str fnName), ("OpType", .str opType), ("AsSame", .bool asSame)]

theorem render_templates_ok [UnicodeCase] (fnName opType : String) (asSame : Bool) :
    (render (unaryData fnName opType) unaryTemplate).2 = none ∧
      (render (binaryData fnName opType asSame) binaryTemplate).2 = none := by
  cases asSame <;> exact ⟨rfl, rfl⟩

end Gorgonia
