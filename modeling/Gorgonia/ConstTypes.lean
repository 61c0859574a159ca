import Gorgonia.GoAst

/-!
# `constTypes`: the operator catalog of a declaration file

`constTypes decls accept max` (main.go) collects the generator's operator names.
It goes through the top-level declarations with a `names` accumulator.  For
each `const` group it looks only at the first spec's type.  When that type is
the identifier `accept`, it appends the first name of every spec of the group,
except those named `max`.

`constTypes_eq` gives the whole result for a well-formed file: the concatenation
of `acceptedNames` over the declarations, with no panic.  The loop is a heuristic
tuned to gorgonia's `iota` blocks.  `goConstsOfType` reads the type of every
constant off its declaration, with Go's implicit repetition in a group, and
`constTypes_ne_goConstsOfType` shows where the two part.  It compares type
expressions as written: Go gives the constants of a group typed `(T)` or typed
by an alias of `T` the type `T`, and `goConstsOfType` does not count them.
-/

set_option autoImplicit false

namespace Gorgonia

/-- `typename` in `constTypes`: an identifier's name, `""` for any other type. -/
def typeName : Expr → String
  | .ident name => name
  | .other => ""

/-- The inner loop `for _, spec := range d.Specs`: appends `Names[0]` of every
spec but `max`.  `none` is the panic of `spec.(*ast.ValueSpec)` or of `Names[0]`. -/
def appendNames (max : String) : List Spec → List String → Option (List String)
  | [], names => some names
  | .valueSpec s :: rest, names =>
      match s.names with
      | [] => none
      | name :: _ =>
          if name = max then appendNames max rest names else appendNames max rest (names ++ [name])
  | _ :: _, _ => none

/-- One iteration of the loop over `decls`. -/
def constTypesStep (accept max : String) (names : List String) : Decl → Option (List String)
  | .genDecl tok specs =>
      if tok.isKeyword && tok.string == "const" then
        match specs with
        | [] => some names
        | .valueSpec first :: _ =>
            match first.type with
            | none => some names
            | some typ => if typeName typ != accept then some names else appendNames max specs names
        | _ :: _ => none
      else some names
  | _ => some names

def constTypes (decls : List Decl) (accept max : String) : Option (List String) :=
  decls.foldlM (constTypesStep accept max) []

/-! ## The names a declaration contributes -/

def Spec.typeName? : Spec → Option String
  | .valueSpec s => s.type.map typeName
  | _ => none

def Spec.firstName? : Spec → Option String
  | .valueSpec s => s.names.head?
  | _ => none

/-- A `const` group whose first spec's type is named `accept` contributes the
first name of each of its specs, `max` left out; every other declaration
contributes nothing. -/
def acceptedNames (accept max : String) : Decl → List String
  | .genDecl .CONST specs =>
      if specs.head?.bind Spec.typeName? = some accept
      then (specs.filterMap Spec.firstName?).filter (· != max) else []
  | _ => []

theorem appendNames_eq (max : String) (specs : List Spec) (names : List String)
    (named : specs.all Spec.named = true) :
    appendNames max specs names = some (names ++ (specs.filterMap Spec.firstName?).filter (· != max)) := by
  induction specs generalizing names with
  | nil => simp [appendNames]
  | cons spec specs ih =>
      simp only [List.all_cons, Bool.and_eq_true] at named
      obtain ⟨s, name, rest, rfl, hnames⟩ := Spec.exists_of_named spec named.1
      by_cases isMax : name = max <;>
        simp [appendNames, hnames, Spec.firstName?, isMax, ih _ named.2]

theorem constTypesStep_eq (accept max : String) (names : List String) (d : Decl)
    (wellFormed : d.wellFormed = true) :
    constTypesStep accept max names d = some (names ++ acceptedNames accept max d) := by
  rcases d with ⟨tok, specs⟩ | _ | _
  · by_cases isConst : tok = .CONST
    · subst isConst
      simp only [Decl.wellFormed] at wellFormed
      rcases specs with _ | ⟨spec, specs⟩
      · simp [constTypesStep, acceptedNames]
      · obtain ⟨s, -, -, rfl, -⟩ := Spec.exists_of_named spec (List.all_eq_true.mp wellFormed spec (by simp))
        rcases hty : s.type with _ | typ
        · simp [constTypesStep, acceptedNames, Spec.typeName?, hty]
        · by_cases isAccept : typeName typ = accept
          · simp [constTypesStep, acceptedNames, Spec.typeName?, hty, isAccept,
              appendNames_eq max _ names wellFormed]
          · simp [constTypesStep, acceptedNames, Spec.typeName?, hty, isAccept]
    · cases tok <;> simp [constTypesStep, acceptedNames] at isConst ⊢
  all_goals simp [constTypesStep, acceptedNames]

theorem constTypes_eq (decls : List Decl) (accept max : String)
    (wellFormed : ∀ d ∈ decls, d.wellFormed = true) :
    constTypes decls accept max = some (decls.flatMap (acceptedNames accept max)) := by
  suffices run : ∀ names, decls.foldlM (constTypesStep accept max) names =
      some (names ++ decls.flatMap (acceptedNames accept max)) by
    simpa using run []
  induction decls with
  | nil => simp
  | cons d decls ih =>
      intro names
      simp only [List.mem_cons, forall_eq_or_imp] at wellFormed
      simp [List.foldlM_cons, constTypesStep_eq accept max names d wellFormed.1, ih wellFormed.2]

/-! ## Where `constTypes` panics -/

/-- A declaration on which the loop panics: a `const` group whose first spec is
not a value spec, or whose first spec is typed `accept` while one of its specs
is not a value spec with a name. -/
def panics (accept : String) : Decl → Bool
  | .genDecl .CONST (.valueSpec first :: specs) =>
      first.type.any (typeName · == accept) && !(Spec.valueSpec first :: specs).all Spec.named
  | .genDecl .CONST (_ :: _) => true
  | _ => false

theorem appendNames_eq_none_iff (max : String) (specs : List Spec) (names : List String) :
    appendNames max specs names = none ↔ specs.all Spec.named = false := by
  induction specs generalizing names with
  | nil => simp [appendNames]
  | cons spec specs ih =>
      rcases spec with _ | s | _
      · simp [appendNames, Spec.named]
      · rcases hnames : s.names with _ | ⟨name, rest⟩
        · simp [appendNames, Spec.named, hnames]
        · by_cases isMax : name = max <;> simp [appendNames, Spec.named, hnames, isMax, ih]
      · simp [appendNames, Spec.named]

theorem constTypesStep_eq_none_iff (accept max : String) (names : List String) (d : Decl) :
    constTypesStep accept max names d = none ↔ panics accept d = true := by
  rcases d with ⟨tok, _ | ⟨spec, specs⟩⟩ | _ | _
  · cases tok <;> simp [constTypesStep, panics]
  · by_cases isConst : tok = .CONST
    · subst isConst
      rcases spec with _ | s | _
      · simp [constTypesStep, panics]
      · rcases hty : s.type with _ | typ
        · simp [constTypesStep, panics, hty]
        · by_cases isAccept : typeName typ = accept <;>
            simp [constTypesStep, panics, hty, isAccept, appendNames_eq_none_iff, imp_iff_not_or]
      · simp [constTypesStep, panics]
    · cases tok <;> simp_all [constTypesStep, panics]
  all_goals simp [constTypesStep, panics]

/-- `constTypes` panics exactly when one of the declarations is one it panics on. -/
theorem constTypes_eq_none_iff (decls : List Decl) (accept max : String) :
    constTypes decls accept max = none ↔ ∃ d ∈ decls, panics accept d = true := by
  suffices run : ∀ names, decls.foldlM (constTypesStep accept max) names = none ↔
      ∃ d ∈ decls, panics accept d = true from run []
  induction decls with
  | nil => simp
  | cons d decls ih =>
      intro names
      rw [List.foldlM_cons]
      cases step : constTypesStep accept max names d with
      | none => simp [(constTypesStep_eq_none_iff accept max names d).mp step]
      | some next =>
          have calm : panics accept d = false := by
            simpa [step] using (constTypesStep_eq_none_iff accept max names d).not
          simp [ih next, calm]

/-! ## Go's typing of the same constants -/

/-- The constants of a `const` group with their declared types: a spec with
values has its explicit type (`none` when untyped), and a spec without values
repeats the type of the last spec with values before it. -/
def typedConsts : Option Expr → List Spec → List (String × Option Expr)
  | _, [] => []
  | carried, .valueSpec s :: rest =>
      let typ := if s.values = [] then carried else s.type
      s.names.map (·, typ) ++ typedConsts typ rest
  | carried, _ :: rest => typedConsts carried rest

/-- Every constant declared with the type identifier `accept`, in every `const`
group, `max` left out. -/
def goConstsOfType (decls : List Decl) (accept max : String) : List String :=
  decls.flatMap fun
    | .genDecl .CONST specs =>
        ((typedConsts none specs).filter fun c => c.2 == some (.ident accept) && c.1 != max).map Prod.fst
    | _ => []

/-- Three groups, each in the shape the loop misreads: a later spec of another
type in an accepted group (`other` is kept), a group whose first spec has another
type (`mulOpType` is dropped), and a spec with two names (`gtOpType` is dropped). -/
theorem constTypes_ne_goConstsOfType :
    let T := Expr.ident "ʘBinaryOperatorType"
    let decls := [
      .genDecl .CONST [.valueSpec ⟨["addOpType"], some T, [.other]⟩, .valueSpec ⟨["subOpType"], none, []⟩,
        .valueSpec ⟨["other"], some (.ident "int"), [.other]⟩],
      .genDecl .CONST [.valueSpec ⟨["x"], some (.ident "int"), [.other]⟩,
        .valueSpec ⟨["mulOpType"], some T, [.other]⟩],
      .genDecl .CONST [.valueSpec ⟨["ltOpType", "gtOpType"], some T, [.other, .other]⟩]]
    constTypes decls "ʘBinaryOperatorType" "maxʘBinaryOpType" =
        some ["addOpType", "subOpType", "other", "ltOpType"] ∧
      goConstsOfType decls "ʘBinaryOperatorType" "maxʘBinaryOpType" =
        ["addOpType", "subOpType", "mulOpType", "ltOpType", "gtOpType"] ∧
      constTypes decls "ʘBinaryOperatorType" "maxʘBinaryOpType" ≠
        some (goConstsOfType decls "ʘBinaryOperatorType" "maxʘBinaryOpType") := by
  decide

/-! ## Where the loop and Go agree

gorgonia's declaration files are `iota` blocks: a first spec with one name, a
type identifier and a value, then specs with one name that either repeat the
block's type with a value or have neither (implicit repetition).  On such files
the first-spec heuristic is exact. -/

/-- A later spec of a block typed `t`. -/
def Spec.continues (t : Option Expr) : Spec → Bool
  | .valueSpec s => s.names.length == 1 && (s.type == t && !s.values.isEmpty || s.type.isNone && s.values.isEmpty)
  | _ => false

def Decl.isIotaBlock : Decl → Bool
  | .genDecl .CONST (.valueSpec first :: rest) =>
      first.names.length == 1 && first.type.any Expr.isIdent && !first.values.isEmpty &&
        rest.all (Spec.continues first.type)
  | .genDecl .CONST [] => true
  | .genDecl .CONST (_ :: _) => false
  | _ => true

theorem typedConsts_continues (t : Option Expr) (rest : List Spec) (block : rest.all (Spec.continues t) = true) :
    typedConsts t rest = (rest.filterMap Spec.firstName?).map (·, t) := by
  induction rest with
  | nil => rfl
  | cons spec rest ih =>
      simp only [List.all_cons, Bool.and_eq_true] at block
      rcases spec with _ | s | _
      · exact absurd block.1 Bool.false_ne_true
      · have cont := block.1
        simp only [Spec.continues, Bool.and_eq_true, Bool.or_eq_true, beq_iff_eq, List.length_eq_one] at cont
        obtain ⟨name, hname⟩ := cont.1
        have carried : (if s.values = [] then t else s.type) = t := by
          by_cases values : s.values = []
          · rw [if_pos values]
          · rw [if_neg values]
            exact cont.2.elim (·.1) fun repeated => absurd (List.isEmpty_iff.mp repeated.2) values
        simp only [typedConsts, carried, hname, ih block.2, List.filterMap_cons, Spec.firstName?, List.head?_cons,
          List.map_cons, List.map_nil, List.singleton_append]
      · exact absurd block.1 Bool.false_ne_true

theorem filter_tagged (names : List String) (t u : Option Expr) (max : String) :
    ((names.map (·, t)).filter fun c => c.2 == u && c.1 != max).map Prod.fst =
      if t = u then names.filter (· != max) else [] := by
  by_cases same : t = u <;> simp [List.filter_map, Function.comp_def, same]

theorem acceptedNames_valueSpec_of_isIotaBlock (accept max : String) (first : ValueSpec) (rest : List Spec)
    (block : (Decl.genDecl .CONST (.valueSpec first :: rest)).isIotaBlock = true) :
    acceptedNames accept max (.genDecl .CONST (.valueSpec first :: rest)) =
      goConstsOfType [.genDecl .CONST (.valueSpec first :: rest)] accept max := by
  simp only [Decl.isIotaBlock, Bool.and_eq_true, beq_iff_eq, List.length_eq_one, Bool.not_eq_true',
    List.isEmpty_eq_false] at block
  obtain ⟨⟨⟨⟨name, hname⟩, ident⟩, hvalues⟩, cont⟩ := block
  obtain ⟨typ, htyp⟩ : ∃ typ, first.type = some typ := Option.isSome_iff_exists.mp (by
    cases h : first.type <;> simp_all)
  rw [htyp, Option.any_some] at ident
  have typed : typedConsts none (.valueSpec first :: rest) =
      ((Spec.valueSpec first :: rest).filterMap Spec.firstName?).map (·, some typ) := by
    simp [typedConsts, hvalues, hname, htyp, Spec.firstName?, typedConsts_continues _ rest (htyp ▸ cont)]
  have agree : typeName typ = accept ↔ some typ = some (Expr.ident accept) := by
    cases typ with
    | ident n => simp [typeName]
    | other => exact absurd ident Bool.false_ne_true
  simp only [acceptedNames, goConstsOfType, List.flatMap_cons, List.flatMap_nil, List.append_nil, typed,
    filter_tagged, List.head?_cons, Option.some_bind, Spec.typeName?, htyp, Option.map_some', Option.some.injEq,
    agree]

theorem acceptedNames_eq_of_isIotaBlock (accept max : String) (d : Decl)
    (block : d.isIotaBlock = true) :
    acceptedNames accept max d = goConstsOfType [d] accept max := by
  cases d with
  | funcDecl => rfl
  | badDecl => rfl
  | genDecl tok specs =>
      by_cases isConst : tok = .CONST
      · subst isConst
        rcases specs with _ | ⟨_ | first | _, rest⟩
        · rfl
        · simp [Decl.isIotaBlock] at block
        · exact acceptedNames_valueSpec_of_isIotaBlock accept max first rest block
        · simp [Decl.isIotaBlock] at block
      · cases tok <;> simp_all [acceptedNames, goConstsOfType]

theorem Spec.named_of_continues (t : Option Expr) (spec : Spec) (cont : spec.continues t = true) :
    spec.named = true := by
  rcases spec with _ | s | _ <;> simp_all [Spec.continues, Spec.named]
  intro empty
  simp [empty] at cont

theorem Decl.wellFormed_of_isIotaBlock (d : Decl) (block : d.isIotaBlock = true) : d.wellFormed = true := by
  rcases d with ⟨_ | _ | _ | _, _ | ⟨_ | first | _, rest⟩⟩ | _ | _ <;>
    simp only [Decl.isIotaBlock, Bool.false_eq_true] at block <;> try rfl
  simp only [Bool.and_eq_true, beq_iff_eq, List.all_eq_true] at block
  simp only [Decl.wellFormed, List.all_cons, List.all_eq_true, Bool.and_eq_true]
  refine ⟨?_, fun spec mem => Spec.named_of_continues _ spec (block.2 spec mem)⟩
  simp [Spec.named, ← List.length_pos, block.1.1.1]

/-- On a file of `iota` blocks, `constTypes` returns exactly the constants
declared with the type identifier `accept`, `max` left out. -/
theorem constTypes_eq_goConstsOfType (decls : List Decl) (accept max : String)
    (blocks : ∀ d ∈ decls, d.isIotaBlock = true) :
    constTypes decls accept max = some (goConstsOfType decls accept max) := by
  rw [constTypes_eq decls accept max fun d mem => Decl.wellFormed_of_isIotaBlock d (blocks d mem)]
  congr 1
  induction decls with
  | nil => rfl
  | cons d decls ih =>
      simp only [List.mem_cons, forall_eq_or_imp] at blocks
      rw [List.flatMap_cons, acceptedNames_eq_of_isIotaBlock accept max d blocks.1, ih blocks.2]
      simp [goConstsOfType]

/-- The sentinel example of the specification: `{Add, Sub, maxMarker}`. -/
theorem constTypes_eq_goConstsOfType_sentinel :
    let decls := [Decl.genDecl .CONST [.valueSpec ⟨["Add"], some (.ident "T"), [.other]⟩,
      .valueSpec ⟨["Sub"], none, []⟩, .valueSpec ⟨["maxMarker"], none, []⟩]]
    (∀ d ∈ decls, d.isIotaBlock = true) ∧
      constTypes decls "T" "maxMarker" = some (goConstsOfType decls "T" "maxMarker") ∧
      goConstsOfType decls "T" "maxMarker" = ["Add", "Sub"] :=
  ⟨by decide, constTypes_eq_goConstsOfType _ "T" "maxMarker" (by decide), by decide⟩

end Gorgonia
