import Gorgonia.GenApi

/-!
# The functions `api_gen.go` declares

`apiGenFuncs` lists the top-level functions of the generated file as the
templates lay them out.  This module reads them off the file instead:
`declaredFuncs` scans a Go text for the lines that start with `func ` and takes
each name up to its `(`.  After a run in which the output file opens, both
declaration files parse and no write fails, the functions `api_gen.go`
declares are `apiGenFuncs` of the two catalogs (`declaredFuncs_main_quiet`),
for catalogs of names with no line break and no `(`, as Go identifiers are.
-/

set_option autoImplicit false

namespace Gorgonia

/-! ## Scanning a Go text -/

inductive ScanMode
  /-- At the `k`-th character of a line, the line so far being `"func "` up to `k`. -/
  | lineStart (k : Nat)
  /-- After `func `, reading a name. -/
  | name (acc : List Char)
  /-- The rest of a line. -/
  | skip

structure ScanState where
  mode : ScanMode
  found : List String

def ScanState.step (st : ScanState) (c : Char) : ScanState :=
  match st.mode with
  | .lineStart k =>
      if c = '\n' then ⟨.lineStart 0, st.found⟩
      else if "func ".data.get? k = some c then
        if k = 4 then ⟨.name [], st.found⟩ else ⟨.lineStart (k + 1), st.found⟩
      else ⟨.skip, st.found⟩
  | .name acc =>
      if c = '(' then ⟨.skip, st.found ++ [⟨acc.reverse⟩]⟩
      else if c = '\n' then ⟨.lineStart 0, st.found⟩
      else ⟨.name (c :: acc), st.found⟩
  | .skip => if c = '\n' then ⟨.lineStart 0, st.found⟩ else ⟨.skip, st.found⟩

/-- The top-level functions a Go text declares, in order: every line that starts
with `func ` names one, up to its `(`. -/
def declaredFuncs (text : String) : List String :=
  (text.data.foldl ScanState.step ⟨.lineStart 0, []⟩).found

/-- A character that neither ends a line nor opens a parameter list. -/
def plainChar (c : Char) : Bool := c != '\n' && c != '('

theorem foldl_step_skip (s : List Char) (plain : s.all plainChar = true) (found : List String) :
    s.foldl ScanState.step ⟨.skip, found⟩ = ⟨.skip, found⟩ := by
  induction s with
  | nil => rfl
  | cons c s ih =>
      simp only [List.all_cons, Bool.and_eq_true, plainChar, bne_iff_ne, ne_eq] at plain
      simp [ScanState.step, plain.1.1, ih plain.2]

theorem foldl_step_name (s : List Char) (plain : s.all plainChar = true) (acc : List Char)
    (found : List String) : s.foldl ScanState.step ⟨.name acc, found⟩ = ⟨.name (s.reverse ++ acc), found⟩ := by
  induction s generalizing acc with
  | nil => rfl
  | cons c s ih =>
      simp only [List.all_cons, Bool.and_eq_true, plainChar, bne_iff_ne, ne_eq] at plain
      simp [ScanState.step, plain.1.1, plain.1.2, ih plain.2]

/-! ## Public names have no line break and no `(` -/

theorem plainChar_of_range (c : Char) (lo : 65 ≤ c.toNat) : plainChar c = true := by
  simp only [plainChar, Bool.and_eq_true, bne_iff_ne, ne_eq]
  constructor <;> rintro rfl <;> revert lo <;> decide

theorem plainChar_toUpper (c : Char) (plain : plainChar c = true) : plainChar c.toUpper = true := by
  by_cases lower : c.isLower = true
  · have upper := toNat_toUpper_of_isLower c lower
    have range := toNat_of_isLower c lower
    exact plainChar_of_range _ (by omega)
  · have same : c.toUpper = c := by
      simp only [Char.isLower, Bool.and_eq_true, decide_eq_true_eq, not_and] at lower
      unfold Char.toUpper
      exact if_neg fun range => lower range.1 range.2
    rwa [same]

theorem plainChar_toLower (c : Char) (plain : plainChar c = true) : plainChar c.toLower = true := by
  unfold Char.toLower
  dsimp only
  split
  · next upper =>
      apply plainChar_of_range
      rw [Char.ofNat, dif_pos (Or.inl (by omega))]
      have same : c.toNat = c.val.toBitVec.toNat := rfl
      simp only [Char.ofNatAux, Char.toNat, UInt32.toNat, BitVec.toNat_ofNatLt]
      omega
  · exact plain

theorem plainChar_of_isAlpha (c : Char) (alpha : c.isAlpha = true) : plainChar c = true := by
  apply plainChar_of_range
  simp only [Char.isAlpha, Char.isUpper, Char.isLower, Bool.or_eq_true, Bool.and_eq_true, decide_eq_true_eq] at alpha
  rcases alpha with ⟨lo, -⟩ | ⟨lo, -⟩
  · exact lo
  · exact Nat.le_trans (by decide) lo

theorem plainChar_of_case (c d : Char) (ascii : c.toNat ≤ 0x7F → plainChar d = true)
    (above : 0x7F < c.toNat → d.toNat ≤ 0x7F → d.isAlpha = true) : plainChar d = true := by
  by_cases low : c.toNat ≤ 0x7F
  · exact ascii low
  · by_cases low' : d.toNat ≤ 0x7F
    · exact plainChar_of_isAlpha d (above (by omega) low')
    · exact plainChar_of_range d (by omega)

section Names
variable [UnicodeCase]

theorem plainChar_toTitle (c : Char) (plain : plainChar c = true) : plainChar (UnicodeCase.toTitle c) = true :=
  plainChar_of_case c _ (fun low => by rw [UnicodeCase.toTitle_ascii c low]; exact plainChar_toUpper c plain)
    (UnicodeCase.toTitle_above c)

theorem plainChar_unicodeToLower (c : Char) (plain : plainChar c = true) :
    plainChar (UnicodeCase.toLower c) = true :=
  plainChar_of_case c _ (fun low => by rw [UnicodeCase.toLower_ascii c low]; exact plainChar_toLower c plain)
    (UnicodeCase.toLower_above c)

theorem plainName_titleFrom (prev : Char) (cs : List Char) (plain : cs.all plainChar = true) :
    (titleFrom prev cs).all plainChar = true := by
  induction cs generalizing prev with
  | nil => rfl
  | cons c cs ih =>
      simp only [List.all_cons, Bool.and_eq_true] at plain
      simp only [titleFrom, List.all_cons, Bool.and_eq_true]
      refine ⟨?_, ih c plain.2⟩
      split
      · exact plainChar_toTitle c plain.1
      · exact plain.1

theorem plainName_title_trimSuffix (v : String) (plain : v.data.all plainChar = true) :
    (title (trimSuffix v "OpType")).data.all plainChar = true := by
  apply plainName_titleFrom
  unfold trimSuffix
  split
  · exact List.all_eq_true.mpr fun c mem => List.all_eq_true.mp plain c (List.mem_of_mem_take mem)
  · exact plain

theorem plainName_unaryAPIName (v : String) (plain : v.data.all plainChar = true) :
    (unaryAPIName v).data.all plainChar = true := by
  unfold unaryAPIName
  dsimp only
  split
  · decide
  · exact plainName_title_trimSuffix v plain

theorem plainName_binaryAPIName (v : String) (plain : v.data.all plainChar = true) :
    (binaryAPIName v).data.all plainChar = true := by
  unfold binaryAPIName
  dsimp only
  split
  · decide
  · split
    · decide
    · exact plainName_title_trimSuffix v plain

theorem plainName_toLower (s : String) (plain : s.data.all plainChar = true) :
    (toLower s).data.all plainChar = true := by
  simp only [toLower, List.all_map, List.all_eq_true, Function.comp_apply] at plain ⊢
  exact fun c mem => plainChar_unicodeToLower c (plain c mem)

end Names

/-! ## Fixed text -/

theorem step_found (m : ScanMode) (found : List String) (c : Char) :
    ScanState.step ⟨m, found⟩ c =
      ⟨(ScanState.step ⟨m, []⟩ c).mode, found ++ (ScanState.step ⟨m, []⟩ c).found⟩ := by
  cases m <;> simp only [ScanState.step] <;> split_ifs <;> simp

theorem foldl_step_found (s : List Char) (m : ScanMode) (found : List String) :
    s.foldl ScanState.step ⟨m, found⟩ =
      ⟨(s.foldl ScanState.step ⟨m, []⟩).mode, found ++ (s.foldl ScanState.step ⟨m, []⟩).found⟩ := by
  induction s generalizing m found with
  | nil => simp
  | cons c s ih =>
      simp only [List.foldl_cons]
      rw [step_found, ih, ih (ScanState.step ⟨m, []⟩ c).mode (ScanState.step ⟨m, []⟩ c).found, List.append_assoc]

theorem foldl_step_lit (s : List Char) (m m' : ScanMode) (fs found : List String)
    (eval : s.foldl ScanState.step ⟨m, []⟩ = ⟨m', fs⟩) : s.foldl ScanState.step ⟨m, found⟩ = ⟨m', found ++ fs⟩ := by
  rw [foldl_step_found, eval]

theorem foldl_step_name_paren (s acc : List Char) (found : List String) (pre : List Char) (m' : ScanMode)
    (fs : List String) (named : s.takeWhile plainChar = pre) (opens : (s.dropWhile plainChar).head? = some '(')
    (eval : ((s.dropWhile plainChar).drop 1).foldl ScanState.step ⟨.skip, []⟩ = ⟨m', fs⟩) :
    s.foldl ScanState.step ⟨.name acc, found⟩ = ⟨m', found ++ ⟨acc.reverse ++ pre⟩ :: fs⟩ := by
  subst named
  induction s generalizing acc with
  | nil => simp at opens
  | cons c s ih =>
      by_cases c_plain : plainChar c = true
      · simp only [List.dropWhile_cons, c_plain, if_true] at opens eval
        have step : ScanState.step ⟨.name acc, found⟩ c = ⟨.name (c :: acc), found⟩ := by
          simp only [plainChar, Bool.and_eq_true, bne_iff_ne, ne_eq] at c_plain
          simp [ScanState.step, c_plain.1, c_plain.2]
        rw [List.foldl_cons, step, ih (c :: acc) opens eval]
        simp [List.takeWhile_cons, c_plain]
      · simp only [List.dropWhile_cons, c_plain, Bool.false_eq_true, if_false, List.head?_cons,
          Option.some.injEq, List.drop_succ_cons, List.drop_zero] at opens eval
        subst opens
        rw [List.foldl_cons, show ScanState.step ⟨.name acc, found⟩ '(' = ⟨.skip, found ++ [⟨acc.reverse⟩]⟩ by
          simp [ScanState.step], foldl_step_lit _ _ _ _ _ eval]
        simp [List.takeWhile_cons, c_plain]

theorem foldl_binaryHeader (name lower : String) (plainName : name.data.all plainChar = true)
    (plainLower : lower.data.all plainChar = true) (found : List String) :
    (String.join ["// ", name, " perfors a pointwise ", lower, " operation.\n"]).data.foldl ScanState.step
      ⟨.lineStart 0, found⟩ = ⟨.lineStart 0, found⟩ := by
  simp only [String.data_join, List.map_cons, List.map_nil, List.flatten_cons, List.flatten_nil, List.append_nil,
    List.foldl_append]
  rw [foldl_step_lit _ (.lineStart 0) .skip [], foldl_step_skip _ plainName, foldl_step_lit _ .skip .skip [],
    foldl_step_skip _ plainLower, foldl_step_lit _ .skip (.lineStart 0) []]
  · simp
  all_goals rfl

set_option maxRecDepth 2000 in
theorem foldl_factory (name v : String) (plainName : name.data.all plainChar = true)
    (plainV : v.data.all plainChar = true) (found : List String) (st : ScanState)
    (start : st = ⟨.skip, found⟩) :
    (String.join [name, "Op ...\nfunc New", name,
      "Operation() Operation \x7b\n\treturn func(g graph.WeightedDirected, n node.Node) (ops.Op, error) \x7b" ++
        "\n\t\tit := getOrderedChildren(g, n)\n\t\tchildren := make([]*Node, it.Len())" ++
        "\n\t\tfor i := 0; it.Next(); i++ \x7b\n\t\t\tchildren[i] = it.Node().(*Node)\n\t\t\x7d" ++
        "\n\t\treturn newElemBinOp(", v, ", children[0], children[1]), nil\n\t\x7d\n\x7d\n"]).data.foldl
      ScanState.step st = ⟨.lineStart 0, found ++ [newOperation name]⟩ := by
  subst start
  simp only [String.data_join, List.map_cons, List.map_nil, List.flatten_cons, List.flatten_nil, List.append_nil,
    List.foldl_append]
  rw [foldl_step_skip _ plainName, foldl_step_lit _ .skip (.name "weN".data) [], foldl_step_name _ plainName,
    foldl_step_name_paren _ _ _ "Operation".data .skip [], foldl_step_skip _ plainV,
    foldl_step_lit _ .skip (.lineStart 0) []]
  · simp [String.ext_iff, newOperation]
  all_goals rfl

set_option maxRecDepth 2000 in
theorem foldl_banner : banner.data.foldl ScanState.step ⟨.lineStart 0, []⟩ = ⟨.lineStart 0, []⟩ := rfl

/-! ## The blocks -/

section Blocks
variable [UnicodeCase]

theorem foldl_unaryBlock (v : String) (plain : v.data.all plainChar = true) (found : List String) :
    (block unaryTemplate (unaryDataOf v)).data.foldl ScanState.step ⟨.lineStart 0, found⟩ =
      ⟨.lineStart 0, found ++ [unaryAPIName v]⟩ := by
  have name := plainName_unaryAPIName v plain
  have pieces : (render (unaryDataOf v) unaryTemplate).1 = [" // ", unaryAPIName v, " performs a pointwise ",
      toLower (unaryAPIName v), ".\nfunc ", unaryAPIName v,
      "(a *Node) (*Node, error) \x7b return unaryOpNode(newElemUnaryOp(", v, ", a), a) \x7d\n"] := rfl
  rw [block, pieces]
  simp only [String.data_join, List.map_cons, List.map_nil, List.flatten_cons, List.flatten_nil, List.append_nil,
    List.foldl_append]
  -- piece by piece: each fixed text moves the scanner from one mode to the next, the names are read
  -- as the rest of a line, except after `func `, where the function's name is read up to its `(`
  rw [foldl_step_lit _ (.lineStart 0) .skip [], foldl_step_skip _ name, foldl_step_lit _ .skip .skip [],
    foldl_step_skip _ (plainName_toLower _ name), foldl_step_lit _ .skip (.name []) [], foldl_step_name _ name,
    foldl_step_name_paren _ _ _ [] .skip [], foldl_step_skip _ plain, foldl_step_lit _ .skip (.lineStart 0) []]
  · simp [String.ext_iff]
  all_goals rfl

set_option maxRecDepth 2000 in
theorem foldl_binaryBlock (v : String) (plain : v.data.all plainChar = true) (found : List String) :
    (block binaryTemplate (binaryDataOf v)).data.foldl ScanState.step ⟨.lineStart 0, found⟩ =
      ⟨.lineStart 0, found ++ [binaryAPIName v, newOperation (binaryAPIName v)]⟩ := by
  have name := plainName_binaryAPIName v plain
  have pieces : ∀ same, (render (binaryData (binaryAPIName v) v same) binaryTemplate).1 =
      ["// ", binaryAPIName v, " perfors a pointwise ", toLower (binaryAPIName v), " operation.\n"] ++
      (if same then
        ["//\tretSame indicates if the data type of the return value should be the same as the " ++
          "input data type. It defaults to Bool otherwise.\n", "func ", binaryAPIName v, "(a, b *Node",
          ", retSame bool", ") (*Node, error) \x7b ", "op := newElemBinOp(", v,
          ", a, b)\n\top.retSame = retSame\n\treturn binOpNode(op, a, b)\n", "\x7d\n\n// "]
      else
        ["func ", binaryAPIName v, "(a, b *Node", ") (*Node, error) \x7b ", "return binOpNode(newElemBinOp(", v,
          ", a, b), a, b) ", "\x7d\n\n// "]) ++
      [binaryAPIName v, "Op ...\nfunc New", binaryAPIName v,
        "Operation() Operation \x7b\n\treturn func(g graph.WeightedDirected, n node.Node) (ops.Op, error) \x7b" ++
          "\n\t\tit := getOrderedChildren(g, n)\n\t\tchildren := make([]*Node, it.Len())" ++
          "\n\t\tfor i := 0; it.Next(); i++ \x7b\n\t\t\tchildren[i] = it.Node().(*Node)\n\t\t\x7d" ++
          "\n\t\treturn newElemBinOp(", v, ", children[0], children[1]), nil\n\t\x7d\n\x7d\n"] := by
    intro same
    cases same <;> rfl
  rw [block, binaryDataOf, pieces, join_append_eq, join_append_eq, String.data_append, String.data_append,
    List.foldl_append, List.foldl_append,
    foldl_binaryHeader _ _ name (plainName_toLower _ name), foldl_factory _ _ name plain (found ++ [binaryAPIName v])]
  · simp
  -- the function's own declaration, with or without the `retSame` parameter and its comment line
  cases asSame (binaryAPIName v) <;>
    simp only [Bool.false_eq_true, if_true, if_false, String.data_join, List.map_cons, List.map_nil, List.flatten_cons,
      List.flatten_nil, List.append_nil, List.foldl_append]
  · rw [foldl_step_lit _ (.lineStart 0) (.name []) [], foldl_step_name _ name, foldl_step_name_paren _ _ _ [] .skip [],
      foldl_step_lit _ .skip .skip [], foldl_step_lit _ .skip .skip [], foldl_step_skip _ plain,
      foldl_step_lit _ .skip .skip [], foldl_step_lit _ .skip .skip []]
    · simp [String.ext_iff]
    all_goals rfl
  · rw [foldl_step_lit _ (.lineStart 0) (.lineStart 0) [], foldl_step_lit _ (.lineStart 0) (.name []) [],
      foldl_step_name _ name, foldl_step_name_paren _ _ _ [] .skip [], foldl_step_lit _ .skip .skip [],
      foldl_step_lit _ .skip .skip [], foldl_step_lit _ .skip .skip [], foldl_step_skip _ plain,
      foldl_step_lit _ .skip (.lineStart 0) [], foldl_step_lit _ (.lineStart 0) .skip []]
    · simp [String.ext_iff]
    all_goals rfl

/-! ## A run -/

theorem foldl_blocks (tmpl : List Node) (dataOf : String → Data) (declared : String → List String)
    (names : List String)
    (each : ∀ v ∈ names, ∀ found, (block tmpl (dataOf v)).data.foldl ScanState.step ⟨.lineStart 0, found⟩ =
      ⟨.lineStart 0, found ++ declared v⟩) (found : List String) :
    (String.join (names.map fun v => block tmpl (dataOf v))).data.foldl ScanState.step ⟨.lineStart 0, found⟩ =
      ⟨.lineStart 0, found ++ names.flatMap declared⟩ := by
  induction names generalizing found with
  | nil => simp
  | cons v names ih =>
      simp only [List.mem_cons, forall_eq_or_imp] at each
      simp only [List.map_cons, join_cons_eq, String.data_append, List.foldl_append, each.1, ih each.2,
        List.flatMap_cons, List.append_assoc]

/-- With no failing write, `api_gen.go` holds the UTF-8 encoding of a text
whose declared functions are `apiGenFuncs` of the two catalogs, when no operator
name holds a line break or a `(`. -/
theorem declaredFuncs_main_quiet (unary binary : SourceFile)
    (identifiers : ∀ v ∈ unary.decls.flatMap (acceptedNames "ʘUnaryOperatorType" "maxʘUnaryOperator") ++
      binary.decls.flatMap (acceptedNames "ʘBinaryOperatorType" "maxʘBinaryOpType"), v.data.all plainChar = true) :
    ∃ text, (main ⟨false, .ok unary, .ok binary, quiet⟩).output = some (utf8 text) ∧
      declaredFuncs text = apiGenFuncs (unary.decls.flatMap (acceptedNames "ʘUnaryOperatorType" "maxʘUnaryOperator"))
        (binary.decls.flatMap (acceptedNames "ʘBinaryOperatorType" "maxʘBinaryOpType")) := by
  simp only [List.mem_append, or_imp, forall_and] at identifiers
  refine ⟨banner ++
    String.join ((unary.decls.flatMap (acceptedNames "ʘUnaryOperatorType" "maxʘUnaryOperator")).map
      fun v => block unaryTemplate (unaryDataOf v)) ++
    String.join ((binary.decls.flatMap (acceptedNames "ʘBinaryOperatorType" "maxʘBinaryOpType")).map
      fun v => block binaryTemplate (binaryDataOf v)), ?_, ?_⟩
  · rw [main_ok, executeAll_quiet_binary, executeAll_quiet_unary]
    simp [Writer.write, quiet]
  · simp only [declaredFuncs, String.data_append, List.foldl_append, foldl_banner]
    rw [foldl_blocks unaryTemplate unaryDataOf (fun v => [unaryAPIName v]) _
        fun v mem => foldl_unaryBlock v (identifiers.1 v mem),
      foldl_blocks binaryTemplate binaryDataOf (fun v => [binaryAPIName v, newOperation (binaryAPIName v)]) _
        fun v mem => foldl_binaryBlock v (identifiers.2 v mem)]
    simp [apiGenFuncs, List.map_eq_flatMap]

end Blocks

/-- One unary and two binary operators: `lnOpType` is declared as `Log`,
`mulOpType` as `HadamardProd`. -/
theorem declaredFuncs_main_quiet_ln_lt_mul :
    let unary : SourceFile :=
      ⟨[.genDecl .CONST [.valueSpec ⟨["lnOpType"], some (.ident "ʘUnaryOperatorType"), [.other]⟩]], by decide⟩
    let binary : SourceFile :=
      ⟨[.genDecl .CONST [.valueSpec ⟨["ltOpType"], some (.ident "ʘBinaryOperatorType"), [.other]⟩,
        .valueSpec ⟨["mulOpType"], none, []⟩]], by decide⟩
    (∀ v ∈ unary.decls.flatMap (acceptedNames "ʘUnaryOperatorType" "maxʘUnaryOperator") ++
      binary.decls.flatMap (acceptedNames "ʘBinaryOperatorType" "maxʘBinaryOpType"), v.data.all plainChar = true) ∧
    ∃ text, (main ⟨false, .ok unary, .ok binary, quiet⟩).output = some (utf8 text) ∧
      declaredFuncs text = ["Log", "Lt", "NewLtOperation", "HadamardProd", "NewHadamardProdOperation"] :=
  let ⟨text, output, declared⟩ := declaredFuncs_main_quiet _ _ (by decide)
  ⟨by decide, text, output, declared.trans (by decide)⟩

end Gorgonia
