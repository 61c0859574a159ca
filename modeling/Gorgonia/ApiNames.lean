import Gorgonia.ConstTypes

/-!
# Public names of the operators

`generateUnary` and `generateBinary` turn an internal opcode name into the name of
the generated API function: `strings.Title(strings.TrimSuffix(v, "OpType"))`,
then a "legacy" override (`Ln` becomes `Log` for unary operators, `Mul` and
`Div` become `HadamardProd` and `HadamardDiv` for binary ones).  The binary
operators whose public name is a comparison get the extra `retSame` parameter.

Strings are their characters.  `strings.Title` and `strings.ToLower` map runes
with `unicode.ToTitle` and `unicode.ToLower`, whose tables are Go's: the model
takes them as a class, `UnicodeCase`, that keeps what the lemmas need of them.
`strings.Title`'s word separators are modelled exactly.

`apiGenFuncs_nodup_iff` says which catalogs of gorgonia-style opcode names
make the generated file declare a function twice.
-/

set_option autoImplicit false

namespace Gorgonia

/-! ## Case mappings -/

/-- `unicode.ToTitle` and `unicode.ToLower`.  On ASCII they are the ASCII
mappings; above ASCII they yield an ASCII rune only if it is a letter (Go
titles `ı` to `I` and lowers the Kelvin sign to `k`). -/
class UnicodeCase where
  toTitle : Char → Char
  toLower : Char → Char
  toTitle_ascii : ∀ c : Char, c.toNat ≤ 0x7F → toTitle c = c.toUpper
  toLower_ascii : ∀ c : Char, c.toNat ≤ 0x7F → toLower c = c.toLower
  toTitle_above : ∀ c : Char, 0x7F < c.toNat → (toTitle c).toNat ≤ 0x7F → (toTitle c).isAlpha = true
  toLower_above : ∀ c : Char, 0x7F < c.toNat → (toLower c).toNat ≤ 0x7F → (toLower c).isAlpha = true

theorem toUpper_of_above (c : Char) (above : 0x7F < c.toNat) : c.toUpper = c := by
  dsimp only [Char.toUpper]
  exact if_neg (by omega)

theorem toLower_of_above (c : Char) (above : 0x7F < c.toNat) : c.toLower = c := by
  dsimp only [Char.toLower]
  exact if_neg (by omega)

/-- The ASCII mappings, every other rune left as it is: the instance examples
evaluate with.  Every theorem holds for any `UnicodeCase`. -/
instance (priority := low) asciiCase : UnicodeCase where
  toTitle := Char.toUpper
  toLower := Char.toLower
  toTitle_ascii _ _ := rfl
  toLower_ascii _ _ := rfl
  toTitle_above c above below := absurd below (by rw [toUpper_of_above c above]; omega)
  toLower_above c above below := absurd below (by rw [toLower_of_above c above]; omega)

/-! ## The names -/

/-- `strings.TrimSuffix`. -/
def trimSuffix (s suffix : String) : String :=
  if suffix.data <:+ s.data then ⟨s.data.take (s.length - suffix.length)⟩ else s

/-- `unicode.IsSpace` on runes above ASCII. -/
def isUnicodeSpace (c : Char) : Bool :=
  c.toNat == 0x85 || c.toNat == 0xA0 || c.toNat == 0x1680 || (0x2000 ≤ c.toNat && c.toNat ≤ 0x200A) ||
    c.toNat == 0x2028 || c.toNat == 0x2029 || c.toNat == 0x202F || c.toNat == 0x205F || c.toNat == 0x3000

/-- `isSeparator` of package `strings`: ASCII letters, digits and `_` are not
separators, other ASCII runes are; above ASCII only spaces are. -/
def isSeparator (c : Char) : Bool :=
  if c.toNat ≤ 0x7F then !(c.isAlphanum || c == '_') else isUnicodeSpace c

/-- `data.AsSame` in `generateBinary`: the comparison operators. -/
def asSame (apiName : String) : Bool :=
  apiName ∈ ["Lt", "Gt", "Lte", "Gte", "Eq", "Ne"]

/-- `New{{.FnName}}Operation`, the factory of a binary operator. -/
def newOperation (fnName : String) : String := "New" ++ fnName ++ "Operation"

section Names
variable [UnicodeCase]

/-- `strings.Title`: every rune after a separator (and the first) to title case. -/
def titleFrom : Char → List Char → List Char
  | _, [] => []
  | prev, c :: cs => (if isSeparator prev then UnicodeCase.toTitle c else c) :: titleFrom c cs

def title (s : String) : String := ⟨titleFrom ' ' s.data⟩

/-- `strings.ToLower`, the template function `lower`. -/
def toLower (s : String) : String := ⟨s.data.map UnicodeCase.toLower⟩

/-- `apiName` before the legacy overrides. -/
def baseAPIName (v : String) : String := title (trimSuffix v "OpType")

/-- `apiName` in `generateUnary`. -/
def unaryAPIName (v : String) : String :=
  let apiName := baseAPIName v
  if apiName = "Ln" then "Log" else apiName

/-- `apiName` in `generateBinary`. -/
def binaryAPIName (v : String) : String :=
  let apiName := baseAPIName v
  if apiName = "Mul" then "HadamardProd" else if apiName = "Div" then "HadamardDiv" else apiName

/-- The top-level functions of the generated file, in order: `func {{.FnName}}`
of each unary block, then `func {{.FnName}}` and `func New{{.FnName}}Operation`
of each binary block. -/
def apiGenFuncs (unary binary : List String) : List String :=
  unary.map unaryAPIName ++ binary.flatMap fun v => [binaryAPIName v, newOperation (binaryAPIName v)]

end Names

/-! ## The functions `api_gen.go` declares -/

theorem newOperation_injective : Function.Injective newOperation := by
  intro x y same
  have := congrArg String.data same
  simp only [newOperation, String.data_append, List.append_cancel_left_eq, List.append_cancel_right_eq] at this
  exact String.ext this

theorem flatMap_pair_perm {α β : Type} (f g : α → β) (l : List α) :
    (l.flatMap fun v => [f v, g v]).Perm (l.map f ++ l.map g) := by
  induction l with
  | nil => rfl
  | cons v l ih =>
      simp only [List.flatMap_cons, List.map_cons, List.cons_append, List.singleton_append]
      exact ((ih.cons (g v)).trans List.perm_middle.symm).cons (f v)

section Names
variable [UnicodeCase]

theorem apiGenFuncs_nodup_iff_names (unary binary : List String) :
    (apiGenFuncs unary binary).Nodup ↔
      (unary.map unaryAPIName ++ binary.map binaryAPIName).Nodup ∧
        ∀ p ∈ unary.map unaryAPIName ++ binary.map binaryAPIName, ∀ b ∈ binary,
          p ≠ newOperation (binaryAPIName b) := by
  have perm : (apiGenFuncs unary binary).Perm ((unary.map unaryAPIName ++ binary.map binaryAPIName) ++
      (binary.map binaryAPIName).map newOperation) := by
    simpa [apiGenFuncs, List.append_assoc, List.map_map] using
      (flatMap_pair_perm binaryAPIName (newOperation ∘ binaryAPIName) binary).append_left
        (unary.map unaryAPIName)
  rw [perm.nodup_iff, List.nodup_append]
  constructor
  · rintro ⟨nodup, -, disjoint⟩
    exact ⟨nodup, fun p inNames b inBinary same =>
      disjoint inNames (same ▸ List.mem_map_of_mem _ (List.mem_map_of_mem _ inBinary))⟩
  · rintro ⟨nodup, fresh⟩
    refine ⟨nodup, (List.nodup_append.mp nodup).2.1.map newOperation_injective, ?_⟩
    intro p inNames inFactories
    obtain ⟨q, inPublic, rfl⟩ := List.mem_map.mp inFactories
    obtain ⟨b, inBinary, rfl⟩ := List.mem_map.mp inPublic
    exact fresh _ inNames b inBinary rfl

end Names

/-! ## Public names of gorgonia-style opcodes

gorgonia names an opcode by a lower-case stem followed by `OpType`
(`absOpType`, `inverseSqrtOpType`).  On such names `strings.Title` only
capitalises the first letter, so the public name determines the opcode, except
where the override table maps one stem onto the public name of another. -/

/-- A stem of runes that are not separators, beginning with a lower-case ASCII letter. -/
def isStem (s : String) : Bool :=
  match s.data with
  | c :: cs => c.isLower && cs.all (!isSeparator ·)
  | [] => false

def isOpcodeName (v : String) : Bool :=
  decide ("OpType".data <:+ v.data) && isStem (trimSuffix v "OpType")

theorem trimSuffix_append (s suffix : String) (ends : suffix.data <:+ s.data) :
    trimSuffix s suffix ++ suffix = s := by
  obtain ⟨pre, split⟩ := id ends
  have len : s.length - suffix.length = pre.length := by
    simp only [String.length, ← split, List.length_append]
    omega
  ext1
  simp [trimSuffix, ends, len, ← split]

theorem trimSuffix_append_self (s suffix : String) : trimSuffix (s ++ suffix) suffix = s := by
  have ends : suffix.data <:+ (s ++ suffix).data := by rw [String.data_append]; exact List.suffix_append _ _
  rw [trimSuffix, if_pos ends, String.length_append, Nat.add_sub_cancel]
  ext1
  show List.take s.length (s ++ suffix).data = s.data
  rw [String.data_append]
  exact List.take_left' rfl

theorem mem_trimSuffix (s suffix : String) (c : Char) (mem : c ∈ (trimSuffix s suffix).data) : c ∈ s.data := by
  unfold trimSuffix at mem
  split at mem
  · exact List.mem_of_mem_take mem
  · exact mem

theorem isOpcodeName_append (s : String) (stem : isStem s = true) : isOpcodeName (s ++ "OpType") = true := by
  simp [isOpcodeName, List.suffix_append, trimSuffix_append_self, stem]

theorem isOpcodeName_unary (v : String) (opcode : isOpcodeName v = true) :
    isOpcodeName (if v = "lnOpType" then "logOpType" else v) = true := by
  split
  · rfl
  · exact opcode

theorem isOpcodeName_binary (v : String) (opcode : isOpcodeName v = true) :
    isOpcodeName (if v = "mulOpType" then "hadamardProdOpType" else if v = "divOpType" then "hadamardDivOpType"
      else v) = true := by
  split
  · rfl
  · split
    · rfl
    · exact opcode

theorem toNat_of_isLower (c : Char) (lower : c.isLower = true) : 97 ≤ c.toNat ∧ c.toNat ≤ 122 := by
  simpa only [Char.isLower, Bool.and_eq_true, decide_eq_true_eq] using lower

theorem isSeparator_of_isLower (c : Char) (lower : c.isLower = true) : isSeparator c = false := by
  have range := toNat_of_isLower c lower
  simp [isSeparator, show c.toNat ≤ 0x7F by omega, Char.isAlphanum, Char.isAlpha, lower]

theorem toNat_toUpper_of_isLower (c : Char) (lower : c.isLower = true) :
    c.toUpper.toNat = c.toNat - 32 := by
  have range := toNat_of_isLower c lower
  unfold Char.toUpper
  rw [if_pos range, Char.ofNat, dif_pos (Or.inl (by omega))]
  simp [Char.ofNatAux, Char.toNat, UInt32.toNat, BitVec.toNat_ofNatLt]

theorem isSeparator_toUpper_of_isLower (c : Char) (lower : c.isLower = true) : isSeparator c.toUpper = false := by
  have upper := toNat_toUpper_of_isLower c lower
  have range := toNat_of_isLower c lower
  have isUpper : c.toUpper.isUpper = true := by
    simp only [Char.isUpper, Bool.and_eq_true, decide_eq_true_eq]
    exact ⟨show 65 ≤ c.toUpper.toNat by omega, show c.toUpper.toNat ≤ 90 by omega⟩
  simp [isSeparator, Char.isAlphanum, Char.isAlpha, isUpper, show c.toUpper.toNat ≤ 0x7F by omega]

section Names
variable [UnicodeCase]

theorem titleFrom_of_not_separator (prev : Char) (cs : List Char) (joined : isSeparator prev = false)
    (word : ∀ x ∈ cs, isSeparator x = false) : titleFrom prev cs = cs := by
  induction cs generalizing prev with
  | nil => rfl
  | cons c cs ih =>
      simp only [List.mem_cons, forall_eq_or_imp] at word
      simp [titleFrom, joined, ih c word.1 word.2]

theorem titleFrom_of_ascii (prev : Char) (cs : List Char) (ascii : ∀ c ∈ cs, c.toNat ≤ 0x7F) :
    titleFrom prev cs = @titleFrom asciiCase prev cs := by
  induction cs generalizing prev with
  | nil => rfl
  | cons c cs ih =>
      simp only [List.mem_cons, forall_eq_or_imp] at ascii
      simp only [titleFrom, UnicodeCase.toTitle_ascii c ascii.1, ih c ascii.2]
      rfl

theorem title_of_ascii (s : String) (ascii : ∀ c ∈ s.data, c.toNat ≤ 0x7F) : title s = @title asciiCase s :=
  congrArg String.mk (titleFrom_of_ascii ' ' s.data ascii)

theorem title_of_isStem (s : String) (stem : isStem s = true) :
    ∃ c cs, s.data = c :: cs ∧ c.isLower = true ∧ (title s).data = c.toUpper :: cs := by
  rcases hs : s.data with _ | ⟨c, cs⟩
  · simp [isStem, hs] at stem
  · simp only [isStem, hs, Bool.and_eq_true, List.all_eq_true] at stem
    have ascii : c.toNat ≤ 0x7F := by
      have range := toNat_of_isLower c stem.1
      omega
    refine ⟨c, cs, rfl, stem.1, ?_⟩
    simp [title, hs, titleFrom, show isSeparator ' ' = true by decide, UnicodeCase.toTitle_ascii c ascii,
      titleFrom_of_not_separator c cs (isSeparator_of_isLower c stem.1) (by simpa using stem.2)]

theorem title_inj_of_isStem (s t : String) (stemS : isStem s = true) (stemT : isStem t = true)
    (same : title s = title t) : s = t := by
  obtain ⟨c, cs, hs, lowerC, titleS⟩ := title_of_isStem s stemS
  obtain ⟨d, ds, ht, lowerD, titleT⟩ := title_of_isStem t stemT
  have data := congrArg String.data same
  rw [titleS, titleT, List.cons.injEq] at data
  have heads : c = d := by
    have upper := congrArg Char.toNat data.1
    rw [toNat_toUpper_of_isLower c lowerC, toNat_toUpper_of_isLower d lowerD] at upper
    have rangeC := toNat_of_isLower c lowerC
    have rangeD := toNat_of_isLower d lowerD
    rw [← Char.ofNat_toNat c, ← Char.ofNat_toNat d, show c.toNat = d.toNat by omega]
  exact String.ext (by rw [hs, ht, heads, data.2])

theorem opcode_inj_of_title (v w : String) (opcodeV : isOpcodeName v = true) (opcodeW : isOpcodeName w = true)
    (same : baseAPIName v = baseAPIName w) : v = w := by
  simp only [isOpcodeName, Bool.and_eq_true, decide_eq_true_eq] at opcodeV opcodeW
  rw [← trimSuffix_append v "OpType" opcodeV.1, ← trimSuffix_append w "OpType" opcodeW.1,
    title_inj_of_isStem _ _ opcodeV.2 opcodeW.2 same]

theorem baseAPIName_eq_iff (v w : String) (opcodeV : isOpcodeName v = true) (opcodeW : isOpcodeName w = true) :
    baseAPIName v = baseAPIName w ↔ v = w :=
  ⟨opcode_inj_of_title v w opcodeV opcodeW, congrArg baseAPIName⟩

theorem baseAPIName_of_ascii (v : String) (ascii : ∀ c ∈ v.data, c.toNat ≤ 0x7F) :
    baseAPIName v = @baseAPIName asciiCase v :=
  title_of_ascii _ fun c mem => ascii c (mem_trimSuffix v "OpType" c mem)

theorem baseAPIName_overrides :
    "Ln" = baseAPIName "lnOpType" ∧ "Log" = baseAPIName "logOpType" ∧ "Mul" = baseAPIName "mulOpType" ∧
      "HadamardProd" = baseAPIName "hadamardProdOpType" ∧ "Div" = baseAPIName "divOpType" ∧
      "HadamardDiv" = baseAPIName "hadamardDivOpType" :=
  ⟨(baseAPIName_of_ascii "lnOpType" (by decide)).symm, (baseAPIName_of_ascii "logOpType" (by decide)).symm,
    (baseAPIName_of_ascii "mulOpType" (by decide)).symm,
    (baseAPIName_of_ascii "hadamardProdOpType" (by decide)).symm,
    (baseAPIName_of_ascii "divOpType" (by decide)).symm, (baseAPIName_of_ascii "hadamardDivOpType" (by decide)).symm⟩

theorem unaryAPIName_eq (v : String) (opcode : isOpcodeName v = true) :
    unaryAPIName v = baseAPIName (if v = "lnOpType" then "logOpType" else v) := by
  obtain ⟨ln, log, -⟩ := baseAPIName_overrides
  rw [unaryAPIName, ln, log]
  simp only [baseAPIName_eq_iff v "lnOpType" opcode rfl]
  split <;> rfl

theorem binaryAPIName_eq (v : String) (opcode : isOpcodeName v = true) :
    binaryAPIName v = baseAPIName (if v = "mulOpType" then "hadamardProdOpType"
      else if v = "divOpType" then "hadamardDivOpType" else v) := by
  obtain ⟨-, -, mul, prod, div, quot⟩ := baseAPIName_overrides
  rw [binaryAPIName, mul, prod, div, quot]
  simp only [baseAPIName_eq_iff v "mulOpType" opcode rfl, baseAPIName_eq_iff v "divOpType" opcode rfl]
  split <;> [rfl; split <;> rfl]

theorem unaryAPIName_eq_iff (v w : String) (opcodeV : isOpcodeName v = true) (opcodeW : isOpcodeName w = true) :
    unaryAPIName v = unaryAPIName w ↔
      v = w ∨ (v = "lnOpType" ∧ w = "logOpType") ∨ (v = "logOpType" ∧ w = "lnOpType") := by
  rw [unaryAPIName_eq v opcodeV, unaryAPIName_eq w opcodeW,
    baseAPIName_eq_iff _ _ (isOpcodeName_unary v opcodeV) (isOpcodeName_unary w opcodeW)]
  clear opcodeV opcodeW
  split_ifs <;> aesop

theorem binaryAPIName_eq_iff (v w : String) (opcodeV : isOpcodeName v = true) (opcodeW : isOpcodeName w = true) :
    binaryAPIName v = binaryAPIName w ↔
      v = w ∨ (v = "mulOpType" ∧ w = "hadamardProdOpType") ∨ (v = "hadamardProdOpType" ∧ w = "mulOpType") ∨
        (v = "divOpType" ∧ w = "hadamardDivOpType") ∨ (v = "hadamardDivOpType" ∧ w = "divOpType") := by
  rw [binaryAPIName_eq v opcodeV, binaryAPIName_eq w opcodeW,
    baseAPIName_eq_iff _ _ (isOpcodeName_binary v opcodeV) (isOpcodeName_binary w opcodeW)]
  clear opcodeV opcodeW
  split_ifs <;> aesop

theorem unaryAPIName_ln_log : unaryAPIName "lnOpType" = unaryAPIName "logOpType" :=
  (unaryAPIName_eq_iff "lnOpType" "logOpType" rfl rfl).mpr (.inr (.inl ⟨rfl, rfl⟩))

theorem binaryAPIName_mul_prod : binaryAPIName "mulOpType" = binaryAPIName "hadamardProdOpType" :=
  (binaryAPIName_eq_iff "mulOpType" "hadamardProdOpType" rfl rfl).mpr (.inr (.inl ⟨rfl, rfl⟩))

theorem binaryAPIName_div_quot : binaryAPIName "divOpType" = binaryAPIName "hadamardDivOpType" :=
  (binaryAPIName_eq_iff "divOpType" "hadamardDivOpType" rfl rfl).mpr (.inr (.inr (.inr (.inl ⟨rfl, rfl⟩))))

theorem unaryAPIName_eq_binaryAPIName_iff (u b : String) (opcodeU : isOpcodeName u = true)
    (opcodeB : isOpcodeName b = true) :
    unaryAPIName u = binaryAPIName b ↔
      (u = b ∧ u ≠ "lnOpType" ∧ u ≠ "mulOpType" ∧ u ≠ "divOpType") ∨ (u = "lnOpType" ∧ b = "logOpType") ∨
        (u = "hadamardProdOpType" ∧ b = "mulOpType") ∨ (u = "hadamardDivOpType" ∧ b = "divOpType") := by
  rw [unaryAPIName_eq u opcodeU, binaryAPIName_eq b opcodeB,
    baseAPIName_eq_iff _ _ (isOpcodeName_unary u opcodeU) (isOpcodeName_binary b opcodeB)]
  clear opcodeU opcodeB
  split_ifs <;> aesop

theorem binaryAPIName_word (b : String) (opcode : isOpcodeName b = true) :
    ∀ c ∈ (binaryAPIName b).data, isSeparator c = false := by
  have stem := ((Bool.and_eq_true _ _).mp (isOpcodeName_binary b opcode)).2
  obtain ⟨c, cs, hs, lower, titled⟩ := title_of_isStem _ stem
  simp only [isStem, hs, Bool.and_eq_true, List.all_eq_true, Bool.not_eq_true'] at stem
  rw [binaryAPIName_eq b opcode, baseAPIName, titled]
  rintro x (_ | ⟨_, mem⟩)
  · exact isSeparator_toUpper_of_isLower c lower
  · exact stem.2 x mem

theorem newOperation_opcode (p : String) (word : ∀ c ∈ p.data, isSeparator c = false) :
    isOpcodeName ("new" ++ p ++ "OperationOpType") = true ∧
      baseAPIName ("new" ++ p ++ "OperationOpType") = newOperation p := by
  have split : "new" ++ p ++ "OperationOpType" = ("new" ++ p ++ "Operation") ++ "OpType" := by
    rw [String.append_assoc _ "Operation"]; rfl
  have data : ("new" ++ p ++ "Operation").data = 'n' :: (['e', 'w'] ++ p.data ++ "Operation".data) := by simp
  have stem : isStem ("new" ++ p ++ "Operation") = true := by
    simp only [isStem, data, List.all_append, Bool.and_eq_true]
    exact ⟨rfl, ⟨rfl, List.all_eq_true.mpr fun c mem => by simp [word c mem]⟩, rfl⟩
  obtain ⟨c, cs, hs, -, titled⟩ := title_of_isStem _ stem
  rw [data, List.cons.injEq] at hs
  refine ⟨split ▸ isOpcodeName_append _ stem, ?_⟩
  rw [split, baseAPIName, trimSuffix_append_self]
  ext1
  rw [titled, ← hs.1, ← hs.2]
  rfl

theorem APIName_eq_newOperation_iff (v p : String) (opcode : isOpcodeName v = true)
    (word : ∀ c ∈ p.data, isSeparator c = false) :
    (unaryAPIName v = newOperation p ↔ v = "new" ++ p ++ "OperationOpType") ∧
      (binaryAPIName v = newOperation p ↔ v = "new" ++ p ++ "OperationOpType") := by
  obtain ⟨opcodeN, titled⟩ := newOperation_opcode p word
  have head : ("new" ++ p ++ "OperationOpType").data.head? = some 'n' := by simp
  have apart : ∀ x : String, x.data.head? ≠ some 'n' → x ≠ "new" ++ p ++ "OperationOpType" :=
    fun x other same => other (same ▸ head)
  rw [unaryAPIName_eq v opcode, binaryAPIName_eq v opcode, ← titled,
    baseAPIName_eq_iff _ _ (isOpcodeName_unary v opcode) opcodeN,
    baseAPIName_eq_iff _ _ (isOpcodeName_binary v opcode) opcodeN]
  refine ⟨?_, ?_⟩ <;> split_ifs <;> subst_vars <;>
    first | exact Iff.rfl | exact iff_of_false (apart _ (by decide)) (apart _ (by decide))

theorem unaryAPIName_injOn_iff (unary : List String) (opcodes : ∀ v ∈ unary, isOpcodeName v = true) :
    (∀ x ∈ unary, ∀ y ∈ unary, unaryAPIName x = unaryAPIName y → x = y) ↔
      ¬("lnOpType" ∈ unary ∧ "logOpType" ∈ unary) := by
  constructor
  · rintro inj ⟨ln, log⟩
    exact absurd (inj _ ln _ log unaryAPIName_ln_log) (by decide)
  · rintro apart x inX y inY same
    rcases (unaryAPIName_eq_iff x y (opcodes x inX) (opcodes y inY)).mp same with same | ⟨rfl, rfl⟩ | ⟨rfl, rfl⟩
    · exact same
    · exact absurd ⟨inX, inY⟩ apart
    · exact absurd ⟨inY, inX⟩ apart

theorem binaryAPIName_injOn_iff (binary : List String) (opcodes : ∀ v ∈ binary, isOpcodeName v = true) :
    (∀ x ∈ binary, ∀ y ∈ binary, binaryAPIName x = binaryAPIName y → x = y) ↔
      ¬("mulOpType" ∈ binary ∧ "hadamardProdOpType" ∈ binary) ∧
        ¬("divOpType" ∈ binary ∧ "hadamardDivOpType" ∈ binary) := by
  constructor
  · intro inj
    refine ⟨fun ⟨mul, prod⟩ => ?_, fun ⟨div, quot⟩ => ?_⟩
    · exact absurd (inj _ mul _ prod binaryAPIName_mul_prod) (by decide)
    · exact absurd (inj _ div _ quot binaryAPIName_div_quot) (by decide)
  · rintro ⟨apartMul, apartDiv⟩ x inX y inY same
    rcases (binaryAPIName_eq_iff x y (opcodes x inX) (opcodes y inY)).mp same with
      same | ⟨rfl, rfl⟩ | ⟨rfl, rfl⟩ | ⟨rfl, rfl⟩ | ⟨rfl, rfl⟩
    · exact same
    · exact absurd ⟨inX, inY⟩ apartMul
    · exact absurd ⟨inY, inX⟩ apartMul
    · exact absurd ⟨inX, inY⟩ apartDiv
    · exact absurd ⟨inY, inX⟩ apartDiv

theorem names_disjoint_iff (unary binary : List String) (opU : ∀ v ∈ unary, isOpcodeName v = true)
    (opB : ∀ v ∈ binary, isOpcodeName v = true) :
    (unary.map unaryAPIName).Disjoint (binary.map binaryAPIName) ↔
      (∀ v ∈ unary, v ∈ binary → v = "lnOpType" ∨ v = "mulOpType" ∨ v = "divOpType") ∧
      ¬("lnOpType" ∈ unary ∧ "logOpType" ∈ binary) ∧
      ¬("hadamardProdOpType" ∈ unary ∧ "mulOpType" ∈ binary) ∧
      ¬("hadamardDivOpType" ∈ unary ∧ "divOpType" ∈ binary) := by
  have pairs : (unary.map unaryAPIName).Disjoint (binary.map binaryAPIName) ↔
      ∀ u ∈ unary, ∀ b ∈ binary, ¬unaryAPIName u = binaryAPIName b := by
    constructor
    · intro apart u inU b inB same
      exact apart (List.mem_map_of_mem _ inU) (same ▸ List.mem_map_of_mem _ inB)
    · rintro apart _ inNames inNames'
      obtain ⟨u, inU, rfl⟩ := List.mem_map.mp inNames
      obtain ⟨b, inB, same⟩ := List.mem_map.mp inNames'
      exact apart u inU b inB same.symm
  rw [pairs]
  constructor
  · intro apart
    have shares := fun u b inU inB => apart u inU b inB ∘
      (unaryAPIName_eq_binaryAPIName_iff u b (opU u inU) (opB b inB)).mpr
    refine ⟨fun v inU inB => ?_, fun ⟨inU, inB⟩ => shares _ _ inU inB (.inr (.inl ⟨rfl, rfl⟩)),
      fun ⟨inU, inB⟩ => shares _ _ inU inB (.inr (.inr (.inl ⟨rfl, rfl⟩))),
      fun ⟨inU, inB⟩ => shares _ _ inU inB (.inr (.inr (.inr ⟨rfl, rfl⟩)))⟩
    by_contra other
    simp only [not_or] at other
    exact shares v v inU inB (.inl ⟨rfl, other⟩)
  · rintro ⟨same, ln, prod, quot⟩ u inU b inB shared
    rcases (unaryAPIName_eq_binaryAPIName_iff u b (opU u inU) (opB b inB)).mp shared with
      ⟨rfl, notLn, notMul, notDiv⟩ | ⟨rfl, rfl⟩ | ⟨rfl, rfl⟩ | ⟨rfl, rfl⟩
    · rcases same u inU inB with rfl | rfl | rfl <;> contradiction
    · exact ln ⟨inU, inB⟩
    · exact prod ⟨inU, inB⟩
    · exact quot ⟨inU, inB⟩

theorem factories_fresh_iff (unary binary : List String) (opU : ∀ v ∈ unary, isOpcodeName v = true)
    (opB : ∀ v ∈ binary, isOpcodeName v = true) :
    (∀ p ∈ unary.map unaryAPIName ++ binary.map binaryAPIName, ∀ b ∈ binary, p ≠ newOperation (binaryAPIName b)) ↔
      ∀ v ∈ unary ++ binary, ∀ b ∈ binary, v ≠ "new" ++ binaryAPIName b ++ "OperationOpType" := by
  have named := fun v b (opcode : isOpcodeName v = true) (inB : b ∈ binary) =>
    APIName_eq_newOperation_iff v (binaryAPIName b) opcode (binaryAPIName_word b (opB b inB))
  constructor
  · intro fresh v inV b inB same
    rcases List.mem_append.mp inV with inU | inB'
    · exact fresh _ (List.mem_append_left _ (List.mem_map_of_mem _ inU)) b inB
        ((named v b (opU v inU) inB).1.mpr same)
    · exact fresh _ (List.mem_append_right _ (List.mem_map_of_mem _ inB')) b inB
        ((named v b (opB v inB') inB).2.mpr same)
  · intro fresh p inP b inB same
    rcases List.mem_append.mp inP with inNames | inNames
    · obtain ⟨u, inU, rfl⟩ := List.mem_map.mp inNames
      exact fresh u (List.mem_append_left _ inU) b inB ((named u b (opU u inU) inB).1.mp same)
    · obtain ⟨b', inB', rfl⟩ := List.mem_map.mp inNames
      exact fresh b' (List.mem_append_right _ inB') b inB ((named b' b (opB b' inB') inB).2.mp same)

/-- For catalogs of distinct gorgonia-style opcodes, the generated file declares
no function twice exactly when the catalogs avoid the collisions of the
override tables within each family and across them, and no opcode is named
`new<p>OperationOpType` for the public name `p` of a binary operator. -/
theorem apiGenFuncs_nodup_iff (unary binary : List String) (distinctU : unary.Nodup) (distinctB : binary.Nodup)
    (opcodes : ∀ v ∈ unary ++ binary, isOpcodeName v = true) :
    (apiGenFuncs unary binary).Nodup ↔
      ¬("lnOpType" ∈ unary ∧ "logOpType" ∈ unary) ∧
      ¬("mulOpType" ∈ binary ∧ "hadamardProdOpType" ∈ binary) ∧
      ¬("divOpType" ∈ binary ∧ "hadamardDivOpType" ∈ binary) ∧
      (∀ v ∈ unary, v ∈ binary → v = "lnOpType" ∨ v = "mulOpType" ∨ v = "divOpType") ∧
      ¬("lnOpType" ∈ unary ∧ "logOpType" ∈ binary) ∧
      ¬("hadamardProdOpType" ∈ unary ∧ "mulOpType" ∈ binary) ∧
      ¬("hadamardDivOpType" ∈ unary ∧ "divOpType" ∈ binary) ∧
      ∀ v ∈ unary ++ binary, ∀ b ∈ binary, v ≠ "new" ++ binaryAPIName b ++ "OperationOpType" := by
  simp only [List.mem_append, or_imp, forall_and] at opcodes
  obtain ⟨opU, opB⟩ := opcodes
  rw [apiGenFuncs_nodup_iff_names, List.nodup_append, List.nodup_map_iff_inj_on distinctU,
    List.nodup_map_iff_inj_on distinctB, unaryAPIName_injOn_iff unary opU, binaryAPIName_injOn_iff binary opB,
    names_disjoint_iff unary binary opU opB, factories_fresh_iff unary binary opU opB]
  simp only [and_assoc]

/-- Distinct gorgonia-style unary opcodes have distinct public names, except
`lnOpType` and `logOpType`, which both become `Log`. -/
theorem unaryAPIName_inj (v w : String) (opcodeV : isOpcodeName v = true) (opcodeW : isOpcodeName w = true)
    (same : unaryAPIName v = unaryAPIName w) :
    v = w ∨ (v = "lnOpType" ∧ w = "logOpType") ∨ (v = "logOpType" ∧ w = "lnOpType") :=
  (unaryAPIName_eq_iff v w opcodeV opcodeW).mp same

/-- Distinct gorgonia-style binary opcodes have distinct public names, except
`mulOpType` with `hadamardProdOpType` and `divOpType` with `hadamardDivOpType`. -/
theorem binaryAPIName_inj (v w : String) (opcodeV : isOpcodeName v = true) (opcodeW : isOpcodeName w = true)
    (same : binaryAPIName v = binaryAPIName w) :
    v = w ∨ (v = "mulOpType" ∧ w = "hadamardProdOpType") ∨ (v = "hadamardProdOpType" ∧ w = "mulOpType") ∨
      (v = "divOpType" ∧ w = "hadamardDivOpType") ∨ (v = "hadamardDivOpType" ∧ w = "divOpType") :=
  (binaryAPIName_eq_iff v w opcodeV opcodeW).mp same

end Names

/-- Two distinct unary opcodes with one public name: the override maps `ln` to
the name `log` already has. -/
theorem apiGenFuncs_ln_log : ¬(apiGenFuncs ["lnOpType", "logOpType"] []).Nodup := by
  simp [apiGenFuncs, unaryAPIName_ln_log]

theorem apiGenFuncs_nodup_iff_abs_ln :
    let unary := ["absOpType", "lnOpType"]
    let binary := ["addOpType", "ltOpType"]
    unary.Nodup ∧ binary.Nodup ∧ (∀ v ∈ unary ++ binary, isOpcodeName v = true) ∧
      ((apiGenFuncs unary binary).Nodup ↔
        ¬("lnOpType" ∈ unary ∧ "logOpType" ∈ unary) ∧
        ¬("mulOpType" ∈ binary ∧ "hadamardProdOpType" ∈ binary) ∧
        ¬("divOpType" ∈ binary ∧ "hadamardDivOpType" ∈ binary) ∧
        (∀ v ∈ unary, v ∈ binary → v = "lnOpType" ∨ v = "mulOpType" ∨ v = "divOpType") ∧
        ¬("lnOpType" ∈ unary ∧ "logOpType" ∈ binary) ∧
        ¬("hadamardProdOpType" ∈ unary ∧ "mulOpType" ∈ binary) ∧
        ¬("hadamardDivOpType" ∈ unary ∧ "divOpType" ∈ binary) ∧
        ∀ v ∈ unary ++ binary, ∀ b ∈ binary, v ≠ "new" ++ binaryAPIName b ++ "OperationOpType") :=
  ⟨by decide, by decide, by decide, apiGenFuncs_nodup_iff _ _ (by decide) (by decide) (by decide)⟩

theorem unaryAPIName_inj_ln_log :
    isOpcodeName "lnOpType" = true ∧ isOpcodeName "logOpType" = true ∧
      unaryAPIName "lnOpType" = unaryAPIName "logOpType" ∧
      ("lnOpType" = "logOpType" ∨ ("lnOpType" = "lnOpType" ∧ "logOpType" = "logOpType") ∨
        ("lnOpType" = "logOpType" ∧ "logOpType" = "lnOpType")) :=
  ⟨rfl, rfl, rfl, unaryAPIName_inj "lnOpType" "logOpType" rfl rfl rfl⟩

theorem binaryAPIName_inj_mul :
    isOpcodeName "mulOpType" = true ∧ isOpcodeName "hadamardProdOpType" = true ∧
      binaryAPIName "mulOpType" = binaryAPIName "hadamardProdOpType" ∧
      ("mulOpType" = "hadamardProdOpType" ∨
        ("mulOpType" = "mulOpType" ∧ "hadamardProdOpType" = "hadamardProdOpType") ∨
        ("mulOpType" = "hadamardProdOpType" ∧ "hadamardProdOpType" = "mulOpType") ∨
        ("mulOpType" = "divOpType" ∧ "hadamardProdOpType" = "hadamardDivOpType") ∨
        ("mulOpType" = "hadamardDivOpType" ∧ "hadamardProdOpType" = "divOpType")) :=
  ⟨rfl, rfl, rfl, binaryAPIName_inj "mulOpType" "hadamardProdOpType" rfl rfl rfl⟩

end Gorgonia
