import Gorgonia.CmpKernels

/-!
# The order each element type compares by

The kernel file's `<`, `<=`, `>` and `>=` are Go's operators on the element
type.  For the integer types and for strings they are the linear order of a
key: the integer a bit vector stands for (two's complement for `int8` … `int`),
and the byte sequence in lexical order.  `LinearKey` packages such a
refinement, and from it `v >= w` is `!(v < w)`, so for those types the `>=` mask
kernel is the negated `<` mask kernel (`ddBools_gte_eq_not_lt`).

Floats follow IEEE 754: a NaN is unordered with everything, itself included.
Their order is total on numbers only, so the `>=` mask is the negated `<` mask
exactly on inputs without a NaN (`ddBools_gte_float_iff`).
-/

set_option autoImplicit false

namespace Gorgonia

/-- Go's `<` and `<=` on `α` are `<` and `≤` of a linear order on a key. -/
structure LinearKey (α : Type) [GoOrdered α] (β : Type) [LinearOrder β] where
  key : α → β
  lt_iff : ∀ v w, goLt v w = true ↔ key v < key w
  le_iff : ∀ v w, goLte v w = true ↔ key v ≤ key w

namespace LinearKey
variable {α β : Type} [GoOrdered α] [LinearOrder β] (k : LinearKey α β)
include k

theorem gte_eq_not_lt (v w : α) : goGte v w = !goLt v w := by
  rw [Bool.eq_iff_iff, show goGte v w = goLte w v from rfl, k.le_iff, Bool.not_eq_true', ← Bool.not_eq_true,
    k.lt_iff, not_lt]

theorem ddBools_gte_eq_not_lt (a b : List α) : ddBools goGte a b = (ddBools goLt a b).map (List.map not) := by
  have gte : (goGte : α → α → Bool) = fun v w => !goLt v w := funext₂ k.gte_eq_not_lt
  rw [ddBools_spec, ddBools_spec, gte]
  split <;> simp [List.map_zipWith]

end LinearKey

/-! ## Integers -/

/-- Signed integers compare as the integers their two's-complement bits stand for. -/
def GoSigned.linearKey (n : Nat) : LinearKey (GoSigned n) Int where
  key v := v.bits.toInt
  lt_iff v w := by
    show v.bits.slt w.bits = true ↔ _
    simp [BitVec.slt]
  le_iff v w := by
    show v.bits.sle w.bits = true ↔ _
    simp [BitVec.sle]

/-- Unsigned integers compare as naturals. -/
def unsignedLinearKey (n : Nat) : LinearKey (BitVec n) Nat where
  key v := v.toNat
  lt_iff v w := by
    show v.ult w = true ↔ _
    simp [BitVec.ult]
  le_iff v w := by
    show v.ule w = true ↔ _
    simp [BitVec.ule]

/-! ## Strings -/

theorem lex_cons_of_ne {a b : Nat} {l l' : List Nat} (differ : a ≠ b) :
    List.Lex (· < ·) (a :: l) (b :: l') ↔ a < b := by
  constructor
  · intro lex
    cases lex with
    | cons => exact absurd rfl differ
    | rel lt => exact lt
  · exact List.Lex.rel

theorem bytesLt_iff (xs ys : List UInt8) :
    bytesLt xs ys = true ↔ List.Lex (· < ·) (xs.map UInt8.toNat) (ys.map UInt8.toNat) := by
  induction xs, ys using bytesLt.induct with
  | case1 => simp [bytesLt, List.Lex.not_nil_right]
  | case2 y ys => simp [bytesLt, List.Lex.nil]
  | case3 x xs => simp [bytesLt, List.Lex.not_nil_right]
  | case4 xs y ys ih => simp [bytesLt, ih, List.Lex.cons_iff]
  | case5 x xs y ys differ =>
      simp only [bytesLt, differ, if_false, decide_eq_true_eq, List.map_cons]
      exact (lex_cons_of_ne fun h => differ (UInt8.toNat.inj h)).symm

def GoString.linearKey : LinearKey GoString (List Nat) where
  key s := s.bytes.map UInt8.toNat
  lt_iff s t := bytesLt_iff s.bytes t.bytes
  le_iff s t := by
    show (!bytesLt t.bytes s.bytes) = true ↔ _
    rw [Bool.not_eq_true', ← Bool.not_eq_true, bytesLt_iff, ← not_lt]
    rfl

/-- For every integer kind and for strings, the `>=` mask kernels are the negated
`<` mask kernels: these kinds are compared by a total order. -/
theorem gteDDBools_eq_not_ltDDBools :
    (∀ n (a b : List (GoSigned n)), ddBools goGte a b = (ddBools goLt a b).map (List.map not)) ∧
    (∀ n (a b : List (BitVec n)), ddBools goGte a b = (ddBools goLt a b).map (List.map not)) ∧
    (∀ a b : List GoString, ddBools goGte a b = (ddBools goLt a b).map (List.map not)) :=
  ⟨fun n => (GoSigned.linearKey n).ddBools_gte_eq_not_lt, fun n => (unsignedLinearKey n).ddBools_gte_eq_not_lt,
    GoString.linearKey.ddBools_gte_eq_not_lt⟩

/-! ## Floats -/

namespace GoFloat
variable {e m : Nat}

theorem toNat_eq (f : GoFloat e m) : f.bits.toNat = (if f.negative then 2 ^ (e + m) else 0) + f.magnitude := by
  have bound : f.bits.toNat < 2 ^ (e + m) * 2 :=
    calc f.bits.toNat < 2 ^ (1 + e + m) := f.bits.isLt
      _ = 2 ^ (e + m) * 2 := by rw [show 1 + e + m = (e + m) + 1 by omega, Nat.pow_succ]
  have sign : f.negative = decide (2 ^ (e + m) ≤ f.bits.toNat) := by
    rw [negative, BitVec.msb_eq_decide, show 1 + e + m - 1 = e + m by omega]
  rw [sign, magnitude]
  by_cases top : 2 ^ (e + m) ≤ f.bits.toNat
  · rw [Nat.mod_eq_sub_mod top, Nat.mod_eq_of_lt (by omega)]
    simp [top]
  · rw [Nat.mod_eq_of_lt (by omega)]
    simp [top]

theorem bits_eq_of_magnitude_eq (f g : GoFloat e m) (sign : f.negative = g.negative)
    (mag : f.magnitude = g.magnitude) : f.bits = g.bits :=
  BitVec.eq_of_toNat_eq (by rw [toNat_eq f, toNat_eq g, sign, mag])

theorem le_eq_not_lt (x y : GoFloat e m) (numberX : x.isNaN = false) (numberY : y.isNaN = false) :
    x.le y = !y.lt x := by
  have sameBits := bits_eq_of_magnitude_eq x y
  have sameSign : x.bits = y.bits → x.negative = y.negative := fun same => by rw [negative, same]; rfl
  have sameMag : x.bits = y.bits → x.magnitude = y.magnitude := fun same => by rw [magnitude, same]; rfl
  simp only [le, lt, eq, numberX, numberY, isZero, Bool.not_false, Bool.true_and]
  cases hx : x.negative <;> cases hy : y.negative
  · rcases lt_trichotomy x.magnitude y.magnitude with less | same | more
    · simp [less, less.le.not_lt]
    · simp [same, sameBits (hx.trans hy.symm) same]
    · have differ : x.bits ≠ y.bits := fun same => more.ne' (sameMag same)
      simp [more, more.le.not_lt, differ]
      omega
  · have differ : x.bits ≠ y.bits := fun same => by simpa [hx, hy] using sameSign same
    cases x.magnitude == 0 <;> cases y.magnitude == 0 <;> simp [differ]
  · cases x.magnitude == 0 <;> cases y.magnitude == 0 <;> simp
  · rcases lt_trichotomy x.magnitude y.magnitude with less | same | more
    · have differ : x.bits ≠ y.bits := fun same => less.ne (sameMag same)
      simp [less, less.le.not_lt, differ]
      omega
    · simp [same, sameBits (hx.trans hy.symm) same]
    · simp [more, more.le.not_lt]

theorem goLte_eq_not_goGt_iff (v w : GoFloat e m) : goLte v w = !goGt v w ↔ (v.isNaN || w.isNaN) = false := by
  show v.le w = !w.lt v ↔ _
  cases nanV : v.isNaN <;> cases nanW : w.isNaN
  · simp [le_eq_not_lt v w nanV nanW]
  all_goals simp [le, lt, eq, nanV, nanW]

end GoFloat

theorem zipWith_eq_zipWith_iff {α γ : Type} (f g : α → α → γ) (a b : List α) :
    List.zipWith f a b = List.zipWith g a b ↔ ∀ p ∈ a.zip b, f p.1 p.2 = g p.1 p.2 := by
  induction a generalizing b with
  | nil => simp only [List.zipWith_nil_left, List.zip_nil_left, List.not_mem_nil, false_implies, implies_true]
  | cons v a ih =>
      cases b with
      | nil => simp only [List.zipWith_nil_right, List.zip_nil_right, List.not_mem_nil, false_implies, implies_true]
      | cons w b => simp only [List.zipWith_cons_cons, List.cons.injEq, ih, List.zip_cons_cons, List.forall_mem_cons]

/-- On float slices the `>=` mask kernels are the negated `<` mask kernels
exactly when no compared pair holds a NaN. -/
theorem ddBools_gte_float_iff {e m : Nat} (a b : List (GoFloat e m)) :
    ddBools goGte a b = (ddBools goLt a b).map (List.map not) ↔
      b.length < a.length ∨ ∀ p ∈ a.zip b, (p.1.isNaN || p.2.isNaN) = false := by
  rw [ddBools_spec, ddBools_spec]
  split
  case isTrue fits =>
    have pair : ∀ v w : GoFloat e m, goGte v w = !goLt v w ↔ (v.isNaN || w.isNaN) = false := fun v w => by
      rw [Bool.or_comm]
      exact GoFloat.goLte_eq_not_goGt_iff w v
    simp only [Option.map_some', Option.some.injEq, List.map_zipWith, zipWith_eq_zipWith_iff, pair]
    exact (or_iff_right (Nat.not_lt.mpr fits)).symm
  case isFalse short => exact iff_of_true rfl (.inl (Nat.lt_of_not_le short))

end Gorgonia
