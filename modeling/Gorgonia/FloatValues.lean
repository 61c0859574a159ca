import Gorgonia.Orders

/-!
# What the float kernels compare

The float kernels compare bit patterns: `GoFloat.lt` reads the sign bit and
compares the magnitudes below it, as the hardware does.  IEEE 754 defines the
comparisons on the numbers the patterns stand for.  `GoFloat.value` is that
number, read off the exponent and fraction fields, in units of the smallest
subnormal (so an integer), with `⊥` and `⊤` for the infinities and `none` for
a NaN.

`compare_eq_value` shows the two levels agree for every binary format: each of
Go's five comparison operators on floats, so each float kernel elementwise, is
the comparison of the values, and false when either side is a NaN.  The
bit-level order is first reduced to the integer `signedMagnitude`, then the
value is shown to be strictly monotone in it.
-/

set_option autoImplicit false

namespace Gorgonia

/-! ## Values -/

/-- IEEE 754 §3.4 in units of the smallest subnormal `2 ^ (1 - bias - m)`: a
subnormal is its fraction, a normal number its significand (the hidden bit
over the fraction) shifted by the biased exponent less one. -/
def units (m exponent fraction : Nat) : Nat :=
  if exponent = 0 then fraction else (2 ^ m + fraction) * 2 ^ (exponent - 1)

/-- An integer as an extended value. -/
def finiteValue (x : ℤ) : WithBot (WithTop ℤ) := ((x : WithTop ℤ) : WithBot (WithTop ℤ))

/-- An IEEE comparison of two values: false as soon as one is a NaN. -/
def ordered (r : WithBot (WithTop ℤ) → WithBot (WithTop ℤ) → Prop) [DecidableRel r] :
    Option (WithBot (WithTop ℤ)) → Option (WithBot (WithTop ℤ)) → Bool
  | some x, some y => decide (r x y)
  | _, _ => false

namespace GoFloat
variable {e m : Nat}

/-- The biased exponent field, the `e` bits above the fraction. -/
def exponentField (f : GoFloat e m) : Nat := f.bits.toNat / 2 ^ m % 2 ^ e

/-- The fraction field, the low `m` bits. -/
def fractionField (f : GoFloat e m) : Nat := f.bits.toNat % 2 ^ m

/-- The number a float stands for: an exponent field of all ones is an
infinity when the fraction is zero and a NaN (`none`) otherwise. -/
def value (f : GoFloat e m) : Option (WithBot (WithTop ℤ)) :=
  if f.exponentField = 2 ^ e - 1 then
    if f.fractionField = 0 then some (if f.negative then ⊥ else ⊤) else none
  else
    let u : ℤ := units m f.exponentField f.fractionField
    some (finiteValue (if f.negative then -u else u))

set_option maxRecDepth 4000 in
example : (1 : GoFloat32).value = some (finiteValue (2 ^ 149)) ∧
    (⟨0xff800000⟩ : GoFloat32).value = some ⊥ ∧ (⟨0x7fc00000⟩ : GoFloat32).value = none :=
  ⟨rfl, rfl, rfl⟩

/-- The sign and magnitude as one integer: the order the bit-level comparison uses. -/
def signedMagnitude (f : GoFloat e m) : ℤ := if f.negative then -(f.magnitude : ℤ) else f.magnitude

end GoFloat

/-! ## The value grows with the magnitude -/

/-- The value of a finite magnitude, its fields read off below and above bit `m`. -/
def magnitudeUnits (m mag : Nat) : Nat := units m (mag / 2 ^ m) (mag % 2 ^ m)

@[simp] theorem magnitudeUnits_zero (m : Nat) : magnitudeUnits m 0 = 0 := by simp [magnitudeUnits, units]

/-- The value of a finite signed magnitude. -/
def signedUnits (m : Nat) (x : ℤ) : ℤ :=
  if x < 0 then -(magnitudeUnits m x.natAbs : ℤ) else magnitudeUnits m x.natAbs

/-- The magnitude of the infinities: exponent field all ones, fraction zero. -/
def infMagnitude (e m : Nat) : Nat := (2 ^ e - 1) * 2 ^ m

/-- The value of a signed magnitude no larger than the infinities'. -/
def keyValue (e m : Nat) (x : ℤ) : WithBot (WithTop ℤ) :=
  if x ≤ -(infMagnitude e m : ℤ) then ⊥
  else if (infMagnitude e m : ℤ) ≤ x then ⊤
  else finiteValue (signedUnits m x)

/-- The signed magnitudes of the numbers of a format. -/
def keyRange (e m : Nat) : Set ℤ := Set.Icc (-(infMagnitude e m : ℤ)) (infMagnitude e m)

theorem units_lt (m q r : Nat) (fraction : r < 2 ^ m) : units m q r < 2 ^ m * 2 ^ q := by
  unfold units
  split
  case isTrue zero => simpa [zero] using fraction
  case isFalse normal =>
    calc (2 ^ m + r) * 2 ^ (q - 1) < (2 ^ m + 2 ^ m) * 2 ^ (q - 1) :=
          Nat.mul_lt_mul_of_pos_right (by omega) (Nat.two_pow_pos _)
      _ = 2 ^ m * 2 ^ q := by
          rw [← two_mul, mul_comm 2, mul_assoc, ← pow_succ', Nat.sub_add_cancel (by omega)]

theorem le_units (m q r : Nat) (normal : 0 < q) : 2 ^ m * 2 ^ (q - 1) ≤ units m q r := by
  rw [units, if_neg (by omega)]
  exact Nat.mul_le_mul_right _ (Nat.le_add_right _ _)

theorem magnitudeUnits_strictMono (m : Nat) : StrictMono (magnitudeUnits m) := by
  intro a b lt
  have fa := Nat.mod_lt a (Nat.two_pow_pos m)
  have split_a := Nat.div_add_mod a (2 ^ m)
  have split_b := Nat.div_add_mod b (2 ^ m)
  unfold magnitudeUnits
  rcases Nat.lt_or_eq_of_le (Nat.div_le_div_right (c := 2 ^ m) lt.le) with binade | binade
  case inl =>
    calc units m (a / 2 ^ m) (a % 2 ^ m) < 2 ^ m * 2 ^ (a / 2 ^ m) := units_lt m _ _ fa
      _ ≤ 2 ^ m * 2 ^ (b / 2 ^ m - 1) :=
          Nat.mul_le_mul_left _ (Nat.pow_le_pow_right two_pos (Nat.le_sub_one_of_lt binade))
      _ ≤ units m (b / 2 ^ m) (b % 2 ^ m) := le_units m _ _ (Nat.zero_lt_of_lt binade)
  case inr =>
    have fraction : a % 2 ^ m < b % 2 ^ m := by rw [binade] at split_a; omega
    rw [binade, units, units]
    split
    · exact fraction
    · exact Nat.mul_lt_mul_of_pos_right (by omega) (Nat.two_pow_pos _)

theorem signedUnits_strictMono (m : Nat) : StrictMono (signedUnits m) := by
  intro x y lt
  have mono := magnitudeUnits_strictMono m
  unfold signedUnits
  rcases lt_or_le x 0 with negX | natX <;> rcases lt_or_le y 0 with negY | natY
  · rw [if_pos negX, if_pos negY]; have := mono (show y.natAbs < x.natAbs by omega); omega
  · rw [if_pos negX, if_neg (not_lt.mpr natY)]; have := mono (show 0 < x.natAbs by omega); omega
  · omega
  · rw [if_neg (not_lt.mpr natX), if_neg (not_lt.mpr natY)]
    have := mono (show x.natAbs < y.natAbs by omega); omega

theorem keyValue_strictMonoOn (e m : Nat) : StrictMonoOn (keyValue e m) (keyRange e m) := by
  rintro x ⟨xBot, xTop⟩ y ⟨yBot, yTop⟩ lt
  unfold keyValue
  by_cases bot : x ≤ -(infMagnitude e m : ℤ)
  · rw [if_pos bot, if_neg (by omega)]
    split <;> exact WithBot.bot_lt_coe _
  · by_cases top : (infMagnitude e m : ℤ) ≤ y
    · rw [if_neg bot, if_neg (by omega), if_neg (by omega), if_pos top]
      exact WithBot.coe_lt_coe.mpr (WithTop.coe_lt_top _)
    · rw [if_neg bot, if_neg (by omega), if_neg (by omega), if_neg top]
      exact WithBot.coe_lt_coe.mpr (WithTop.coe_lt_coe.mpr (signedUnits_strictMono m lt))

namespace GoFloat
variable {e m : Nat}

/-! ## The fields below the sign -/

theorem exponentField_eq (f : GoFloat e m) : f.exponentField = f.magnitude / 2 ^ m := by
  rw [magnitude, Nat.pow_add, Nat.mul_comm, Nat.mod_mul_right_div_self]; rfl

theorem fractionField_eq (f : GoFloat e m) : f.fractionField = f.magnitude % 2 ^ m := by
  rw [magnitude, Nat.mod_mod_of_dvd _ (Nat.pow_dvd_pow 2 (Nat.le_add_left m e))]; rfl

theorem exponentField_lt_iff (f : GoFloat e m) :
    f.exponentField < 2 ^ e - 1 ↔ f.magnitude < infMagnitude e m := by
  rw [exponentField_eq, infMagnitude, Nat.div_lt_iff_lt_mul (Nat.two_pow_pos m)]

theorem fractionField_of_number (f : GoFloat e m) (number : f.isNaN = false)
    (top : f.exponentField = 2 ^ e - 1) : f.fractionField = 0 := by
  have fields : f.isNaN = (f.exponentField == 2 ^ e - 1 && f.fractionField != 0) := rfl
  simpa [fields, top] using number

theorem magnitude_le (f : GoFloat e m) (number : f.isNaN = false) :
    f.magnitude ≤ infMagnitude e m ∧ (f.exponentField = 2 ^ e - 1 ↔ infMagnitude e m ≤ f.magnitude) := by
  have top : f.exponentField < 2 ^ e := by
    rw [exponentField_eq, Nat.div_lt_iff_lt_mul (Nat.two_pow_pos m), ← Nat.pow_add]
    exact Nat.mod_lt _ (Nat.two_pow_pos _)
  have below := f.exponentField_lt_iff
  have split := Nat.div_add_mod f.magnitude (2 ^ m)
  rw [← exponentField_eq, ← fractionField_eq] at split
  refine ⟨?_, by omega⟩
  by_cases inf : f.exponentField = 2 ^ e - 1
  · rw [inf, f.fractionField_of_number number inf, Nat.mul_comm] at split; exact split.ge
  · omega

theorem signedUnits_signedMagnitude (f : GoFloat e m) :
    signedUnits m f.signedMagnitude =
      if f.negative then -(units m f.exponentField f.fractionField : ℤ) else units m f.exponentField f.fractionField := by
  rw [exponentField_eq, fractionField_eq, ← magnitudeUnits, signedMagnitude]
  generalize f.magnitude = n
  cases f.negative
  case false => simp [signedUnits]
  case true =>
    rcases Nat.eq_zero_or_pos n with zero | pos
    · simp [signedUnits, zero, magnitudeUnits_zero]
    · simp [signedUnits, pos]

theorem signedMagnitude_mem (f : GoFloat e m) (number : f.isNaN = false) :
    f.signedMagnitude ∈ keyRange e m := by
  have := (f.magnitude_le number).1
  unfold signedMagnitude keyRange
  split <;> constructor <;> omega

theorem value_of_isNaN (f : GoFloat e m) (nan : f.isNaN = true) : f.value = none := by
  have : f.exponentField = 2 ^ e - 1 ∧ ¬f.fractionField = 0 := by
    simpa [isNaN, exponentField, fractionField] using nan
  simp [value, this]

theorem value_of_number (format : 0 < e) (f : GoFloat e m) (number : f.isNaN = false) :
    f.value = some (keyValue e m f.signedMagnitude) := by
  have finite : 0 < infMagnitude e m :=
    Nat.mul_pos (Nat.sub_pos_of_lt (Nat.one_lt_two_pow (by omega))) (Nat.two_pow_pos m)
  obtain ⟨le, inf⟩ := f.magnitude_le number
  unfold value keyValue
  by_cases top : f.exponentField = 2 ^ e - 1
  case pos =>
    have big : f.magnitude = infMagnitude e m := by have := inf.mp top; omega
    rw [if_pos top, if_pos (f.fractionField_of_number number top), signedMagnitude, big]
    cases f.negative <;> simp [finite.ne']
  case neg =>
    have small : f.magnitude < infMagnitude e m := by have := mt inf.mpr top; omega
    have range : -(infMagnitude e m : ℤ) < f.signedMagnitude ∧ f.signedMagnitude < infMagnitude e m := by
      unfold signedMagnitude; split <;> omega
    rw [if_neg top, if_neg (by omega), if_neg (by omega), f.signedUnits_signedMagnitude]

/-! ## Comparisons of values -/

theorem ordered_value (format : 0 < e) (r : WithBot (WithTop ℤ) → WithBot (WithTop ℤ) → Prop)
    [DecidableRel r] (key : ℤ → ℤ → Prop) [DecidableRel key]
    (transfer : ∀ x ∈ keyRange e m, ∀ y ∈ keyRange e m, r (keyValue e m x) (keyValue e m y) ↔ key x y)
    (f g : GoFloat e m) :
    ordered r f.value g.value = (!f.isNaN && !g.isNaN && decide (key f.signedMagnitude g.signedMagnitude)) := by
  cases nanF : f.isNaN
  case true => simp [value_of_isNaN f nanF, ordered]
  case false =>
    cases nanG : g.isNaN
    case true => simp [value_of_isNaN g nanG, ordered]
    case false =>
      rw [value_of_number format f nanF, value_of_number format g nanG, ordered]
      exact decide_eq_decide.mpr (transfer _ (f.signedMagnitude_mem nanF) _ (g.signedMagnitude_mem nanG))

theorem lt_eq_signedMagnitude (f g : GoFloat e m) :
    f.lt g = (!f.isNaN && !g.isNaN && decide (f.signedMagnitude < g.signedMagnitude)) := by
  unfold lt
  congr 1
  unfold signedMagnitude isZero
  generalize f.magnitude = a, g.magnitude = b
  rw [Bool.eq_iff_iff]
  cases f.negative <;> cases g.negative <;> simp <;> omega

theorem eq_eq_signedMagnitude (f g : GoFloat e m) :
    f.eq g = (!f.isNaN && !g.isNaN && decide (f.signedMagnitude = g.signedMagnitude)) := by
  have bits : f.bits = g.bits ↔ f.negative = g.negative ∧ f.magnitude = g.magnitude :=
    ⟨fun same => ⟨by rw [negative, same]; rfl, by rw [magnitude, same]; rfl⟩,
      fun ⟨sign, mag⟩ => bits_eq_of_magnitude_eq f g sign mag⟩
  unfold eq
  congr 1
  unfold signedMagnitude isZero
  rw [Bool.eq_iff_iff]
  simp only [Bool.or_eq_true, Bool.and_eq_true, beq_iff_eq, bits, decide_eq_true_eq]
  generalize f.magnitude = a, g.magnitude = b
  cases f.negative <;> cases g.negative <;> simp <;> omega

theorem le_eq_signedMagnitude (f g : GoFloat e m) :
    f.le g = (!f.isNaN && !g.isNaN && decide (f.signedMagnitude ≤ g.signedMagnitude)) := by
  rw [le, lt_eq_signedMagnitude, eq_eq_signedMagnitude]
  cases f.isNaN <;> cases g.isNaN <;> simp [le_iff_lt_or_eq]

theorem lt_eq_ordered (format : 0 < e) (f g : GoFloat e m) : f.lt g = ordered (· < ·) f.value g.value := by
  rw [lt_eq_signedMagnitude,
    ordered_value format _ _ fun _ x _ y => (keyValue_strictMonoOn e m).lt_iff_lt x y]

theorem eq_eq_ordered (format : 0 < e) (f g : GoFloat e m) : f.eq g = ordered (· = ·) f.value g.value := by
  rw [eq_eq_signedMagnitude,
    ordered_value format _ _ fun _ x _ y => (keyValue_strictMonoOn e m).injOn.eq_iff x y]

theorem le_eq_ordered (format : 0 < e) (f g : GoFloat e m) : f.le g = ordered (· ≤ ·) f.value g.value := by
  rw [le_eq_signedMagnitude,
    ordered_value format _ _ fun _ x _ y => (keyValue_strictMonoOn e m).le_iff_le x y]

/-- Go's float comparisons are IEEE 754's: each operator compares the values,
and is false when either side is a NaN. -/
theorem compare_eq_value (format : 0 < e) (f g : GoFloat e m) :
    goEq f g = ordered (· = ·) f.value g.value ∧ goLt f g = ordered (· < ·) f.value g.value ∧
      goLte f g = ordered (· ≤ ·) f.value g.value ∧ goGt f g = ordered (· > ·) f.value g.value ∧
      goGte f g = ordered (· ≥ ·) f.value g.value := by
  have swap : ∀ (r : WithBot (WithTop ℤ) → WithBot (WithTop ℤ) → Prop) [DecidableRel r] (x y),
      ordered r y x = ordered (fun a b => r b a) x y := by
    intro r _ x y; cases x <;> cases y <;> rfl
  exact ⟨eq_eq_ordered format f g, lt_eq_ordered format f g, le_eq_ordered format f g,
    (lt_eq_ordered format g f).trans (swap _ _ _), (le_eq_ordered format g f).trans (swap _ _ _)⟩

theorem compare_eq_value_zero_one :
    0 < 11 ∧ (goEq (0 : GoFloat64) 1 = ordered (· = ·) (0 : GoFloat64).value (1 : GoFloat64).value ∧
      goLt (0 : GoFloat64) 1 = ordered (· < ·) (0 : GoFloat64).value (1 : GoFloat64).value ∧
      goLte (0 : GoFloat64) 1 = ordered (· ≤ ·) (0 : GoFloat64).value (1 : GoFloat64).value ∧
      goGt (0 : GoFloat64) 1 = ordered (· > ·) (0 : GoFloat64).value (1 : GoFloat64).value ∧
      goGte (0 : GoFloat64) 1 = ordered (· ≥ ·) (0 : GoFloat64).value (1 : GoFloat64).value) :=
  ⟨by decide, compare_eq_value (by decide) 0 1⟩

end GoFloat

end Gorgonia
