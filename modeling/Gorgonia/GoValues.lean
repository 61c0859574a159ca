import Mathlib

/-!
# Go values compared by the kernel file

The generated comparison kernels range over eighteen Go element types.  Each is
modelled by its representation: integers as bit vectors of their width (`int`,
`uint` and `uintptr` at the 64 bits of the targets gorgonia is built for),
floats as IEEE 754 bit patterns, complex numbers as pairs of such floats,
strings as their bytes and `unsafe.Pointer` as an address.

`GoComparable` and `GoOrdered` carry `==`, `<` and `<=` as the Go specification
defines them for each type; the five operators of the kernel file (`goEq`,
`goGt`, `goGte`, `goLt`, `goLte`) are read off them.  Complex numbers, booleans
and pointers are comparable but not ordered, so they have no `GoOrdered`
instance and no ordering kernel can be written for them.
-/

set_option autoImplicit false

namespace Gorgonia

/-- Go's `comparable` types, with `==`. -/
class GoComparable (α : Type) where
  eq : α → α → Bool

/-- Go's ordered types (`cmp.Ordered`), with `<` and `<=`. -/
class GoOrdered (α : Type) extends GoComparable α where
  lt : α → α → Bool
  le : α → α → Bool

section Operators
variable {α : Type}

def goEq [GoComparable α] (v w : α) : Bool := GoComparable.eq v w

/-- `v > w` is `w < v` for every ordered Go type, floats included. -/
def goGt [GoOrdered α] (v w : α) : Bool := GoOrdered.lt w v

def goGte [GoOrdered α] (v w : α) : Bool := GoOrdered.le w v

def goLt [GoOrdered α] (v w : α) : Bool := GoOrdered.lt v w

def goLte [GoOrdered α] (v w : α) : Bool := GoOrdered.le v w

end Operators

/-! ## Booleans, integers and pointers -/

instance : GoComparable Bool := ⟨fun v w => v == w⟩

/-- A signed two's-complement integer of `n` bits: `int8` … `int64` and `int`. -/
structure GoSigned (n : Nat) where
  bits : BitVec n
deriving DecidableEq

instance (n k : Nat) : OfNat (GoSigned n) k := ⟨⟨BitVec.ofNat n k⟩⟩

instance (n : Nat) : GoOrdered (GoSigned n) where
  eq v w := v.bits == w.bits
  lt v w := v.bits.slt w.bits
  le v w := v.bits.sle w.bits

/-- Unsigned integers are their bit vectors, ordered as naturals. -/
instance (n : Nat) : GoOrdered (BitVec n) where
  eq v w := v == w
  lt v w := v.ult w
  le v w := v.ule w

abbrev GoInt := GoSigned 64
abbrev GoInt8 := GoSigned 8
abbrev GoInt16 := GoSigned 16
abbrev GoInt32 := GoSigned 32
abbrev GoInt64 := GoSigned 64
abbrev GoUint := BitVec 64
abbrev GoUint8 := BitVec 8
abbrev GoUint16 := BitVec 16
abbrev GoUint32 := BitVec 32
abbrev GoUint64 := BitVec 64
abbrev GoUintptr := BitVec 64

/-- An `unsafe.Pointer`: two pointers are equal when they hold the same address. -/
structure UnsafePointer where
  addr : BitVec 64
deriving DecidableEq

instance : GoComparable UnsafePointer := ⟨fun p q => decide (p = q)⟩

/-! ## Floating point

An IEEE 754 binary format with `e` exponent bits and `m` fraction bits,
as its bit pattern: the sign bit on top, then the biased exponent, then the
fraction.  Equality and order follow IEEE 754: a NaN is unordered with
everything (itself included), and the two zeros are equal. -/

structure GoFloat (e m : Nat) where
  bits : BitVec (1 + e + m)
deriving DecidableEq

namespace GoFloat
variable {e m : Nat}

def negative (f : GoFloat e m) : Bool := f.bits.msb

/-- The bits below the sign: the absolute value's pattern, monotone in the value. -/
def magnitude (f : GoFloat e m) : Nat := f.bits.toNat % 2 ^ (e + m)

def isNaN (f : GoFloat e m) : Bool :=
  f.bits.toNat / 2 ^ m % 2 ^ e == 2 ^ e - 1 && f.bits.toNat % 2 ^ m != 0

def isZero (f : GoFloat e m) : Bool := f.magnitude == 0

def eq (f g : GoFloat e m) : Bool :=
  !f.isNaN && !g.isNaN && (f.bits == g.bits || f.isZero && g.isZero)

def lt (f g : GoFloat e m) : Bool :=
  !f.isNaN && !g.isNaN &&
    match f.negative, g.negative with
    | false, false => decide (f.magnitude < g.magnitude)
    | true, true => decide (g.magnitude < f.magnitude)
    | true, false => !(f.isZero && g.isZero)
    | false, true => false

def le (f g : GoFloat e m) : Bool := f.lt g || f.eq g

instance : GoOrdered (GoFloat e m) := { eq := eq, lt := lt, le := le }

instance : OfNat (GoFloat e m) 0 := ⟨⟨0⟩⟩

/-- `1.0`: sign `0`, the exponent at its bias, fraction `0`. -/
instance : OfNat (GoFloat e m) 1 := ⟨⟨BitVec.ofNat _ ((2 ^ (e - 1) - 1) * 2 ^ m)⟩⟩

end GoFloat

abbrev GoFloat32 := GoFloat 8 23
abbrev GoFloat64 := GoFloat 11 52

/-- A complex number as its real and imaginary parts. -/
structure GoComplex (e m : Nat) where
  re : GoFloat e m
  im : GoFloat e m
deriving DecidableEq

/-- Complex values are equal when both parts are. -/
instance (e m : Nat) : GoComparable (GoComplex e m) := ⟨fun u v => u.re.eq v.re && u.im.eq v.im⟩

instance (e m : Nat) : OfNat (GoComplex e m) 0 := ⟨⟨0, 0⟩⟩

instance (e m : Nat) : OfNat (GoComplex e m) 1 := ⟨⟨1, 0⟩⟩

abbrev GoComplex64 := GoComplex 8 23
abbrev GoComplex128 := GoComplex 11 52

/-! ## Strings -/

/-- A Go string: an immutable sequence of bytes, not necessarily UTF-8. -/
structure GoString where
  bytes : List UInt8
deriving DecidableEq

/-- Byte-wise lexical order (`runtime.cmpstring`): the first differing byte
decides, and a proper prefix is smaller. -/
def bytesLt : List UInt8 → List UInt8 → Bool
  | [], [] => false
  | [], _ :: _ => true
  | _ :: _, [] => false
  | x :: xs, y :: ys => if x = y then bytesLt xs ys else decide (x.toNat < y.toNat)

instance : GoOrdered GoString where
  eq s t := decide (s = t)
  lt s t := bytesLt s.bytes t.bytes
  le s t := !bytesLt t.bytes s.bytes

end Gorgonia
