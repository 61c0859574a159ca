import Gorgonia.CmpKernels

/-!
# The generated kernel file

Each of the file's 272 functions, under its own name, as the loop of its shape
applied to its operator at its element type.  The file groups them by operator
and, within an operator, by element type, with the array–array kernels before
the array–scalar ones and the mask before the indicator.  Which cells exist is
the file's own choice: no ordering kernel for `bool`, the complex types and
`unsafe.Pointer`, and no indicator kernel for `bool`, `string`, `uintptr` and
`unsafe.Pointer`.
-/

set_option autoImplicit false

namespace Gorgonia

/-! ## Eq -/

def eqDDBoolsB : List Bool → List Bool → Option (List Bool) := ddBools goEq
def eqDSBoolsB : List Bool → Bool → Option (List Bool) := dsBools goEq
def eqDDBoolsI : List GoInt → List GoInt → Option (List Bool) := ddBools goEq
def eqDDSameI : List GoInt → List GoInt → Option (List GoInt) := ddSame goEq
def eqDSBoolsI : List GoInt → GoInt → Option (List Bool) := dsBools goEq
def eqDSSameI : List GoInt → GoInt → Option (List GoInt) := dsSame goEq
def eqDDBoolsI8 : List GoInt8 → List GoInt8 → Option (List Bool) := ddBools goEq
def eqDDSameI8 : List GoInt8 → List GoInt8 → Option (List GoInt8) := ddSame goEq
def eqDSBoolsI8 : List GoInt8 → GoInt8 → Option (List Bool) := dsBools goEq
def eqDSSameI8 : List GoInt8 → GoInt8 → Option (List GoInt8) := dsSame goEq
def eqDDBoolsI16 : List GoInt16 → List GoInt16 → Option (List Bool) := ddBools goEq
def eqDDSameI16 : List GoInt16 → List GoInt16 → Option (List GoInt16) := ddSame goEq
def eqDSBoolsI16 : List GoInt16 → GoInt16 → Option (List Bool) := dsBools goEq
def eqDSSameI16 : List GoInt16 → GoInt16 → Option (List GoInt16) := dsSame goEq
def eqDDBoolsI32 : List GoInt32 → List GoInt32 → Option (List Bool) := ddBools goEq
def eqDDSameI32 : List GoInt32 → List GoInt32 → Option (List GoInt32) := ddSame goEq
def eqDSBoolsI32 : List GoInt32 → GoInt32 → Option (List Bool) := dsBools goEq
def eqDSSameI32 : List GoInt32 → GoInt32 → Option (List GoInt32) := dsSame goEq
def eqDDBoolsI64 : List GoInt64 → List GoInt64 → Option (List Bool) := ddBools goEq
def eqDDSameI64 : List GoInt64 → List GoInt64 → Option (List GoInt64) := ddSame goEq
def eqDSBoolsI64 : List GoInt64 → GoInt64 → Option (List Bool) := dsBools goEq
def eqDSSameI64 : List GoInt64 → GoInt64 → Option (List GoInt64) := dsSame goEq
def eqDDBoolsU : List GoUint → List GoUint → Option (List Bool) := ddBools goEq
def eqDDSameU : List GoUint → List GoUint → Option (List GoUint) := ddSame goEq
def eqDSBoolsU : List GoUint → GoUint → Option (List Bool) := dsBools goEq
def eqDSSameU : List GoUint → GoUint → Option (List GoUint) := dsSame goEq
def eqDDBoolsU8 : List GoUint8 → List GoUint8 → Option (List Bool) := ddBools goEq
def eqDDSameU8 : List GoUint8 → List GoUint8 → Option (List GoUint8) := ddSame goEq
def eqDSBoolsU8 : List GoUint8 → GoUint8 → Option (List Bool) := dsBools goEq
def eqDSSameU8 : List GoUint8 → GoUint8 → Option (List GoUint8) := dsSame goEq
def eqDDBoolsU16 : List GoUint16 → List GoUint16 → Option (List Bool) := ddBools goEq
def eqDDSameU16 : List GoUint16 → List GoUint16 → Option (List GoUint16) := ddSame goEq
def eqDSBoolsU16 : List GoUint16 → GoUint16 → Option (List Bool) := dsBools goEq
def eqDSSameU16 : List GoUint16 → GoUint16 → Option (List GoUint16) := dsSame goEq
def eqDDBoolsU32 : List GoUint32 → List GoUint32 → Option (List Bool) := ddBools goEq
def eqDDSameU32 : List GoUint32 → List GoUint32 → Option (List GoUint32) := ddSame goEq
def eqDSBoolsU32 : List GoUint32 → GoUint32 → Option (List Bool) := dsBools goEq
def eqDSSameU32 : List GoUint32 → GoUint32 → Option (List GoUint32) := dsSame goEq
def eqDDBoolsU64 : List GoUint64 → List GoUint64 → Option (List Bool) := ddBools goEq
def eqDDSameU64 : List GoUint64 → List GoUint64 → Option (List GoUint64) := ddSame goEq
def eqDSBoolsU64 : List GoUint64 → GoUint64 → Option (List Bool) := dsBools goEq
def eqDSSameU64 : List GoUint64 → GoUint64 → Option (List GoUint64) := dsSame goEq
def eqDDBoolsUintptr : List GoUintptr → List GoUintptr → Option (List Bool) := ddBools goEq
def eqDSBoolsUintptr : List GoUintptr → GoUintptr → Option (List Bool) := dsBools goEq
def eqDDBoolsF32 : List GoFloat32 → List GoFloat32 → Option (List Bool) := ddBools goEq
def eqDDSameF32 : List GoFloat32 → List GoFloat32 → Option (List GoFloat32) := ddSame goEq
def eqDSBoolsF32 : List GoFloat32 → GoFloat32 → Option (List Bool) := dsBools goEq
def eqDSSameF32 : List GoFloat32 → GoFloat32 → Option (List GoFloat32) := dsSame goEq
def eqDDBoolsF64 : List GoFloat64 → List GoFloat64 → Option (List Bool) := ddBools goEq
def eqDDSameF64 : List GoFloat64 → List GoFloat64 → Option (List GoFloat64) := ddSame goEq
def eqDSBoolsF64 : List GoFloat64 → GoFloat64 → Option (List Bool) := dsBools goEq
def eqDSSameF64 : List GoFloat64 → GoFloat64 → Option (List GoFloat64) := dsSame goEq
def eqDDBoolsC64 : List GoComplex64 → List GoComplex64 → Option (List Bool) := ddBools goEq
def eqDDSameC64 : List GoComplex64 → List GoComplex64 → Option (List GoComplex64) := ddSame goEq
def eqDSBoolsC64 : List GoComplex64 → GoComplex64 → Option (List Bool) := dsBools goEq
def eqDSSameC64 : List GoComplex64 → GoComplex64 → Option (List GoComplex64) := dsSame goEq
def eqDDBoolsC128 : List GoComplex128 → List GoComplex128 → Option (List Bool) := ddBools goEq
def eqDDSameC128 : List GoComplex128 → List GoComplex128 → Option (List GoComplex128) := ddSame goEq
def eqDSBoolsC128 : List GoComplex128 → GoComplex128 → Option (List Bool) := dsBools goEq
def eqDSSameC128 : List GoComplex128 → GoComplex128 → Option (List GoComplex128) := dsSame goEq
def eqDDBoolsStr : List GoString → List GoString → Option (List Bool) := ddBools goEq
def eqDSBoolsStr : List GoString → GoString → Option (List Bool) := dsBools goEq
def eqDDBoolsUnsafePointer : List UnsafePointer → List UnsafePointer → Option (List Bool) := ddBools goEq
def eqDSBoolsUnsafePointer : List UnsafePointer → UnsafePointer → Option (List Bool) := dsBools goEq

/-! ## Gt -/

def gtDDBoolsI : List GoInt → List GoInt → Option (List Bool) := ddBools goGt
def gtDDSameI : List GoInt → List GoInt → Option (List GoInt) := ddSame goGt
def gtDSBoolsI : List GoInt → GoInt → Option (List Bool) := dsBools goGt
def gtDSSameI : List GoInt → GoInt → Option (List GoInt) := dsSame goGt
def gtDDBoolsI8 : List GoInt8 → List GoInt8 → Option (List Bool) := ddBools goGt
def gtDDSameI8 : List GoInt8 → List GoInt8 → Option (List GoInt8) := ddSame goGt
def gtDSBoolsI8 : List GoInt8 → GoInt8 → Option (List Bool) := dsBools goGt
def gtDSSameI8 : List GoInt8 → GoInt8 → Option (List GoInt8) := dsSame goGt
def gtDDBoolsI16 : List GoInt16 → List GoInt16 → Option (List Bool) := ddBools goGt
def gtDDSameI16 : List GoInt16 → List GoInt16 → Option (List GoInt16) := ddSame goGt
def gtDSBoolsI16 : List GoInt16 → GoInt16 → Option (List Bool) := dsBools goGt
def gtDSSameI16 : List GoInt16 → GoInt16 → Option (List GoInt16) := dsSame goGt
def gtDDBoolsI32 : List GoInt32 → List GoInt32 → Option (List Bool) := ddBools goGt
def gtDDSameI32 : List GoInt32 → List GoInt32 → Option (List GoInt32) := ddSame goGt
def gtDSBoolsI32 : List GoInt32 → GoInt32 → Option (List Bool) := dsBools goGt
def gtDSSameI32 : List GoInt32 → GoInt32 → Option (List GoInt32) := dsSame goGt
def gtDDBoolsI64 : List GoInt64 → List GoInt64 → Option (List Bool) := ddBools goGt
def gtDDSameI64 : List GoInt64 → List GoInt64 → Option (List GoInt64) := ddSame goGt
def gtDSBoolsI64 : List GoInt64 → GoInt64 → Option (List Bool) := dsBools goGt
def gtDSSameI64 : List GoInt64 → GoInt64 → Option (List GoInt64) := dsSame goGt
def gtDDBoolsU : List GoUint → List GoUint → Option (List Bool) := ddBools goGt
def gtDDSameU : List GoUint → List GoUint → Option (List GoUint) := ddSame goGt
def gtDSBoolsU : List GoUint → GoUint → Option (List Bool) := dsBools goGt
def gtDSSameU : List GoUint → GoUint → Option (List GoUint) := dsSame goGt
def gtDDBoolsU8 : List GoUint8 → List GoUint8 → Option (List Bool) := ddBools goGt
def gtDDSameU8 : List GoUint8 → List GoUint8 → Option (List GoUint8) := ddSame goGt
def gtDSBoolsU8 : List GoUint8 → GoUint8 → Option (List Bool) := dsBools goGt
def gtDSSameU8 : List GoUint8 → GoUint8 → Option (List GoUint8) := dsSame goGt
def gtDDBoolsU16 : List GoUint16 → List GoUint16 → Option (List Bool) := ddBools goGt
def gtDDSameU16 : List GoUint16 → List GoUint16 → Option (List GoUint16) := ddSame goGt
def gtDSBoolsU16 : List GoUint16 → GoUint16 → Option (List Bool) := dsBools goGt
def gtDSSameU16 : List GoUint16 → GoUint16 → Option (List GoUint16) := dsSame goGt
def gtDDBoolsU32 : List GoUint32 → List GoUint32 → Option (List Bool) := ddBools goGt
def gtDDSameU32 : List GoUint32 → List GoUint32 → Option (List GoUint32) := ddSame goGt
def gtDSBoolsU32 : List GoUint32 → GoUint32 → Option (List Bool) := dsBools goGt
def gtDSSameU32 : List GoUint32 → GoUint32 → Option (List GoUint32) := dsSame goGt
def gtDDBoolsU64 : List GoUint64 → List GoUint64 → Option (List Bool) := ddBools goGt
def gtDDSameU64 : List GoUint64 → List GoUint64 → Option (List GoUint64) := ddSame goGt
def gtDSBoolsU64 : List GoUint64 → GoUint64 → Option (List Bool) := dsBools goGt
def gtDSSameU64 : List GoUint64 → GoUint64 → Option (List GoUint64) := dsSame goGt
def gtDDBoolsUintptr : List GoUintptr → List GoUintptr → Option (List Bool) := ddBools goGt
def gtDSBoolsUintptr : List GoUintptr → GoUintptr → Option (List Bool) := dsBools goGt
def gtDDBoolsF32 : List GoFloat32 → List GoFloat32 → Option (List Bool) := ddBools goGt
def gtDDSameF32 : List GoFloat32 → List GoFloat32 → Option (List GoFloat32) := ddSame goGt
def gtDSBoolsF32 : List GoFloat32 → GoFloat32 → Option (List Bool) := dsBools goGt
def gtDSSameF32 : List GoFloat32 → GoFloat32 → Option (List GoFloat32) := dsSame goGt
def gtDDBoolsF64 : List GoFloat64 → List GoFloat64 → Option (List Bool) := ddBools goGt
def gtDDSameF64 : List GoFloat64 → List GoFloat64 → Option (List GoFloat64) := ddSame goGt
def gtDSBoolsF64 : List GoFloat64 → GoFloat64 → Option (List Bool) := dsBools goGt
def gtDSSameF64 : List GoFloat64 → GoFloat64 → Option (List GoFloat64) := dsSame goGt
def gtDDBoolsStr : List GoString → List GoString → Option (List Bool) := ddBools goGt
def gtDSBoolsStr : List GoString → GoString → Option (List Bool) := dsBools goGt

/-! ## Gte -/

def gteDDBoolsI : List GoInt → List GoInt → Option (List Bool) := ddBools goGte
def gteDDSameI : List GoInt → List GoInt → Option (List GoInt) := ddSame goGte
def gteDSBoolsI : List GoInt → GoInt → Option (List Bool) := dsBools goGte
def gteDSSameI : List GoInt → GoInt → Option (List GoInt) := dsSame goGte
def gteDDBoolsI8 : List GoInt8 → List GoInt8 → Option (List Bool) := ddBools goGte
def gteDDSameI8 : List GoInt8 → List GoInt8 → Option (List GoInt8) := ddSame goGte
def gteDSBoolsI8 : List GoInt8 → GoInt8 → Option (List Bool) := dsBools goGte
def gteDSSameI8 : List GoInt8 → GoInt8 → Option (List GoInt8) := dsSame goGte
def gteDDBoolsI16 : List GoInt16 → List GoInt16 → Option (List Bool) := ddBools goGte
def gteDDSameI16 : List GoInt16 → List GoInt16 → Option (List GoInt16) := ddSame goGte
def gteDSBoolsI16 : List GoInt16 → GoInt16 → Option (List Bool) := dsBools goGte
def gteDSSameI16 : List GoInt16 → GoInt16 → Option (List GoInt16) := dsSame goGte
def gteDDBoolsI32 : List GoInt32 → List GoInt32 → Option (List Bool) := ddBools goGte
def gteDDSameI32 : List GoInt32 → List GoInt32 → Option (List GoInt32) := ddSame goGte
def gteDSBoolsI32 : List GoInt32 → GoInt32 → Option (List Bool) := dsBools goGte
def gteDSSameI32 : List GoInt32 → GoInt32 → Option (List GoInt32) := dsSame goGte
def gteDDBoolsI64 : List GoInt64 → List GoInt64 → Option (List Bool) := ddBools goGte
def gteDDSameI64 : List GoInt64 → List GoInt64 → Option (List GoInt64) := ddSame goGte
def gteDSBoolsI64 : List GoInt64 → GoInt64 → Option (List Bool) := dsBools goGte
def gteDSSameI64 : List GoInt64 → GoInt64 → Option (List GoInt64) := dsSame goGte
def gteDDBoolsU : List GoUint → List GoUint → Option (List Bool) := ddBools goGte
def gteDDSameU : List GoUint → List GoUint → Option (List GoUint) := ddSame goGte
def gteDSBoolsU : List GoUint → GoUint → Option (List Bool) := dsBools goGte
def gteDSSameU : List GoUint → GoUint → Option (List GoUint) := dsSame goGte
def gteDDBoolsU8 : List GoUint8 → List GoUint8 → Option (List Bool) := ddBools goGte
def gteDDSameU8 : List GoUint8 → List GoUint8 → Option (List GoUint8) := ddSame goGte
def gteDSBoolsU8 : List GoUint8 → GoUint8 → Option (List Bool) := dsBools goGte
def gteDSSameU8 : List GoUint8 → GoUint8 → Option (List GoUint8) := dsSame goGte
def gteDDBoolsU16 : List GoUint16 → List GoUint16 → Option (List Bool) := ddBools goGte
def gteDDSameU16 : List GoUint16 → List GoUint16 → Option (List GoUint16) := ddSame goGte
def gteDSBoolsU16 : List GoUint16 → GoUint16 → Option (List Bool) := dsBools goGte
def gteDSSameU16 : List GoUint16 → GoUint16 → Option (List GoUint16) := dsSame goGte
def gteDDBoolsU32 : List GoUint32 → List GoUint32 → Option (List Bool) := ddBools goGte
def gteDDSameU32 : List GoUint32 → List GoUint32 → Option (List GoUint32) := ddSame goGte
def gteDSBoolsU32 : List GoUint32 → GoUint32 → Option (List Bool) := dsBools goGte
def gteDSSameU32 : List GoUint32 → GoUint32 → Option (List GoUint32) := dsSame goGte
def gteDDBoolsU64 : List GoUint64 → List GoUint64 → Option (List Bool) := ddBools goGte
def gteDDSameU64 : List GoUint64 → List GoUint64 → Option (List GoUint64) := ddSame goGte
def gteDSBoolsU64 : List GoUint64 → GoUint64 → Option (List Bool) := dsBools goGte
def gteDSSameU64 : List GoUint64 → GoUint64 → Option (List GoUint64) := dsSame goGte
def gteDDBoolsUintptr : List GoUintptr → List GoUintptr → Option (List Bool) := ddBools goGte
def gteDSBoolsUintptr : List GoUintptr → GoUintptr → Option (List Bool) := dsBools goGte
def gteDDBoolsF32 : List GoFloat32 → List GoFloat32 → Option (List Bool) := ddBools goGte
def gteDDSameF32 : List GoFloat32 → List GoFloat32 → Option (List GoFloat32) := ddSame goGte
def gteDSBoolsF32 : List GoFloat32 → GoFloat32 → Option (List Bool) := dsBools goGte
def gteDSSameF32 : List GoFloat32 → GoFloat32 → Option (List GoFloat32) := dsSame goGte
def gteDDBoolsF64 : List GoFloat64 → List GoFloat64 → Option (List Bool) := ddBools goGte
def gteDDSameF64 : List GoFloat64 → List GoFloat64 → Option (List GoFloat64) := ddSame goGte
def gteDSBoolsF64 : List GoFloat64 → GoFloat64 → Option (List Bool) := dsBools goGte
def gteDSSameF64 : List GoFloat64 → GoFloat64 → Option (List GoFloat64) := dsSame goGte
def gteDDBoolsStr : List GoString → List GoString → Option (List Bool) := ddBools goGte
def gteDSBoolsStr : List GoString → GoString → Option (List Bool) := dsBools goGte

/-! ## Lt -/

def ltDDBoolsI : List GoInt → List GoInt → Option (List Bool) := ddBools goLt
def ltDDSameI : List GoInt → List GoInt → Option (List GoInt) := ddSame goLt
def ltDSBoolsI : List GoInt → GoInt → Option (List Bool) := dsBools goLt
def ltDSSameI : List GoInt → GoInt → Option (List GoInt) := dsSame goLt
def ltDDBoolsI8 : List GoInt8 → List GoInt8 → Option (List Bool) := ddBools goLt
def ltDDSameI8 : List GoInt8 → List GoInt8 → Option (List GoInt8) := ddSame goLt
def ltDSBoolsI8 : List GoInt8 → GoInt8 → Option (List Bool) := dsBools goLt
def ltDSSameI8 : List GoInt8 → GoInt8 → Option (List GoInt8) := dsSame goLt
def ltDDBoolsI16 : List GoInt16 → List GoInt16 → Option (List Bool) := ddBools goLt
def ltDDSameI16 : List GoInt16 → List GoInt16 → Option (List GoInt16) := ddSame goLt
def ltDSBoolsI16 : List GoInt16 → GoInt16 → Option (List Bool) := dsBools goLt
def ltDSSameI16 : List GoInt16 → GoInt16 → Option (List GoInt16) := dsSame goLt
def ltDDBoolsI32 : List GoInt32 → List GoInt32 → Option (List Bool) := ddBools goLt
def ltDDSameI32 : List GoInt32 → List GoInt32 → Option (List GoInt32) := ddSame goLt
def ltDSBoolsI32 : List GoInt32 → GoInt32 → Option (List Bool) := dsBools goLt
def ltDSSameI32 : List GoInt32 → GoInt32 → Option (List GoInt32) := dsSame goLt
def ltDDBoolsI64 : List GoInt64 → List GoInt64 → Option (List Bool) := ddBools goLt
def ltDDSameI64 : List GoInt64 → List GoInt64 → Option (List GoInt64) := ddSame goLt
def ltDSBoolsI64 : List GoInt64 → GoInt64 → Option (List Bool) := dsBools goLt
def ltDSSameI64 : List GoInt64 → GoInt64 → Option (List GoInt64) := dsSame goLt
def ltDDBoolsU : List GoUint → List GoUint → Option (List Bool) := ddBools goLt
def ltDDSameU : List GoUint → List GoUint → Option (List GoUint) := ddSame goLt
def ltDSBoolsU : List GoUint → GoUint → Option (List Bool) := dsBools goLt
def ltDSSameU : List GoUint → GoUint → Option (List GoUint) := dsSame goLt
def ltDDBoolsU8 : List GoUint8 → List GoUint8 → Option (List Bool) := ddBools goLt
def ltDDSameU8 : List GoUint8 → List GoUint8 → Option (List GoUint8) := ddSame goLt
def ltDSBoolsU8 : List GoUint8 → GoUint8 → Option (List Bool) := dsBools goLt
def ltDSSameU8 : List GoUint8 → GoUint8 → Option (List GoUint8) := dsSame goLt
def ltDDBoolsU16 : List GoUint16 → List GoUint16 → Option (List Bool) := ddBools goLt
def ltDDSameU16 : List GoUint16 → List GoUint16 → Option (List GoUint16) := ddSame goLt
def ltDSBoolsU16 : List GoUint16 → GoUint16 → Option (List Bool) := dsBools goLt
def ltDSSameU16 : List GoUint16 → GoUint16 → Option (List GoUint16) := dsSame goLt
def ltDDBoolsU32 : List GoUint32 → List GoUint32 → Option (List Bool) := ddBools goLt
def ltDDSameU32 : List GoUint32 → List GoUint32 → Option (List GoUint32) := ddSame goLt
def ltDSBoolsU32 : List GoUint32 → GoUint32 → Option (List Bool) := dsBools goLt
def ltDSSameU32 : List GoUint32 → GoUint32 → Option (List GoUint32) := dsSame goLt
def ltDDBoolsU64 : List GoUint64 → List GoUint64 → Option (List Bool) := ddBools goLt
def ltDDSameU64 : List GoUint64 → List GoUint64 → Option (List GoUint64) := ddSame goLt
def ltDSBoolsU64 : List GoUint64 → GoUint64 → Option (List Bool) := dsBools goLt
def ltDSSameU64 : List GoUint64 → GoUint64 → Option (List GoUint64) := dsSame goLt
def ltDDBoolsUintptr : List GoUintptr → List GoUintptr → Option (List Bool) := ddBools goLt
def ltDSBoolsUintptr : List GoUintptr → GoUintptr → Option (List Bool) := dsBools goLt
def ltDDBoolsF32 : List GoFloat32 → List GoFloat32 → Option (List Bool) := ddBools goLt
def ltDDSameF32 : List GoFloat32 → List GoFloat32 → Option (List GoFloat32) := ddSame goLt
def ltDSBoolsF32 : List GoFloat32 → GoFloat32 → Option (List Bool) := dsBools goLt
def ltDSSameF32 : List GoFloat32 → GoFloat32 → Option (List GoFloat32) := dsSame goLt
def ltDDBoolsF64 : List GoFloat64 → List GoFloat64 → Option (List Bool) := ddBools goLt
def ltDDSameF64 : List GoFloat64 → List GoFloat64 → Option (List GoFloat64) := ddSame goLt
def ltDSBoolsF64 : List GoFloat64 → GoFloat64 → Option (List Bool) := dsBools goLt
def ltDSSameF64 : List GoFloat64 → GoFloat64 → Option (List GoFloat64) := dsSame goLt
def ltDDBoolsStr : List GoString → List GoString → Option (List Bool) := ddBools goLt
def ltDSBoolsStr : List GoString → GoString → Option (List Bool) := dsBools goLt

/-! ## Lte -/

def lteDDBoolsI : List GoInt → List GoInt → Option (List Bool) := ddBools goLte
def lteDDSameI : List GoInt → List GoInt → Option (List GoInt) := ddSame goLte
def lteDSBoolsI : List GoInt → GoInt → Option (List Bool) := dsBools goLte
def lteDSSameI : List GoInt → GoInt → Option (List GoInt) := dsSame goLte
def lteDDBoolsI8 : List GoInt8 → List GoInt8 → Option (List Bool) := ddBools goLte
def lteDDSameI8 : List GoInt8 → List GoInt8 → Option (List GoInt8) := ddSame goLte
def lteDSBoolsI8 : List GoInt8 → GoInt8 → Option (List Bool) := dsBools goLte
def lteDSSameI8 : List GoInt8 → GoInt8 → Option (List GoInt8) := dsSame goLte
def lteDDBoolsI16 : List GoInt16 → List GoInt16 → Option (List Bool) := ddBools goLte
def lteDDSameI16 : List GoInt16 → List GoInt16 → Option (List GoInt16) := ddSame goLte
def lteDSBoolsI16 : List GoInt16 → GoInt16 → Option (List Bool) := dsBools goLte
def lteDSSameI16 : List GoInt16 → GoInt16 → Option (List GoInt16) := dsSame goLte
def lteDDBoolsI32 : List GoInt32 → List GoInt32 → Option (List Bool) := ddBools goLte
def lteDDSameI32 : List GoInt32 → List GoInt32 → Option (List GoInt32) := ddSame goLte
def lteDSBoolsI32 : List GoInt32 → GoInt32 → Option (List Bool) := dsBools goLte
def lteDSSameI32 : List GoInt32 → GoInt32 → Option (List GoInt32) := dsSame goLte
def lteDDBoolsI64 : List GoInt64 → List GoInt64 → Option (List Bool) := ddBools goLte
def lteDDSameI64 : List GoInt64 → List GoInt64 → Option (List GoInt64) := ddSame goLte
def lteDSBoolsI64 : List GoInt64 → GoInt64 → Option (List Bool) := dsBools goLte
def lteDSSameI64 : List GoInt64 → GoInt64 → Option (List GoInt64) := dsSame goLte
def lteDDBoolsU : List GoUint → List GoUint → Option (List Bool) := ddBools goLte
def lteDDSameU : List GoUint → List GoUint → Option (List GoUint) := ddSame goLte
def lteDSBoolsU : List GoUint → GoUint → Option (List Bool) := dsBools goLte
def lteDSSameU : List GoUint → GoUint → Option (List GoUint) := dsSame goLte
def lteDDBoolsU8 : List GoUint8 → List GoUint8 → Option (List Bool) := ddBools goLte
def lteDDSameU8 : List GoUint8 → List GoUint8 → Option (List GoUint8) := ddSame goLte
def lteDSBoolsU8 : List GoUint8 → GoUint8 → Option (List Bool) := dsBools goLte
def lteDSSameU8 : List GoUint8 → GoUint8 → Option (List GoUint8) := dsSame goLte
def lteDDBoolsU16 : List GoUint16 → List GoUint16 → Option (List Bool) := ddBools goLte
def lteDDSameU16 : List GoUint16 → List GoUint16 → Option (List GoUint16) := ddSame goLte
def lteDSBoolsU16 : List GoUint16 → GoUint16 → Option (List Bool) := dsBools goLte
def lteDSSameU16 : List GoUint16 → GoUint16 → Option (List GoUint16) := dsSame goLte
def lteDDBoolsU32 : List GoUint32 → List GoUint32 → Option (List Bool) := ddBools goLte
def lteDDSameU32 : List GoUint32 → List GoUint32 → Option (List GoUint32) := ddSame goLte
def lteDSBoolsU32 : List GoUint32 → GoUint32 → Option (List Bool) := dsBools goLte
def lteDSSameU32 : List GoUint32 → GoUint32 → Option (List GoUint32) := dsSame goLte
def lteDDBoolsU64 : List GoUint64 → List GoUint64 → Option (List Bool) := ddBools goLte
def lteDDSameU64 : List GoUint64 → List GoUint64 → Option (List GoUint64) := ddSame goLte
def lteDSBoolsU64 : List GoUint64 → GoUint64 → Option (List Bool) := dsBools goLte
def lteDSSameU64 : List GoUint64 → GoUint64 → Option (List GoUint64) := dsSame goLte
def lteDDBoolsUintptr : List GoUintptr → List GoUintptr → Option (List Bool) := ddBools goLte
def lteDSBoolsUintptr : List GoUintptr → GoUintptr → Option (List Bool) := dsBools goLte
def lteDDBoolsF32 : List GoFloat32 → List GoFloat32 → Option (List Bool) := ddBools goLte
def lteDDSameF32 : List GoFloat32 → List GoFloat32 → Option (List GoFloat32) := ddSame goLte
def lteDSBoolsF32 : List GoFloat32 → GoFloat32 → Option (List Bool) := dsBools goLte
def lteDSSameF32 : List GoFloat32 → GoFloat32 → Option (List GoFloat32) := dsSame goLte
def lteDDBoolsF64 : List GoFloat64 → List GoFloat64 → Option (List Bool) := ddBools goLte
def lteDDSameF64 : List GoFloat64 → List GoFloat64 → Option (List GoFloat64) := ddSame goLte
def lteDSBoolsF64 : List GoFloat64 → GoFloat64 → Option (List Bool) := dsBools goLte
def lteDSSameF64 : List GoFloat64 → GoFloat64 → Option (List GoFloat64) := dsSame goLte
def lteDDBoolsStr : List GoString → List GoString → Option (List Bool) := ddBools goLte
def lteDSBoolsStr : List GoString → GoString → Option (List Bool) := dsBools goLte

end Gorgonia
