import DoubleWord.Unsigned.Basic
import DoubleWord.U128.Div
import DoubleWord.U128.Float
import DoubleWord.U128.Format

/-!
# Two-word numbers as unsigned integers

`U128` is an `Unsigned` type of width 128: every operation is the two-word algorithm, the
product operator wraps, and both division and remainder by zero report a division by zero.

Source: `UnsignedInteger for U128`, `fwnum/src/bigint/uint128.rs:591-667`.
-/

set_option autoImplicit false

namespace DoubleWord

/-- Source: `UnsignedInteger for U128`, `fwnum/src/bigint/uint128.rs:591-667`. -/
instance : Unsigned U128 where
  width := 128
  toNat := U128.toNat
  ofNat := U128.ofNat
  wrappingAdd a b := a + b
  wrappingSub a b := a - b
  wrappingMul a b := a * b
  mul a b := .ok (a * b)
  div := U128.div
  rem := U128.rem
  wrappingNeg := U128.neg
  wrappingPow := U128.pow
  wrappingShl := U128.shl
  wrappingShr := U128.shr
  overflowingAdd := U128.overflowingAdd
  overflowingSub := U128.overflowingSub
  checkedDiv := U128.checkedDiv
  checkedRem := U128.checkedRem
  leadingZeros := U128.leadingZeros
  trailingZeros := U128.trailingZeros
  countOnes := U128.countOnes
  isPowerOfTwo := U128.isPowerOfTwo
  ilog2 := U128.ilog2
  ofDoubleBits := U128.ofFloatBits .double
  toDoubleBits := U128.toFloatBits .double
  toBitsText := U128.toBitsText

end DoubleWord
