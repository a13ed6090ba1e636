import DoubleWord.Fault
import DoubleWord.Power

/-!
# Unsigned integers of a fixed width

`Unsigned α` gathers what generic code asks of an unsigned integer type of fixed width: the
wrapping operations, division and remainder that refuse a zero divisor, the product operator,
the bit queries, and the conversions with doubles. Native words and two-word numbers are its
instances; the generic algorithms and the numeric limits are written once over it.

The product operator `mul` is the one a plain `*` denotes: a native word refuses a product
that does not fit, a two-word number wraps it.

Source: `numeric::UnsignedInteger` and `numeric::NumericLimits`,
`fwnum/src/numeric/unsigned.rs:7-97`, `fwnum/src/numeric/mod.rs:55-84`.
-/

set_option autoImplicit false

namespace DoubleWord

/-- **An unsigned integer type of fixed width.**
Source: `numeric::UnsignedInteger` with the operator traits it asks for,
`fwnum/src/numeric/unsigned.rs:7-97`. -/
class Unsigned (α : Type) where
  /-- The number of bits. -/
  width : Nat
  /-- The number a value stands for, below `2^width`. -/
  toNat : α → Nat
  /-- The value with the low `width` bits of a number. -/
  ofNat : Nat → α
  /-- The sum modulo `2^width`. -/
  wrappingAdd : α → α → α
  /-- The difference modulo `2^width`. -/
  wrappingSub : α → α → α
  /-- The product modulo `2^width`. -/
  wrappingMul : α → α → α
  /-- The product operator. -/
  mul : α → α → Except Fault α
  /-- The quotient; a zero divisor is refused. -/
  div : α → α → Except Fault α
  /-- The remainder; a zero divisor is refused. -/
  rem : α → α → Except Fault α
  /-- `2^width - a` modulo `2^width`. -/
  wrappingNeg : α → α
  /-- The power modulo `2^width`. -/
  wrappingPow : α → Nat → α
  /-- The left shift by an amount reduced to the width. -/
  wrappingShl : α → Nat → α
  /-- The right shift by an amount reduced to the width. -/
  wrappingShr : α → Nat → α
  /-- The sum modulo `2^width` and whether it overflowed. -/
  overflowingAdd : α → α → α × Bool
  /-- The difference modulo `2^width` and whether it went below zero. -/
  overflowingSub : α → α → α × Bool
  /-- The quotient, or nothing for a zero divisor. -/
  checkedDiv : α → α → Option α
  /-- The remainder, or nothing for a zero divisor. -/
  checkedRem : α → α → Option α
  /-- The zero bits above the highest one bit. -/
  leadingZeros : α → Nat
  /-- The zero bits below the lowest one bit. -/
  trailingZeros : α → Nat
  /-- The one bits. -/
  countOnes : α → Nat
  /-- Whether exactly one bit is set. -/
  isPowerOfTwo : α → Bool
  /-- The index of the highest one bit; zero is refused. -/
  ilog2 : α → Except Fault Nat
  /-- The value of a double, given as its bit pattern. -/
  ofDoubleBits : Nat → α
  /-- The double of a value, as its bit pattern. -/
  toDoubleBits : α → Nat
  /-- The binary numeral zero-padded to the full width, with a space after each block of the
  given length but the last; a zero block length is refused. -/
  toBitsText : α → Nat → Except Fault String

namespace Unsigned

variable {α : Type} [Unsigned α]

/-- Zero. -/
def zero : α := ofNat 0

/-- One. -/
def one : α := ofNat 1

/-- Whether a value is zero. -/
def isZero (a : α) : Bool := toNat a == 0

/-- **The least `k` with `a ≤ 2^k`:** the logarithm, plus one unless `a` is a power of two.
Source: the default `UnsignedInteger::ceil_ilog2`, `fwnum/src/numeric/unsigned.rs:90-93`. -/
def ceilIlog2 (a : α) : Except Fault Nat := do
  let k ← ilog2 a
  return k + if isPowerOfTwo a then 0 else 1

end Unsigned

/-- **The numeric limits of an unsigned integer type.**
Source: `numeric::NumericLimits`, `fwnum/src/numeric/mod.rs:55-84`. -/
structure NumericLimits where
  /-- The width in bits, which is also the number of binary digits. -/
  bits : Nat
  /-- The largest `n` such that every decimal numeral of `n` digits fits. -/
  digits10 : Nat
  /-- The base of the representation. -/
  radix : Nat := 2
  /-- Whether negative values exist. -/
  isSigned : Bool := false
  /-- Whether every value is an integer. -/
  isInteger : Bool := true
  /-- Whether arithmetic is exact. -/
  isExact : Bool := true
  /-- Whether the values are bounded. -/
  isBounded : Bool := true
  /-- Whether arithmetic wraps around. -/
  isModulo : Bool := true
  /-- Whether an infinity exists. -/
  hasInfinity : Bool := false
  /-- Whether a NaN exists. -/
  hasNaN : Bool := false
  /-- Whether some operation stops instead of answering: division by zero does. -/
  traps : Bool := true
  /-- The difference between one and the next value; zero for integers. -/
  epsilon : Nat := 0
  /-- The value standing for infinity; zero, as there is none. -/
  infinity : Nat := 0
  /-- The value standing for NaN; zero, as there is none. -/
  nan : Nat := 0
  deriving Repr

namespace NumericLimits

/-- The greatest value. -/
def maxValue (l : NumericLimits) : Nat := Nat.pow 2 l.bits - 1

/-- The limits of a width: the number of decimal digits is the largest `n` with
`10^n ≤ 2^bits`, one less than the number of digits of `2^bits`.
Source: `NumericLimits` of the native types and of `U128`, `fwnum/src/numeric/mod.rs:98-123`,
`fwnum/src/bigint/uint128.rs:562-589`. -/
def ofWidth (bits : Nat) : NumericLimits :=
  { bits, digits10 := (Nat.toDigits 10 (Nat.pow 2 bits)).length - 1 }

end NumericLimits

end DoubleWord
