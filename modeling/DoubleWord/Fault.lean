/-!
# Faults

An operation of this library either answers or stops with a `Fault`: a division by zero, an
index past the end, a logarithm of zero, a base that has no digits, a 128-by-64 quotient that
does not fit in a word, an exponent with no floating power of two, or an overflow of a native
word that the operation was not allowed to wrap (a shift by the word's width or more among
them).

Each fault carries the data its message names, and `Fault.message` is the one place where the
wording lives.

Source: the panics of `fwnum/src/bigint/algorithms.rs`, `fwnum/src/bigint/uint128.rs`,
`fwnum/src/bigint/text.rs` and `fwnum/src/primitives.rs`, and those of the native word operations
they reach.
-/

set_option autoImplicit false

namespace DoubleWord

/-- **Why an operation stopped.** -/
inductive Fault where
  /-- A quotient was asked of a zero divisor. -/
  | divideByZero
  /-- A remainder was asked of a zero divisor of a native word. -/
  | remainderByZero
  /-- A word index other than 0 and 1 of a two-word value. -/
  | wordIndex (index : Nat)
  /-- A bit index of 128 or more. -/
  | bitIndex (index : Nat)
  /-- The integer logarithm of zero. -/
  | logOfZero
  /-- Digits were asked in a base outside `[2, 36]`. -/
  | badBase (base : Nat)
  /-- A 128-by-64 division whose high word is not below the divisor. -/
  | quotientTooWide
  /-- The leading zeros of a word that must not be zero. -/
  | zeroWord
  /-- Long division by a divisor whose high word is zero. -/
  | narrowDivisor
  /-- A power of two outside the exponent range of single precision. -/
  | noSinglePower (exponent : Int)
  /-- A power of two outside the exponent range of double precision. -/
  | noDoublePower (exponent : Int)
  /-- A native product that does not fit its width. -/
  | mulOverflow
  /-- A native difference below zero. -/
  | subOverflow
  /-- A native word shifted left by its width or more. -/
  | shlOverflow
  /-- A native word shifted right by its width or more. -/
  | shrOverflow
  deriving DecidableEq, Repr

namespace Fault

/-- The text that reports the fault.
Source: the panic messages of `algorithms::div_rem_word`, `U128::bit`, `U128::ilog2`,
`U128::encode`, `primitives::widening_div`, `primitives::pow2_f32` and `pow2_f64`, and those of the
native word operations. -/
def message : Fault → String
  | divideByZero => "attempt to divide by zero"
  | remainderByZero => "attempt to calculate the remainder with a divisor of zero"
  | wordIndex index => s!"index out of bounds: the len is 2 but the index is {index}"
  | bitIndex index => s!"bit index {index} out of range"
  | logOfZero => "argument of integer logarithm must be positive"
  | badBase base => s!"base must be in the range [2, 36], got {base}"
  | quotientTooWide => "128-by-64 division quotient does not fit in 64 bits"
  | zeroWord => "assertion failed: word != 0"
  | narrowDivisor => "assertion failed: divisor[HI] != 0"
  | noSinglePower exponent => s!"exponent {exponent} has no single precision power of two"
  | noDoublePower exponent => s!"exponent {exponent} has no double precision power of two"
  | mulOverflow => "attempt to multiply with overflow"
  | subOverflow => "attempt to subtract with overflow"
  | shlOverflow => "attempt to shift left with overflow"
  | shrOverflow => "attempt to shift right with overflow"

end Fault

end DoubleWord
