/-!
# Square and multiply

A power `acc · base ^ exp` for any multiplication, one squaring per bit of the exponent, the
lowest bit first. The state holds the accumulator, the current square and the bits of the
exponent not yet used; a one bit multiplies the accumulator by the square. The loop stops when
no bit is left, so it makes one round per binary digit of the exponent.

Two-word numbers and native words both take their wrapping powers from here.

Source: `U128::wrapping_pow`, `fwnum/src/bigint/uint128.rs:196-208`.
-/

set_option autoImplicit false

namespace DoubleWord

/-- **The state of square and multiply.**
Source: the locals `acc`, `base` and `exp` of `U128::wrapping_pow`,
`fwnum/src/bigint/uint128.rs:197-200`. -/
structure PowState (α : Type) where
  /-- The product of the squares met at a one bit. -/
  acc : α
  /-- The current square. -/
  base : α
  /-- The bits of the exponent not yet used. -/
  exp : Nat

namespace PowState

variable {α : Type}

/-- **One round:** a one bit multiplies the accumulator by the square; the square is squared and
the bit dropped.
Source: the loop body of `U128::wrapping_pow`, `fwnum/src/bigint/uint128.rs:202-206`. -/
def round (mul : α → α → α) (s : PowState α) : PowState α :=
  ⟨if s.exp % 2 = 1 then mul s.acc s.base else s.acc, mul s.base s.base, s.exp / 2⟩

/-- **The loop:** rounds while bits are left.
Source: the loop `while exp > 0` of `U128::wrapping_pow`, `fwnum/src/bigint/uint128.rs:201-207`. -/
def run (mul : α → α → α) (s : PowState α) : PowState α :=
  if _ : s.exp = 0 then s else run mul (round mul s)
termination_by s.exp
decreasing_by exact Nat.div_lt_self (Nat.pos_of_ne_zero ‹_›) (by decide)

end PowState

/-- **Square and multiply:** `acc · base ^ exp` for the multiplication `mul`.
Source: `U128::wrapping_pow`, `fwnum/src/bigint/uint128.rs:196-208`. -/
def squareMultiply {α : Type} (mul : α → α → α) (acc base : α) (exp : Nat) : α :=
  (PowState.run mul ⟨acc, base, exp⟩).acc

end DoubleWord
