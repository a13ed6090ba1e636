import DoubleWord.Unsigned.Basic

/-!
# Generic algorithms on unsigned integers

Written once over `Unsigned`:

* `gcd`, Euclid's loop `while b ≠ 0: (a, b) := (b, a mod b)`;
* `binomial n k`, the fold `acc · (n - i) / (i + 1)` for `i` below `k`, exact as long as every
  partial product fits; the operands are taken modulo the width, and `n - i` below zero is a
  fault of its own;
* `factorial n`, the wrapping product of `2, …, n`.

Source: the generic `gcd`, `binomial` and `wrapping_factorial` of `fwnum/tests/u128.rs:153-174` and
`fwnum/src/numeric/unsigned.rs:201-205`.
-/

set_option autoImplicit false

namespace DoubleWord

namespace Unsigned

variable {α : Type} [Unsigned α]

/-- Euclid's loop, for at most `fuel` steps.
Source: the loop `while b != T::ZERO` of `gcd`, `fwnum/tests/u128.rs:168-172`. -/
def gcdSteps : Nat → α → α → Except Fault α
  | 0, a, _ => .ok a
  | fuel + 1, a, b =>
    if isZero b then .ok a
    else do
      let r ← rem a b
      gcdSteps fuel b r

/-- **Greatest common divisor** by Euclid's loop; `gcd a 0 = a`. Two steps at least halve the
second operand, so `2 · width + 2` steps are enough.
Source: `gcd`, `fwnum/tests/u128.rs:167-174`. -/
def gcd (a b : α) : Except Fault α :=
  gcdSteps (2 * width α + 2) a b

/-- One step of the binomial fold: `acc · (n - i) / (i + 1)`.
Source: the step of the fold of `binomial`, `fwnum/tests/u128.rs:162-163`. -/
def binomialStep (n : Nat) (acc : α) (i : Nat) : Except Fault α := do
  if n < i then throw .subOverflow
  let t ← mul acc (ofNat (n - i))
  div t (ofNat (i + 1))

/-- **The binomial coefficient** `n choose k` by the fold `acc · (n - i) / (i + 1)`.
Source: `binomial`, `fwnum/tests/u128.rs:159-165`. -/
def binomial (n k : Nat) : Except Fault α :=
  (List.range k).foldlM (binomialStep n) one

/-- The wrapping product `acc · i · (i + 1) ⋯` of `count` factors; once the product is zero
it stays zero.
Source: the fold of `wrapping_factorial`, `fwnum/tests/u128.rs:154-156`, with an early exit at zero
that the fold does not have. -/
def productFrom (acc : α) (i : Nat) : Nat → α
  | 0 => acc
  | count + 1 => if isZero acc then acc else productFrom (wrappingMul acc (ofNat i)) (i + 1) count

/-- **`n!` modulo `2^width`,** the wrapping product of `2, …, n`.
Source: `wrapping_factorial`, `fwnum/tests/u128.rs:153-157`, also
`fwnum/src/numeric/unsigned.rs:201-205`. -/
def factorial (n : Nat) : α :=
  productFrom one 2 (n - 1)

end Unsigned

end DoubleWord
