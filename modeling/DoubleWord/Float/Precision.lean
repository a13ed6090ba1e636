import DoubleWord.Word

/-!
# Binary floating point bit patterns

A floating point number is handled here as its bit pattern, a natural number: a sign bit, an
exponent field and a fraction field. No runtime float operation is used; every value is exact
arithmetic on naturals.

* `pow2Bits` builds `±2^e` from the exponent field alone, over the range where that field
  exists: the lowest value of the field is a signed zero and the highest is infinity.
* `ofNatBits` rounds a natural number to the nearest float, a tie going to the even
  significand, and past the largest finite value to infinity.
* `truncNat` is the integer part of a finite float's magnitude.

Source: the IEEE 754 fields that `fwnum/src/bigint/conversion.rs:137-214` reads, and
`primitives::pow2_f32` and `pow2_f64`, `fwnum/src/primitives.rs:111-141`.
-/

set_option autoImplicit false

namespace DoubleWord

/-- **The two binary interchange formats** used here.
Source: the field widths that `CastFrom<f32>` and `CastFrom<f64> for U128` pass to
`from_ieee754_parts`, `fwnum/src/bigint/conversion.rs:176-202`. -/
inductive Precision where
  /-- 32 bits: 8 exponent bits, 23 fraction bits. -/
  | single
  /-- 64 bits: 11 exponent bits, 52 fraction bits. -/
  | double
  deriving DecidableEq, Repr

namespace Precision

/-- The width of the exponent field. -/
def exponentBits : Precision → Nat
  | single => 8
  | double => 11

/-- The width of the fraction field. -/
def fractionBits : Precision → Nat
  | single => 23
  | double => 52

/-- The width of the whole pattern. -/
def width (p : Precision) : Nat := 1 + p.exponentBits + p.fractionBits

/-- The exponent bias: the field value of `2^0`. -/
def bias (p : Precision) : Nat := Nat.pow 2 (p.exponentBits - 1) - 1

/-- The all-ones exponent field, which marks infinities and NaNs. -/
def topExponent (p : Precision) : Nat := Nat.pow 2 p.exponentBits - 1

/-- The significand width, the implicit leading one included. -/
def precision (p : Precision) : Nat := p.fractionBits + 1

/-- The fault of a power of two outside the exponent range. -/
def noPower (p : Precision) (e : Int) : Fault :=
  match p with
  | single => .noSinglePower e
  | double => .noDoublePower e

/-- Whether the sign bit of a pattern is set. -/
def signOf (p : Precision) (bits : Nat) : Bool :=
  bits / Nat.pow 2 (p.width - 1) % 2 = 1

/-- The exponent field of a pattern. -/
def exponentOf (p : Precision) (bits : Nat) : Nat :=
  bits / Nat.pow 2 p.fractionBits % Nat.pow 2 p.exponentBits

/-- The fraction field of a pattern. -/
def fractionOf (p : Precision) (bits : Nat) : Nat :=
  bits % Nat.pow 2 p.fractionBits

/-- Whether the pattern is a NaN: all-ones exponent and a nonzero fraction. -/
def isNaN (p : Precision) (bits : Nat) : Bool :=
  p.exponentOf bits = p.topExponent && p.fractionOf bits ≠ 0

/-- The pattern of positive infinity. -/
def infinityBits (p : Precision) : Nat := p.topExponent * Nat.pow 2 p.fractionBits

/-- **A power of two from its exponent field:** `±2^e` for `e` in `[-bias, bias + 1]`, where
`-bias` gives a signed zero and `bias + 1` an infinity.
Source: `primitives::pow2_f32` and `pow2_f64`, `fwnum/src/primitives.rs:111-141`. -/
def pow2Bits (p : Precision) (e : Int) (negative : Bool) : Except Fault Nat :=
  if -(p.bias : Int) ≤ e ∧ e ≤ p.bias + 1 then
    .ok ((if negative then Nat.pow 2 (p.width - 1) else 0) + (e + p.bias).toNat * Nat.pow 2 p.fractionBits)
  else .error (p.noPower e)

/-- **`n` rounded to `prec` significant bits,** a tie going to the even significand: a
significand `m` below `2^prec` and a shift `s`, the rounded value being `m · 2^s`. -/
def roundSig (prec n : Nat) : Nat × Nat :=
  let len := bitLength n
  if len ≤ prec then (n, 0)
  else
    let s := len - prec
    let m := n / Nat.pow 2 s
    let r := n % Nat.pow 2 s
    let half := Nat.pow 2 (s - 1)
    let m := if r > half ∨ (r = half ∧ m % 2 = 1) then m + 1 else m
    if m = Nat.pow 2 prec then (m / 2, s + 1) else (m, s)

/-- The value of `n` rounded to the significant bits of `p`, before any overflow. -/
def roundNat (p : Precision) (n : Nat) : Nat :=
  let (m, s) := roundSig p.precision n
  m * Nat.pow 2 s

/-- **The float nearest to `n`,** as a pattern: a tie goes to the even significand, and a
value whose exponent passes the largest finite one becomes infinity.
Source: the `as f32` and `as f64` casts of an integer, round to nearest with ties to even. -/
def ofNatBits (p : Precision) (n : Nat) : Nat :=
  let (m, s) := roundSig p.precision n
  if m = 0 then 0
  else
    let len := bitLength m
    let e := len - 1 + s
    if e > p.bias then p.infinityBits
    else (e + p.bias) * Nat.pow 2 p.fractionBits + (m * Nat.pow 2 (p.precision - len) - Nat.pow 2 p.fractionBits)

/-- **The integer part of the magnitude** of a finite pattern: the significand, with the
implicit one for a normal number, shifted by the exponent.
Source: the `as` cast of a float to an integer, which truncates toward zero. -/
def truncNat (p : Precision) (bits : Nat) : Nat :=
  let e := p.exponentOf bits
  if e = 0 then 0
  else
    let m := Nat.pow 2 p.fractionBits + p.fractionOf bits
    if e ≥ p.bias + p.fractionBits then m * Nat.pow 2 (e - p.bias - p.fractionBits)
    else m / Nat.pow 2 (p.bias + p.fractionBits - e)

end Precision

end DoubleWord
