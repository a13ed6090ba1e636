import DoubleWord.U128.Bits
import DoubleWord.Float.Precision

/-!
# Two-word numbers and floats

From a float: the significand, with the implicit one put back even for a subnormal, is shifted
by the distance between the unbiased exponent and the fraction width; bits past `2^128` are
lost, a left shift of 128 or more and a right shift wider than the fraction give zero, and a
negative float is negated modulo `2^128`. Infinities and NaNs give zero. For every finite
float this is its integer part modulo `2^128`.

To a float: each word is rounded to the nearest float, and the high one, scaled by `2^64`, is
added to the low one with one more rounding. Two roundings can differ from one.

Source: `from_ieee754_parts` and the float casts, `fwnum/src/bigint/conversion.rs:137-214`, and
`FromPrimitive::from_f64`, `fwnum/src/bigint/num_impls.rs:161-164`.
-/

set_option autoImplicit false

namespace DoubleWord

namespace U128

/-- **The magnitude of a finite float pattern** as a value: the significand, with the implicit
one put back even for a subnormal, shifted by the distance between the unbiased exponent and the
fraction width. Bits past `2^128` are lost; a left shift of 128 or more and a right shift wider
than the fraction give zero.
Source: the shift of `from_ieee754_parts`, `fwnum/src/bigint/conversion.rs:155-167`. -/
def ofSignificand (p : Precision) (bits : Nat) : U128 :=
  let magnitude := ofNat (Nat.pow 2 p.fractionBits + p.fractionOf bits)
  let shift : Int := (p.exponentOf bits : Int) - p.bias - p.fractionBits
  if shift > 0 then
    if shift ≥ 128 then zero else magnitude.shl shift.toNat
  else if shift < 0 then
    if (-shift).toNat > p.fractionBits then zero else magnitude.shr (-shift).toNat
  else magnitude

/-- **The value of a float pattern,** by its fields (see the module comment).
Source: `from_ieee754_parts` with `CastFrom<f32>` and `CastFrom<f64> for U128`,
`fwnum/src/bigint/conversion.rs:137-202`. -/
def ofFloatBits (p : Precision) (bits : Nat) : U128 :=
  if p.exponentOf bits = p.topExponent then zero
  else if p.signOf bits then -ofSignificand p bits else ofSignificand p bits

/-- **A double in `(-1, 2^128)` as a value,** or nothing outside it and for a NaN. A negative
double in range is raised to zero first.
Source: `FromPrimitive::from_f64`, `fwnum/src/bigint/num_impls.rs:161-164`. -/
def ofDoubleInRange? (bits : Nat) : Option U128 :=
  let p := Precision.double
  if p.isNaN bits then none
  else if p.signOf bits then
    if p.exponentOf bits < p.bias then some zero else none
  else if p.exponentOf bits < p.bias + 128 then some (ofFloatBits p bits)
  else none

/-- **The float of a value,** as a pattern: the high word rounded, times `2^64`, plus the low
word rounded, rounded again.
Source: `CastFrom<U128>` for `f32` and `f64`, `fwnum/src/bigint/conversion.rs:204-214`. -/
def toFloatBits (p : Precision) (x : U128) : Nat :=
  p.ofNatBits (p.roundNat x.hi.toNat * wordSize + p.roundNat x.lo.toNat)

end U128

end DoubleWord
