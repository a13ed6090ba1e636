import DoubleWord.Unsigned.Basic
import DoubleWord.Float.Precision
import DoubleWord.Text.Layout
import DoubleWord.Text.BitGroups

/-!
# Native words

A native unsigned word of `w` bits is a `BitVec w`. Its arithmetic wraps modulo `2^w`, a shift
amount is reduced modulo `w` (the widths used are powers of two), division and remainder by
zero are refused with their own faults, and the product operator refuses a product that does
not fit. A double converts to a native word by truncation toward zero, saturating: NaN and
negative values give zero, values too large give the greatest word. The grouped binary numeral
starts from the word's own binary numeral, zero-padded to the width by the integer layout.

Source: `implement!` and `implement_native!`, `fwnum/src/numeric/unsigned.rs:107-195`,
`fwnum/src/numeric/mod.rs:86-146`.
-/

set_option autoImplicit false

namespace DoubleWord

namespace Native

variable {w : Nat}

/-- The quotient; a zero divisor is refused.
Source: `/` on a native word, which panics on a zero divisor. -/
def div (a b : BitVec w) : Except Fault (BitVec w) :=
  if b.toNat = 0 then .error .divideByZero else .ok (BitVec.ofNat w (a.toNat / b.toNat))

/-- The remainder; a zero divisor is refused.
Source: `%` on a native word, which panics on a zero divisor. -/
def rem (a b : BitVec w) : Except Fault (BitVec w) :=
  if b.toNat = 0 then .error .remainderByZero else .ok (BitVec.ofNat w (a.toNat % b.toNat))

/-- The product, refused when it does not fit in `w` bits.
Source: `*` on a native word, which panics on overflow in a debug build. -/
def mul (a b : BitVec w) : Except Fault (BitVec w) :=
  if a.toNat * b.toNat < Nat.pow 2 w then .ok (BitVec.ofNat w (a.toNat * b.toNat))
  else .error .mulOverflow

/-- **A double as a native word:** its integer part, saturating at both ends; NaN gives
zero.
Source: `CastFrom<f64>` for the native types, an `as` cast, `fwnum/src/numeric/mod.rs:125-130`. -/
def ofDoubleBits (w : Nat) (bits : Nat) : BitVec w :=
  let p := Precision.double
  if p.isNaN bits ∨ p.signOf bits then 0
  else if p.exponentOf bits = p.topExponent then BitVec.ofNat w (Nat.pow 2 w - 1)
  else BitVec.ofNat w (min (p.truncNat bits) (Nat.pow 2 w - 1))

/-- The index of the highest one bit; zero is refused.
Source: `ilog2` of a native word, `fwnum/src/numeric/unsigned.rs:183-185`. -/
def ilog2 (a : BitVec w) : Except Fault Nat :=
  if a.toNat = 0 then .error .logOfZero else .ok (a.toNat.log2)

/-- **The binary numeral of a native word, zero-padded to its width:** the binary digits of its
value in the integer layout with zero padding to `w` characters.
Source: the zero-padded `{:0bits$b}` of `to_bits_string`, `fwnum/src/numeric/unsigned.rs:110-113`.
-/
def paddedBinary (a : BitVec w) : String :=
  ({ zeroPad := true, width := w } : Text.Layout).apply "0b"
    (String.ofList (Nat.toDigits 2 a.toNat))

end Native

/-- Source: `implement!` of `UnsignedInteger` for `u8` to `usize`,
`fwnum/src/numeric/unsigned.rs:107-195`. -/
instance (w : Nat) : Unsigned (BitVec w) where
  width := w
  toNat a := a.toNat
  ofNat n := BitVec.ofNat w n
  wrappingAdd a b := a + b
  wrappingSub a b := a - b
  wrappingMul a b := a * b
  mul := Native.mul
  div := Native.div
  rem := Native.rem
  wrappingNeg a := -a
  wrappingPow a n := squareMultiply (· * ·) 1 a n
  wrappingShl a n := a <<< (n % w)
  wrappingShr a n := a >>> (n % w)
  overflowingAdd a b := (a + b, Nat.pow 2 w ≤ a.toNat + b.toNat)
  overflowingSub a b := (a - b, a.toNat < b.toNat)
  checkedDiv a b := (Native.div a b).toOption
  checkedRem a b := (Native.rem a b).toOption
  leadingZeros a := w - bitLength a.toNat
  trailingZeros a := lowZeros w a.toNat
  countOnes a := onesIn w a.toNat
  isPowerOfTwo a := onesIn w a.toNat == 1
  ilog2 := Native.ilog2
  ofDoubleBits := Native.ofDoubleBits w
  toDoubleBits a := Precision.double.ofNatBits a.toNat
  toBitsText a block := Text.splitBits (Native.paddedBinary a) w block

end DoubleWord
