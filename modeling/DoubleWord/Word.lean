import DoubleWord.Fault

/-!
# Words

A word is a `UInt64`. This module holds what a two-word number needs from its words: the full
product of two words, the division of a two-word number by a word (once through exact
arithmetic, once bit by bit as restoring division does it), and the bit counts of a word.

The bit counts are stated on natural numbers of a given width (`bitLength`, `lowZeros`,
`onesIn`), so that words of every width share them.

Source: `fwnum/src/primitives.rs`, the word-level building blocks, and the word operations that
`fwnum/src/bigint/algorithms.rs` calls.
-/

set_option autoImplicit false

namespace DoubleWord

/-- The radix of one word, `2^64`. -/
abbrev wordSize : Nat := 18446744073709551616

/-- **Bit length.** The number of binary digits of `n`, without leading zeros: `0` for zero. -/
def bitLength (n : Nat) : Nat :=
  if n = 0 then 0 else n.log2 + 1

/-- **Trailing zeros within a width.** The number of zero bits below the lowest one bit of `n`,
looking at `width` bits; `width` when those bits are all zero. -/
def lowZeros : Nat → Nat → Nat
  | 0, _ => 0
  | width + 1, n => if n % 2 = 1 then 0 else lowZeros width (n / 2) + 1

/-- **Population count within a width.** The number of one bits among the `width` lowest bits
of `n`. -/
def onesIn : Nat → Nat → Nat
  | 0, _ => 0
  | width + 1, n => n % 2 + onesIn width (n / 2)

namespace Word

/-- The number `lo + 2^64 · hi` that a low and a high word stand for. -/
def join (lo hi : UInt64) : Nat :=
  lo.toNat + wordSize * hi.toNat

/-- **Widening product.** The full product of two words, low word first.
Source: `primitives::widening_mul`, `fwnum/src/primitives.rs:8-11`. -/
def mulWide (x y : UInt64) : UInt64 × UInt64 :=
  let p := x.toNat * y.toNat
  (UInt64.ofNat p, UInt64.ofNat (p / wordSize))

/-- The sum of two words and whether it passed `2^64`.
Source: the word sums and carries of `algorithms::add_assign_words`,
`fwnum/src/bigint/algorithms.rs:21-30`. -/
def addFlag (x y : UInt64) : UInt64 × Bool :=
  let s := x + y
  (s, s < x)

/-- The difference of two words and whether it went below zero.
Source: the word differences and borrows of `algorithms::sub_assign_words`,
`fwnum/src/bigint/algorithms.rs:34-42`. -/
def subFlag (x y : UInt64) : UInt64 × Bool :=
  (x - y, x < y)

/-- **A native shift of a word by `s` places,** `shift` being the word operation and
`overflow` its fault: an amount of 64 or more overflows the word, and the shift stops.
Source: the word shifts `<<` and `>>`, which overflow at 64 places and which
`algorithms::shl_assign` and `shr_assign` keep below 64, `fwnum/src/bigint/algorithms.rs:146-169`.
-/
def shiftChecked (shift : UInt64 → UInt64 → UInt64) (overflow : Fault) (x : UInt64) (s : Nat) :
    Except Fault UInt64 :=
  if s < 64 then .ok (shift x s.toUInt64) else .error overflow

/-- The native left shift of a word. -/
def shlChecked : UInt64 → Nat → Except Fault UInt64 :=
  shiftChecked (· <<< ·) .shlOverflow

/-- The native right shift of a word. -/
def shrChecked : UInt64 → Nat → Except Fault UInt64 :=
  shiftChecked (· >>> ·) .shrOverflow

/-- **Narrowing division.** Quotient and remainder of `lo + 2^64 · hi` by `d`, in exact
arithmetic, the quotient cut to one word. The quotient fits whenever `hi < d`.
Source: the `div` instruction of `primitives::widening_div`, `fwnum/src/primitives.rs:27-45`. -/
def divWide (lo hi d : UInt64) : UInt64 × UInt64 :=
  let n := join lo hi
  (UInt64.ofNat (n / d.toNat), UInt64.ofNat (n % d.toNat))

/-- **A 128-by-64 division where it is defined.** The division `divide` is asked only when the
quotient fits: a high word not below the divisor (a zero divisor among them) has a quotient
wider than a word, and is refused.
Source: the assertion `hi < divisor` of `primitives::widening_div` and `widening_div_portable`,
`fwnum/src/primitives.rs:22-25`, `:62-65`. -/
def divWideGuarded (divide : UInt64 → UInt64 → UInt64 → UInt64 × UInt64) (lo hi d : UInt64) :
    Except Fault (UInt64 × UInt64) :=
  if hi < d then .ok (divide lo hi d) else .error .quotientTooWide

/-- The native 128-by-64 division: the guard around a division instruction, here the exact
quotient and remainder that the instruction computes when they fit.
Source: `primitives::widening_div`, `fwnum/src/primitives.rs:21-52`. -/
def divWideChecked (lo hi d : UInt64) : Except Fault (UInt64 × UInt64) :=
  divWideGuarded divWide lo hi d

/-- **One step of restoring division.** The running remainder takes the next bit of `lo`;
when it reaches the divisor, or when the bit shifted out of it was set, the divisor is taken
off and the quotient gets a one. The pair is `(remainder, quotient)`.
Source: the loop body of `primitives::widening_div_portable`, `fwnum/src/primitives.rs:71-79`. -/
def restoreStep (lo d : UInt64) (bit : Nat) (rq : UInt64 × UInt64) : UInt64 × UInt64 :=
  let carried := rq.1 >>> 63 != 0
  let r := (rq.1 <<< 1) ||| ((lo >>> bit.toUInt64) &&& 1)
  let q := rq.2 <<< 1
  if carried || r ≥ d then (r - d, q ||| 1) else (r, q)

/-- The steps of restoring division for the bits `n - 1` down to `0` of `lo`.
Source: the loop `for bit in (0..u64::BITS).rev()` of `primitives::widening_div_portable`,
`fwnum/src/primitives.rs:70-80`. -/
def restoreBits (lo d : UInt64) : Nat → UInt64 × UInt64 → UInt64 × UInt64
  | 0, rq => rq
  | n + 1, rq => restoreBits lo d n (restoreStep lo d n rq)

/-- **Bitwise narrowing division.** Quotient and remainder of `lo + 2^64 · hi` by `d`,
computed one bit of `lo` at a time from the remainder `hi`.
Source: `primitives::widening_div_portable` past its assertion, `fwnum/src/primitives.rs:67-81`. -/
def divWideBitwise (lo hi d : UInt64) : UInt64 × UInt64 :=
  let rq := restoreBits lo d 64 (hi, 0)
  (rq.2, rq.1)

/-- The portable 128-by-64 division: the same guard around restoring division.
Source: `primitives::widening_div_portable`, `fwnum/src/primitives.rs:61-82`. -/
def divWideBitwiseChecked (lo hi d : UInt64) : Except Fault (UInt64 × UInt64) :=
  divWideGuarded divWideBitwise lo hi d

/-- The number of zero bits above the highest one bit: 64 for zero.
Source: `u64::leading_zeros`, as `algorithms::leading_zeros_words` calls it,
`fwnum/src/bigint/algorithms.rs:203-209`. -/
def leadingZeros (x : UInt64) : Nat :=
  64 - bitLength x.toNat

/-- The leading zeros of a word that must not be zero.
Source: `primitives::leading_zeros`, `fwnum/src/primitives.rs:86-89`. -/
def leadingZerosChecked (x : UInt64) : Except Fault Nat :=
  if x = 0 then .error .zeroWord else .ok (leadingZeros x)

/-- The number of zero bits below the lowest one bit: 64 for zero.
Source: `u64::trailing_zeros`, as `algorithms::trailing_zeros_words` calls it,
`fwnum/src/bigint/algorithms.rs:212-218`. -/
def trailingZeros (x : UInt64) : Nat :=
  lowZeros 64 x.toNat

/-- The number of one bits.
Source: `u64::count_ones`, as `U128::count_ones` calls it, `fwnum/src/bigint/uint128.rs:105-107`. -/
def countOnes (x : UInt64) : Nat :=
  onesIn 64 x.toNat

theorem join_lt (lo hi : UInt64) : join lo hi < wordSize * wordSize := by
  have := lo.toNat_lt
  have := hi.toNat_lt
  unfold join wordSize
  omega

@[simp, grind =]
theorem mulWide_join (x y : UInt64) :
    join (mulWide x y).1 (mulWide x y).2 = x.toNat * y.toNat := by
  have hx := x.toNat_lt
  have hy := y.toNat_lt
  have hp : x.toNat * y.toNat < wordSize * wordSize :=
    Nat.mul_lt_mul'' hx hy
  simp only [join, mulWide, UInt64.toNat_ofNat', wordSize] at *
  rw [Nat.mod_eq_of_lt (Nat.div_lt_of_lt_mul hp)]
  omega

end Word

end DoubleWord
