import DoubleWord.U128.Bits

/-!
# Division of two-word numbers

A divisor whose high word is zero is a single word `d`: the high word is divided first, and its
remainder, being below `d`, leaves a 128-by-64 division whose quotient fits in a word.

A divisor with a nonzero high word leaves a quotient below `2^64`, found by binary long
division: the divisor is shifted left until its highest bit meets the dividend's, then taken
off the remainder wherever it fits, one quotient bit per place, while it is shifted back.

Only a zero divisor stops a division. The other checks on the way (the 128-by-64 division's
bound on its high word, the long division's nonzero divisor word, the leading zeros of a
nonzero word, and the shift distance that must not go below zero) are made as the division
makes them.

Source: `algorithms::div_rem_word`, `div_rem_long` and `div_rem`,
`fwnum/src/bigint/algorithms.rs:79-142`, and the division operators of
`fwnum/src/bigint/uint128.rs`.
-/

set_option autoImplicit false

namespace DoubleWord

namespace U128

/-- **Division by a word,** quotient and remainder. The first division is of the high word
alone; the second, of the low word under the first remainder, has a quotient that fits.
Source: `algorithms::div_rem_word` past its zero check, `fwnum/src/bigint/algorithms.rs:92-95`. -/
def divModWord (a : U128) (d : UInt64) : U128 × UInt64 :=
  let (qLo, r) := Word.divWide a.lo (a.hi % d) d
  (⟨qLo, a.hi / d⟩, r)

/-- `divModWord` as the division makes it: a zero divisor is refused, and the second division
goes through the checked 128-by-64 division.
Source: `algorithms::div_rem_word`, `fwnum/src/bigint/algorithms.rs:79-96`. -/
def divRemWord (a : U128) (d : UInt64) : Except Fault (U128 × UInt64) :=
  if d = 0 then .error .divideByZero
  else do
    let (qLo, r) ← Word.divWideChecked a.lo (a.hi % d) d
    return (⟨qLo, a.hi / d⟩, r)

/-- The steps of long division: `n` quotient bits, each comparing the remainder with the
shifted divisor, taking it off where it fits, then halving the shifted divisor.
Source: the loop `for _ in 0..=shift` of `algorithms::div_rem_long`,
`fwnum/src/bigint/algorithms.rs:115-123`. -/
def longSteps : Nat → U128 → U128 → UInt64 → UInt64 × U128
  | 0, r, _, q => (q, r)
  | n + 1, r, s, q =>
    let q := q <<< 1
    if compare r s ≠ .lt then longSteps n (r - s) (s.shr 1) (q ||| 1)
    else longSteps n r (s.shr 1) q

/-- **Long division by a divisor with a nonzero high word.** The quotient is a single word. A
dividend below the divisor is its own remainder; otherwise the divisor is aligned with the
dividend's highest bit and `shift + 1` quotient bits are found. The leading zeros are counted
by the checked count, and a shift below zero is refused as a native subtraction refuses it.
Source: `algorithms::div_rem_long`, `fwnum/src/bigint/algorithms.rs:98-126`. -/
def divModLong (a b : U128) : Except Fault (UInt64 × U128) :=
  if b.hi = 0 then .error .narrowDivisor
  else if compare a b = .lt then .ok (0, a)
  else do
    let zb ← Word.leadingZerosChecked b.hi
    let za ← Word.leadingZerosChecked a.hi
    if zb < za then .error .subOverflow
    else
      let shift := zb - za
      return longSteps (shift + 1) a (b.shl shift) 0

/-- **Quotient and remainder,** by a single word when the divisor's high word is zero and by
long division otherwise. A zero divisor is refused.
Source: `algorithms::div_rem` and `U128::div_rem`, `fwnum/src/bigint/algorithms.rs:128-142`,
`fwnum/src/bigint/uint128.rs:224-233`. -/
def divRem (a b : U128) : Except Fault (U128 × U128) :=
  if b.hi = 0 then do
    let (q, r) ← divRemWord a b.lo
    return (q, ofWord r)
  else do
    let (q, r) ← divModLong a b
    return (ofWord q, r)

/-- The quotient; a zero divisor is refused.
Source: `DivAssign<Self> for U128`, `fwnum/src/bigint/uint128.rs:349-353`. -/
def div (a b : U128) : Except Fault U128 :=
  (divRem a b).map Prod.fst

/-- The remainder; a zero divisor is refused.
Source: `RemAssign<Self> for U128`, `fwnum/src/bigint/uint128.rs:361-365`. -/
def rem (a b : U128) : Except Fault U128 :=
  (divRem a b).map Prod.snd

/-- The quotient, or nothing for a zero divisor.
Source: `U128::checked_div`, `fwnum/src/bigint/uint128.rs:235-238`. -/
def checkedDiv (a b : U128) : Option U128 :=
  if b.isZero then none else (div a b).toOption

/-- The remainder, or nothing for a zero divisor.
Source: `U128::checked_rem`, `fwnum/src/bigint/uint128.rs:240-243`. -/
def checkedRem (a b : U128) : Option U128 :=
  if b.isZero then none else (rem a b).toOption

/-- The quotient by a word; a zero word is refused.
Source: `DivAssign<u64> for U128`, `fwnum/src/bigint/uint128.rs:355-359`. -/
def divWord (a : U128) (w : UInt64) : Except Fault U128 :=
  (divRemWord a w).map Prod.fst

/-- The remainder by a word, as a word; a zero word is refused.
Source: `Rem<u64> for U128`, `fwnum/src/bigint/uint128.rs:405-411`. -/
def remWord (a : U128) (w : UInt64) : Except Fault UInt64 :=
  (divRemWord a w).map Prod.snd

end U128

/-! ## A word on the left -/

namespace Word

/-- `w + a` modulo `2^128`. Source: `Add<U128> for u64`, `fwnum/src/bigint/uint128.rs:413-419`. -/
def addU128 (w : UInt64) (a : U128) : U128 :=
  a.addWord w

/-- `w - a` modulo `2^128`. Source: `Sub<U128> for u64`, `fwnum/src/bigint/uint128.rs:421-427`. -/
def subU128 (w : UInt64) (a : U128) : U128 :=
  U128.ofWord w - a

/-- `w · a` modulo `2^128`. Source: `Mul<U128> for u64`, `fwnum/src/bigint/uint128.rs:429-435`. -/
def mulU128 (w : UInt64) (a : U128) : U128 :=
  a.mulWord w

/-- **A word divided by a two-word value,** as a word: zero when the divisor has a high word,
the word quotient otherwise; a zero divisor is refused.
Source: `Div<U128> for u64`, `fwnum/src/bigint/uint128.rs:437-448`. -/
def divU128 (w : UInt64) (a : U128) : Except Fault UInt64 :=
  if a.hi ≠ 0 then .ok 0
  else if a.lo = 0 then .error .divideByZero
  else .ok (w / a.lo)

/-- **A word modulo a two-word value,** as a word: the word itself when the divisor has a high
word, the word remainder otherwise; a zero divisor is refused.
Source: `Rem<U128> for u64`, `fwnum/src/bigint/uint128.rs:450-460`. -/
def remU128 (w : UInt64) (a : U128) : Except Fault UInt64 :=
  if a.hi ≠ 0 then .ok w
  else if a.lo = 0 then .error .remainderByZero
  else .ok (w % a.lo)

end Word

end DoubleWord
