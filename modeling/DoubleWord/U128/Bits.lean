import DoubleWord.U128.Arith

/-!
# Shifts and bits of two-word numbers

Shifts take their amount modulo 128. An amount of 64 or more moves a whole word and shifts it
by the rest; a smaller nonzero amount moves the bits that leave one word into the other; so no
word is ever shifted by 64 or more. The shifts are written once over the word shifts they use:
those of `UInt64`, which take their amount modulo 64, compute them, and the native ones that
stop at 64 places (`Word.shlChecked`) state that no such amount is reached.

The zero counts look at the high word first (leading) or the low word first (trailing), and
both are 128 for zero. The integer logarithm refuses zero.

Source: `algorithms::shl_assign`, `shr_assign` and the zero counts,
`fwnum/src/bigint/algorithms.rs:144-218`, and the bit queries of `U128`,
`fwnum/src/bigint/uint128.rs:58-124`.
-/

set_option autoImplicit false

namespace DoubleWord

namespace U128

/-- **Left shift modulo `2^128`** by `n mod 128` places, over the word shifts `up` and `down`.
An amount of 64 or more moves the low word up and shifts it by the rest; a smaller nonzero one
shifts both words up, and the bits that leave the low word, shifted down the complementary
way, enter the high one.
Source: `algorithms::shl_assign`, `fwnum/src/bigint/algorithms.rs:144-156`. -/
def shlWith {m : Type → Type} [Monad m] (up down : UInt64 → Nat → m UInt64) (x : U128)
    (n : Nat) : m U128 :=
  let s := n % 128
  if s ≥ 64 then do
    let hi ← up x.lo (s - 64)
    return ⟨0, hi⟩
  else if s > 0 then do
    let hi ← up x.hi s
    let carry ← down x.lo (64 - s)
    let lo ← up x.lo s
    return ⟨lo, hi ||| carry⟩
  else pure x

/-- **Right shift** by `n mod 128` places over the word shifts `up` and `down`, the mirror image
of `shlWith`. Source: `algorithms::shr_assign`, `fwnum/src/bigint/algorithms.rs:158-169`. -/
def shrWith {m : Type → Type} [Monad m] (up down : UInt64 → Nat → m UInt64) (x : U128)
    (n : Nat) : m U128 :=
  let s := n % 128
  if s ≥ 64 then do
    let lo ← down x.hi (s - 64)
    return ⟨lo, 0⟩
  else if s > 0 then do
    let lo ← down x.lo s
    let carry ← up x.hi (64 - s)
    let hi ← down x.hi s
    return ⟨lo ||| carry, hi⟩
  else pure x

/-- The left word shift of `UInt64`, its amount taken modulo 64. -/
def wordShl (w : UInt64) (k : Nat) : Id UInt64 := pure (w <<< k.toUInt64)

/-- The right word shift of `UInt64`, its amount taken modulo 64. -/
def wordShr (w : UInt64) (k : Nat) : Id UInt64 := pure (w >>> k.toUInt64)

/-- **Left shift modulo `2^128`** by `n mod 128` places, with the word shifts of `UInt64`.
Source: `U128::wrapping_shl` and `ShlAssign for U128`, `fwnum/src/bigint/uint128.rs:182-187`,
`:462-478`. -/
def shl (x : U128) (n : Nat) : U128 :=
  Id.run (x.shlWith wordShl wordShr n)

/-- **Right shift** by `n mod 128` places, with the word shifts of `UInt64`.
Source: `U128::wrapping_shr` and `ShrAssign for U128`, `fwnum/src/bigint/uint128.rs:189-194`,
`:468-484`. -/
def shr (x : U128) (n : Nat) : U128 :=
  Id.run (x.shrWith wordShl wordShr n)

theorem shl_eq (x : U128) (n : Nat) :
    x.shl n =
      if n % 128 ≥ 64 then ⟨0, x.lo <<< (n % 128 - 64).toUInt64⟩
      else if n % 128 > 0 then
        ⟨x.lo <<< (n % 128).toUInt64,
          (x.hi <<< (n % 128).toUInt64) ||| (x.lo >>> (64 - n % 128).toUInt64)⟩
      else x := rfl

theorem shr_eq (x : U128) (n : Nat) :
    x.shr n =
      if n % 128 ≥ 64 then ⟨x.hi >>> (n % 128 - 64).toUInt64, 0⟩
      else if n % 128 > 0 then
        ⟨(x.lo >>> (n % 128).toUInt64) ||| (x.hi <<< (64 - n % 128).toUInt64),
          x.hi >>> (n % 128).toUInt64⟩
      else x := rfl

/-- The number of zero bits above the highest one bit; 128 for zero.
Source: `algorithms::leading_zeros_words`, `fwnum/src/bigint/algorithms.rs:202-209`. -/
def leadingZeros (x : U128) : Nat :=
  if x.hi ≠ 0 then Word.leadingZeros x.hi else 64 + Word.leadingZeros x.lo

/-- The number of zero bits below the lowest one bit; 128 for zero.
Source: `algorithms::trailing_zeros_words`, `fwnum/src/bigint/algorithms.rs:211-218`. -/
def trailingZeros (x : U128) : Nat :=
  if x.lo ≠ 0 then Word.trailingZeros x.lo else 64 + Word.trailingZeros x.hi

/-- The number of one bits. Source: `U128::count_ones`, `fwnum/src/bigint/uint128.rs:104-107`. -/
def countOnes (x : U128) : Nat :=
  Word.countOnes x.lo + Word.countOnes x.hi

/-- Whether exactly one bit is set.
Source: `U128::is_power_of_two`, `fwnum/src/bigint/uint128.rs:109-111`. -/
def isPowerOfTwo (x : U128) : Bool :=
  x.countOnes == 1

/-- **Integer logarithm,** the index of the highest one bit; zero has none.
Source: `U128::ilog2`, `fwnum/src/bigint/uint128.rs:113-120`. -/
def ilog2 (x : U128) : Except Fault Nat :=
  if x.isZero then .error .logOfZero else .ok (128 - x.leadingZeros - 1)

/-- The least `k` with `x ≤ 2^k`; zero is refused as in `ilog2`.
Source: `U128::ceil_ilog2`, `fwnum/src/bigint/uint128.rs:122-124`. -/
def ceilIlog2 (x : U128) : Except Fault Nat := do
  let k ← x.ilog2
  return k + if x.isPowerOfTwo then 0 else 1

/-- **Bit `i`,** for `i < 128`. Source: `U128::bit`, `fwnum/src/bigint/uint128.rs:83-92`. -/
def bit (x : U128) (i : Nat) : Except Fault Bool :=
  if i < 128 then
    let w := if i / 64 = 0 then x.lo else x.hi
    .ok ((w >>> (i % 64).toUInt64) &&& 1 == 1)
  else .error (.bitIndex i)

/-- Whether the value is not zero.
Source: `U128::to_bool`, `fwnum/src/bigint/conversion.rs:39-43`. -/
def toBool (x : U128) : Bool :=
  !x.isZero

/-- **Word `i`,** 0 for the low and 1 for the high word.
Source: `U128::get`, `fwnum/src/bigint/uint128.rs:58-66`. -/
def getWord (x : U128) (i : Nat) : Except Fault UInt64 :=
  match i with
  | 0 => .ok x.lo
  | 1 => .ok x.hi
  | _ => .error (.wordIndex i)

/-- **The value with word `i` replaced,** 0 for the low and 1 for the high word.
Source: `U128::set`, `fwnum/src/bigint/uint128.rs:68-76`. -/
def setWord (x : U128) (i : Nat) (w : UInt64) : Except Fault U128 :=
  match i with
  | 0 => .ok { x with lo := w }
  | 1 => .ok { x with hi := w }
  | _ => .error (.wordIndex i)

end U128

end DoubleWord
