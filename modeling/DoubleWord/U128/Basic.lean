import DoubleWord.Word

/-!
# Two-word numbers

`U128` is an unsigned number below `2^128` kept as a low and a high word. Its one view is
`toNat = lo + 2^64 · hi`; `ofNat` goes back, reducing modulo `2^128`. Order is decided word
by word, the high word first, and `<` and `≤` read it.

Main statements: `toNat_lt` (the view is below `2^128`), `toNat_ofNat` (reading back a number
reduces it), `ext_toNat` (two values with one view are equal).

Source: `U128` and its constants, `fwnum/src/bigint/uint128.rs:6-81`, and `algorithms::compare`,
`fwnum/src/bigint/algorithms.rs:15-17`.
-/

set_option autoImplicit false

namespace DoubleWord

/-- **A number below `2^128` as two words,** the low word first.
Source: `U128`, a `[u64; 2]` low word first, `fwnum/src/bigint/uint128.rs:6-17`. -/
structure U128 where
  /-- The low 64 bits. -/
  lo : UInt64
  /-- The high 64 bits. -/
  hi : UInt64
  deriving DecidableEq, Repr, Inhabited

/-- The modulus of two-word arithmetic, `2^128`. -/
abbrev modulus : Nat := 340282366920938463463374607431768211456

namespace U128

/-- The number a value stands for. -/
def toNat (x : U128) : Nat :=
  Word.join x.lo x.hi

/-- The value standing for `n` modulo `2^128`. -/
def ofNat (n : Nat) : U128 :=
  ⟨UInt64.ofNat n, UInt64.ofNat (n / wordSize)⟩

/-- A value from its low and high word.
Source: `U128::from_words`, `fwnum/src/bigint/uint128.rs:28-30`. -/
def ofWords (lo hi : UInt64) : U128 :=
  ⟨lo, hi⟩

/-- A word as a value. Source: `From<u64> for U128`, `fwnum/src/bigint/conversion.rs:46-57`. -/
def ofWord (w : UInt64) : U128 :=
  ⟨w, 0⟩

instance (n : Nat) : OfNat U128 n := ⟨ofNat n⟩

/-- Zero. Source: `U128::ZERO`, `fwnum/src/bigint/uint128.rs:23`. -/
def zero : U128 := ⟨0, 0⟩

/-- One. Source: `U128::ONE`, `fwnum/src/bigint/uint128.rs:24`. -/
def one : U128 := ⟨1, 0⟩

/-- Two. Source: `U128::TWO`, `fwnum/src/bigint/uint128.rs:25`. -/
def two : U128 := ⟨2, 0⟩

/-- The largest value, `2^128 - 1`: both words all ones.
Source: `U128::MAX`, `fwnum/src/bigint/uint128.rs:21`. -/
def max : U128 := ⟨UInt64.ofNat (Nat.pow 2 64 - 1), UInt64.ofNat (Nat.pow 2 64 - 1)⟩

/-- Whether the value is zero. Source: `U128::is_zero`, `fwnum/src/bigint/uint128.rs:79-81`. -/
def isZero (x : U128) : Bool :=
  x.lo == 0 && x.hi == 0

/-- **Order,** decided by the high words and, when they are equal, by the low words.
Source: `algorithms::compare`, `fwnum/src/bigint/algorithms.rs:15-17`. -/
def compare (a b : U128) : Ordering :=
  (Ord.compare a.hi b.hi).then (Ord.compare a.lo b.lo)

/-- Source: `Ord for U128`, `fwnum/src/bigint/uint128.rs:301-305`. -/
instance : Ord U128 := ⟨compare⟩

/-- `a < b` when the order says less.
Source: `PartialOrd for U128`, `fwnum/src/bigint/uint128.rs:307-311`. -/
instance : LT U128 := ltOfOrd

/-- `a ≤ b` when the order says less or equal.
Source: `PartialOrd for U128`, `fwnum/src/bigint/uint128.rs:307-311`. -/
instance : LE U128 := leOfOrd

/-- The decimal numeral of the value.
Source: `Display for U128` with no layout, `fwnum/src/bigint/text.rs:196-207`. -/
def toDecimal (x : U128) : String :=
  toString x.toNat

theorem toNat_lt (x : U128) : x.toNat < modulus := by
  have := Word.join_lt x.lo x.hi
  unfold toNat
  simp only [wordSize, modulus] at *
  omega

@[simp, grind =]
theorem toNat_ofNat (n : Nat) : (ofNat n).toNat = n % modulus := by
  simp only [ofNat, toNat, Word.join, UInt64.toNat_ofNat', wordSize, modulus]
  omega

@[simp, grind =]
theorem toNat_mk (lo hi : UInt64) : (U128.mk lo hi).toNat = lo.toNat + wordSize * hi.toNat :=
  rfl

theorem ext_toNat {a b : U128} (h : a.toNat = b.toNat) : a = b := by
  have ha := a.lo.toNat_lt
  have hb := b.lo.toNat_lt
  simp only [toNat, Word.join, wordSize] at h
  have hlo : a.lo.toNat = b.lo.toNat := by omega
  have hhi : a.hi.toNat = b.hi.toNat := by omega
  cases a
  cases b
  simp only [UInt64.toNat_inj] at hlo hhi
  simp [hlo, hhi]

theorem toNat_inj {a b : U128} : a.toNat = b.toNat ↔ a = b :=
  ⟨ext_toNat, fun h => h ▸ rfl⟩

@[simp, grind =]
theorem ofNat_toNat (x : U128) : ofNat x.toNat = x := by
  apply ext_toNat
  rw [toNat_ofNat, Nat.mod_eq_of_lt (toNat_lt x)]

@[simp, grind =]
theorem toNat_zero : zero.toNat = 0 := rfl

@[simp, grind =]
theorem toNat_one : one.toNat = 1 := rfl

@[simp, grind =]
theorem toNat_max : max.toNat = modulus - 1 := rfl

end U128

end DoubleWord
