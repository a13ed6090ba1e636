import Mathlib
import DoubleWord.Word

/-!
# Words as numbers

What the two-word algorithms need to know about a single word, said about its value
`toNat`:

* `bitLength` is the exponent of the least power of two above a number, and it is monotone;
  so a word's leading zeros are `64 - bitLength`, and the checked count answers for every
  nonzero word.
* `join_div_lt`: a two-word number whose high word is below `d` has a quotient by `d` that
  fits in a word. This is the whole contract of the 128-by-64 division: below that bound the
  checked division answers, and its two words are the exact quotient and remainder.
* `join_mod_square`: reducing `lo + 2^64 · h` modulo `2^128` reduces only the high part, the
  identity every wrapping two-word operation ends with.
-/

set_option autoImplicit false

namespace DoubleWord

/-! ## Bit length -/

theorem lt_two_pow_bitLength (n : Nat) : n < 2 ^ bitLength n := by
  unfold bitLength
  split
  · simp_all
  · exact Nat.lt_log2_self

/-- The highest bit of a nonzero number is set: it is at least `2 ^ (bitLength n - 1)`. -/
theorem two_pow_pred_bitLength_le {n : Nat} (h : n ≠ 0) : 2 ^ (bitLength n - 1) ≤ n := by
  simp only [bitLength, if_neg h, Nat.add_sub_cancel]
  exact Nat.log2_self_le h

theorem bitLength_le_of_lt_two_pow {n k : Nat} (h : n < 2 ^ k) : bitLength n ≤ k := by
  unfold bitLength
  split
  · omega
  · exact (Nat.log2_lt ‹_›).2 h

theorem bitLength_mono {m n : Nat} (h : m ≤ n) : bitLength m ≤ bitLength n :=
  bitLength_le_of_lt_two_pow (Nat.lt_of_le_of_lt h (lt_two_pow_bitLength n))

theorem bitLength_pos {n : Nat} (h : n ≠ 0) : 0 < bitLength n := by
  simp [bitLength, h]

/-- A multiple of `2 ^ k` and a number below `2 ^ k` have no bit in common: their `|||` is their
sum. -/
theorem mul_two_pow_or {a b k : Nat} (h : b < 2 ^ k) : a * 2 ^ k ||| b = a * 2 ^ k + b := by
  rw [← Nat.shiftLeft_eq, Nat.shiftLeft_add_eq_or_of_lt h]

namespace Word

/-- A word is zero exactly when its value is. -/
theorem toNat_eq_zero_iff {w : UInt64} : w.toNat = 0 ↔ w = 0 := by
  rw [← UInt64.toNat_zero, UInt64.toNat_inj]

/-! ## Leading zeros -/

theorem bitLength_toNat_le (x : UInt64) : bitLength x.toNat ≤ 64 :=
  bitLength_le_of_lt_two_pow x.toNat_lt

/-- The leading zeros and the bit length of a word fill it. -/
theorem leadingZeros_add_bitLength (x : UInt64) : leadingZeros x + bitLength x.toNat = 64 := by
  have := bitLength_toNat_le x
  unfold leadingZeros
  omega

/-- **The checked count answers for every nonzero word.** -/
theorem leadingZerosChecked_of_ne_zero {x : UInt64} (h : x ≠ 0) :
    leadingZerosChecked x = .ok (leadingZeros x) := by
  simp [leadingZerosChecked, h]

/-! ## Doubling a word -/

/-- **Doubling a word below `2^63` drops no bit.** -/
theorem toNat_shiftLeft_one {q : UInt64} (h : q.toNat < 2 ^ 63) :
    (q <<< 1).toNat = 2 * q.toNat := by
  rw [UInt64.toNat_shiftLeft, UInt64.toNat_one, Nat.shiftLeft_eq, Nat.one_mod, Nat.pow_one]
  omega

/-- Doubling a word below `2^63` and setting the new low bit adds one to the double. -/
theorem toNat_shiftLeft_one_or_one {q : UInt64} (h : q.toNat < 2 ^ 63) :
    (q <<< 1 ||| 1).toNat = 2 * q.toNat + 1 := by
  have hbit : (1 : Nat) < 2 ^ 1 := by decide
  rw [UInt64.toNat_or, toNat_shiftLeft_one h, UInt64.toNat_one, Nat.mul_comm,
    ← Nat.pow_one 2, mul_two_pow_or hbit, Nat.pow_one]

/-! ## Two words as one number -/

theorem join_eq (lo hi : UInt64) : join lo hi = lo.toNat + wordSize * hi.toNat := rfl

theorem join_div_wordSize (lo hi : UInt64) : join lo hi / wordSize = hi.toNat := by
  have := lo.toNat_lt
  rw [join_eq, Nat.add_mul_div_left _ _ (by decide), Nat.div_eq_of_lt (by simpa using this),
    Nat.zero_add]

/-- **Reducing modulo `2^128` reduces the high part only.** A low part below `2^64` keeps its
place, and the high part is taken modulo `2^64`. -/
theorem join_mod_square {lo : Nat} (h : lo < wordSize) (hi : Nat) :
    (lo + wordSize * hi) % (wordSize * wordSize) = lo + wordSize * (hi % wordSize) := by
  rw [Nat.mod_mul, Nat.add_mul_mod_self_left, Nat.mod_eq_of_lt h,
    Nat.add_mul_div_left _ _ (by decide), Nat.div_eq_of_lt h, Nat.zero_add]

/-! ## The 128-by-64 division -/

/-- **A quotient that fits.** When the high word is below the divisor, the two-word number is
below `2^64 · d`, so its quotient by `d` is below `2^64`. -/
theorem join_div_lt (lo : UInt64) {hi d : UInt64} (h : hi < d) :
    join lo hi / d.toNat < wordSize := by
  have hlo := lo.toNat_lt
  have hhd : hi.toNat + 1 ≤ d.toNat := UInt64.lt_iff_toNat_lt.1 h
  apply Nat.div_lt_of_lt_mul
  calc join lo hi = lo.toNat + wordSize * hi.toNat := rfl
    _ < wordSize * (hi.toNat + 1) := by simp only [wordSize] at hlo ⊢; omega
    _ ≤ wordSize * d.toNat := Nat.mul_le_mul_left _ hhd
    _ = d.toNat * wordSize := Nat.mul_comm _ _

/-- **The 128-by-64 division is exact where it is defined:** its words are the quotient and
the remainder of the two-word number. -/
theorem toNat_divWide {lo hi d : UInt64} (h : hi < d) :
    (divWide lo hi d).1.toNat = join lo hi / d.toNat ∧
      (divWide lo hi d).2.toNat = join lo hi % d.toNat := by
  have hq := join_div_lt lo h
  have hd : 0 < d.toNat := Nat.lt_of_le_of_lt (Nat.zero_le _) (UInt64.lt_iff_toNat_lt.1 h)
  have hr : join lo hi % d.toNat < 2 ^ 64 :=
    Nat.lt_trans (Nat.mod_lt _ hd) d.toNat_lt
  simp only [divWide, UInt64.toNat_ofNat']
  exact ⟨Nat.mod_eq_of_lt hq, Nat.mod_eq_of_lt hr⟩

/-- Below its bound the checked division answers. -/
theorem divWideChecked_of_lt {lo hi d : UInt64} (h : hi < d) :
    divWideChecked lo hi d = .ok (divWide lo hi d) := by
  simp [divWideChecked, divWideGuarded, h]

end Word

end DoubleWord
