import Mathlib
import DoubleWord.U128.Arith
import DoubleWord.Proofs.Word

/-!
# Two-word arithmetic as arithmetic modulo `2^128`

Each word-level algorithm of `U128.Arith` is characterised by what it does to the value
`toNat`:

* the order decided word by word, high word first, is the order of the values;
* a sum, a difference and a product are the exact ones reduced modulo `2^128`, for two values
  and for a value and a word;
* the complement is `2^128 - 1 - x`, and negation `2^128 - x` modulo `2^128`.

The proofs move every word to its `toNat`, where a wrapping word operation is a reduction
modulo `2^64`; what remains is linear arithmetic over the words and their products, which
`omega` closes once the products are named. These equations are the simp set the later
modules reason with: no proof after this one unfolds an arithmetic operation of `U128`.
-/

set_option autoImplicit false

namespace DoubleWord

namespace U128

theorem toNat_eq (x : U128) : x.toNat = x.lo.toNat + wordSize * x.hi.toNat := rfl

@[simp, grind =]
theorem toNat_ofWord (w : UInt64) : (ofWord w).toNat = w.toNat := by
  simp [ofWord]

theorem toNat_div_wordSize (x : U128) : x.toNat / wordSize = x.hi.toNat :=
  Word.join_div_wordSize x.lo x.hi

/-- A value with a zero high word is its low word. -/
theorem toNat_of_hi_eq_zero {a : U128} (h : a.hi = 0) : a.toNat = a.lo.toNat := by
  simp [toNat_eq, h]

/-- A value is zero exactly when both its words are. -/
theorem isZero_iff {x : U128} : x.isZero = true ↔ x.toNat = 0 := by
  simp only [isZero, Bool.and_eq_true, beq_iff_eq, toNat_eq, ← UInt64.toNat_inj,
    UInt64.toNat_zero, wordSize]
  omega

/-! ## Order -/

/-- Two pairs of numbers that `<` orders alike, both ways, compare alike. -/
private theorem compare_congr {a b c d : Nat} (hlt : a < b ↔ c < d) (hgt : b < a ↔ d < c) :
    Ord.compare a b = Ord.compare c d := by
  simp only [Nat.compare_eq_ite_lt, hlt, hgt]

/-- **Order is the order of the values.** Deciding by the high words, and by the low words
when those are equal, is comparing `lo + 2^64 · hi`. -/
theorem compare_eq_compare_toNat (a b : U128) : compare a b = Ord.compare a.toNat b.toNat := by
  have hal := a.lo.toNat_lt
  have hbl := b.lo.toNat_lt
  rw [U128.compare, UInt64.compare_eq_toNat_compare_toNat, UInt64.compare_eq_toNat_compare_toNat]
  simp only [toNat_eq, wordSize] at *
  rcases Nat.lt_trichotomy a.hi.toNat b.hi.toNat with hhi | hhi | hhi
  · rw [Nat.compare_eq_lt.2 hhi, Ordering.lt_then, eq_comm, Nat.compare_eq_lt]
    omega
  · -- equal high words leave the decision to the low words
    rw [Nat.compare_eq_eq.2 hhi, Ordering.eq_then]
    exact compare_congr (by omega) (by omega)
  · rw [Nat.compare_eq_gt.2 hhi, Ordering.gt_then, eq_comm, Nat.compare_eq_gt]
    omega

theorem compare_eq_lt_iff {a b : U128} : compare a b = .lt ↔ a.toNat < b.toNat := by
  rw [compare_eq_compare_toNat, Nat.compare_eq_lt]

theorem compare_ne_lt_iff {a b : U128} : compare a b ≠ .lt ↔ b.toNat ≤ a.toNat := by
  rw [compare_eq_compare_toNat, Nat.compare_ne_lt]

/-! ## Sums and differences -/

/-- **The sum wraps modulo `2^128`.** The carry out of the low words is read off the wrapped
low word, and what passes `2^64` in the high words is dropped. -/
@[simp, grind =]
theorem toNat_add (a b : U128) : (a + b).toNat = (a.toNat + b.toNat) % modulus := by
  have hal := a.lo.toNat_lt
  have hbl := b.lo.toNat_lt
  have hah := a.hi.toNat_lt
  have hbh := b.hi.toNat_lt
  show (overflowingAdd a b).1.toNat = _
  simp only [overflowingAdd, Word.addFlag, toNat_eq, UInt64.toNat_add, UInt64.lt_iff_toNat_lt]
  split <;> simp_all [wordSize, modulus] <;> omega

/-- **The difference wraps modulo `2^128`:** it is `a + (2^128 - b)` reduced. -/
@[simp, grind =]
theorem toNat_sub (a b : U128) : (a - b).toNat = (a.toNat + (modulus - b.toNat)) % modulus := by
  have hal := a.lo.toNat_lt
  have hbl := b.lo.toNat_lt
  have hah := a.hi.toNat_lt
  have hbh := b.hi.toNat_lt
  show (overflowingSub a b).1.toNat = _
  simp only [overflowingSub, Word.subFlag, toNat_eq, UInt64.toNat_sub, UInt64.lt_iff_toNat_lt,
    gt_iff_lt]
  split <;> simp_all [wordSize, modulus] <;> omega

/-- A difference that does not go below zero is exact. -/
theorem toNat_sub_of_le {a b : U128} (h : b.toNat ≤ a.toNat) :
    (a - b).toNat = a.toNat - b.toNat := by
  have ha := toNat_lt a
  rw [toNat_sub]
  simp only [modulus] at *
  omega

/-- The difference modulo `2^128`, as the integer difference reduced. -/
theorem toNat_sub_emod (a b : U128) :
    ((a - b).toNat : ℤ) = ((a.toNat : ℤ) - b.toNat) % (modulus : ℤ) := by
  have ha := toNat_lt a
  have hb := toNat_lt b
  rw [toNat_sub]
  simp only [modulus] at *
  omega

@[simp, grind =]
theorem toNat_addWord (a : U128) (w : UInt64) :
    (a.addWord w).toNat = (a.toNat + w.toNat) % modulus := by
  have hal := a.lo.toNat_lt
  have hah := a.hi.toNat_lt
  have hw := w.toNat_lt
  simp only [addWord, toNat_eq, UInt64.toNat_add, UInt64.lt_iff_toNat_lt]
  split <;> simp_all [wordSize, modulus] <;> omega

@[simp, grind =]
theorem toNat_subWord (a : U128) (w : UInt64) :
    (a.subWord w).toNat = (a.toNat + (modulus - w.toNat)) % modulus := by
  have hal := a.lo.toNat_lt
  have hah := a.hi.toNat_lt
  have hw := w.toNat_lt
  simp only [subWord, toNat_eq, UInt64.toNat_sub, UInt64.lt_iff_toNat_lt, gt_iff_lt]
  split <;> simp_all [wordSize, modulus] <;> omega

/-! ## Complement and negation -/

/-- Inverting every bit of both words takes a value to `2^128 - 1` minus it. -/
@[simp, grind =]
theorem toNat_complement (x : U128) : (~~~x).toNat = modulus - 1 - x.toNat := by
  have hlo := x.lo.toNat_lt
  have hhi := x.hi.toNat_lt
  show (complement x).toNat = _
  simp only [complement, UInt64.toNat_not, toNat_eq, UInt64.size, wordSize, modulus]
  omega

/-- **Negation is `2^128 - x` modulo `2^128`:** one more than the complement, where zero wraps
back to zero. -/
@[simp, grind =]
theorem toNat_neg (x : U128) : (-x).toNat = (modulus - x.toNat) % modulus := by
  have hx := toNat_lt x
  show ((~~~x).addWord 1).toNat = _
  rw [toNat_addWord, toNat_complement, UInt64.toNat_one]
  simp only [modulus] at *
  omega

/-! ## Products

A product of two values is `lo·lo' + 2^64 (lo·hi' + hi·lo') + 2^128 hi·hi'`. The last term is a
multiple of the modulus, the middle one matters only modulo `2^64`, and the first is the
widening product of the low words: so the truncated schoolbook product keeps exactly the
value modulo `2^128`. -/

/-- **The product wraps modulo `2^128`.** -/
@[simp, grind =]
theorem toNat_mul (a b : U128) : (a * b).toNat = a.toNat * b.toNat % modulus := by
  have hlo := (Word.mulWide a.lo b.lo).1.toNat_lt
  have hjoin := Word.mulWide_join a.lo b.lo
  have hexp : a.toNat * b.toNat = a.lo.toNat * b.lo.toNat +
      wordSize * (a.lo.toNat * b.hi.toNat + a.hi.toNat * b.lo.toNat) +
      wordSize * wordSize * (a.hi.toNat * b.hi.toNat) := by
    simp only [toNat_eq]
    ring
  rw [hexp]
  show (mul a b).toNat = _
  simp only [Word.join] at hjoin
  simp only [mul, toNat_mk, UInt64.toNat_add, UInt64.toNat_mul, Nat.reducePow]
  simp only [wordSize, modulus] at *
  omega

@[simp, grind =]
theorem toNat_mulWord (a : U128) (w : UInt64) :
    (a.mulWord w).toNat = a.toNat * w.toNat % modulus := by
  have hlo := (Word.mulWide a.lo w).1.toNat_lt
  have hjoin := Word.mulWide_join a.lo w
  have hexp : a.toNat * w.toNat = a.lo.toNat * w.toNat + wordSize * (a.hi.toNat * w.toNat) := by
    simp only [toNat_eq]
    ring
  rw [hexp]
  simp only [Word.join] at hjoin
  simp only [mulWord, toNat_mk, UInt64.toNat_add, UInt64.toNat_mul, Nat.reducePow]
  simp only [wordSize, modulus] at *
  omega

end U128

end DoubleWord
