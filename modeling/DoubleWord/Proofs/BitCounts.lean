import Mathlib
import DoubleWord.Proofs.Bits
import DoubleWord.Proofs.RestoringDivision

/-!
# Bit counts of two-word numbers

Each count of a two-word value looks at one word and, when that word has nothing to say, at the
other: leading zeros start from the high word, trailing zeros from the low one, and the one bits
of both words are added. This module shows that each is the count of the whole number:

* the counts within a width (`onesIn`, `lowZeros`, the bit length) split over a number
  `a + 2^w · b` with `a < 2^w` into the counts of `a` and `b` (`onesIn_append`,
  `lowZeros_append`, `size_add_two_pow_mul`), which is what the word dispatch does;
* within a width the counts are the number theory of the number: the one bits are its
  `Nat.bitIndices`, the trailing zeros its power of two (`padicValNat 2`), and the bit length
  is `Nat.size`.

The logarithms are built from these counts: `ilog2` is the bit length less one, and
`ceilIlog2` adds one unless exactly one bit is set. Main statement: `bit_queries_exact`.
-/

set_option autoImplicit false

namespace DoubleWord

/-! ## Counts within a width -/

section Width

/-- The bit length is Mathlib's `Nat.size`: both are the exponent of the least power of two
above the number. -/
theorem bitLength_eq_size (n : Nat) : bitLength n = Nat.size n :=
  le_antisymm (bitLength_le_of_lt_two_pow (Nat.lt_size_self n))
    (Nat.size_le.2 (lt_two_pow_bitLength n))

/-- **Bit length across a boundary.** A number with a nonzero part `b` above `2 ^ w` has `w`
bits more than `b`. -/
theorem size_add_two_pow_mul {w a b : Nat} (ha : a < 2 ^ w) (hb : b ≠ 0) :
    Nat.size (a + 2 ^ w * b) = w + Nat.size b := by
  apply le_antisymm
  · rw [Nat.size_le]
    have hbsize : b + 1 ≤ 2 ^ Nat.size b := Nat.lt_size_self b
    calc a + 2 ^ w * b < 2 ^ w * (b + 1) := by rw [Nat.mul_add, Nat.mul_one]; omega
      _ ≤ 2 ^ w * 2 ^ Nat.size b := Nat.mul_le_mul_left _ hbsize
      _ = 2 ^ (w + Nat.size b) := (Nat.pow_add 2 w _).symm
  · -- the part above the boundary alone already has that many bits
    have hshift : Nat.size (2 ^ w * b) = w + Nat.size b := by
      rw [Nat.mul_comm, ← Nat.shiftLeft_eq_mul_pow, Nat.size_shiftLeft hb, Nat.add_comm]
    rw [← hshift]
    exact Nat.size_le_size (Nat.le_add_left _ _)

/-- The bits above the lowest of `a + 2^(w+1) · b` are those of `a / 2 + 2^w · b`. -/
private theorem half_add_two_pow_succ_mul (w a b : Nat) :
    (a + 2 ^ (w + 1) * b) / 2 = a / 2 + 2 ^ w * b ∧ (a + 2 ^ (w + 1) * b) % 2 = a % 2 := by
  rw [show 2 ^ (w + 1) * b = 2 * (2 ^ w * b) by rw [Nat.pow_succ]; ring]
  omega

/-- **One bits across a boundary:** those of the low part and those of the high part. The
induction is on the width of the low part, one bit at a time. -/
theorem onesIn_append (k : Nat) {w a : Nat} (ha : a < 2 ^ w) (b : Nat) :
    onesIn (w + k) (a + 2 ^ w * b) = onesIn w a + onesIn k b := by
  induction w generalizing a with
  | zero =>
    obtain rfl : a = 0 := by simpa using ha
    simp [onesIn]
  | succ w ih =>
    obtain ⟨hdiv, hmod⟩ := half_add_two_pow_succ_mul w a b
    have hhalf : a / 2 < 2 ^ w := by rw [Nat.pow_succ] at ha; omega
    rw [Nat.add_right_comm, onesIn, onesIn, hdiv, hmod, ih hhalf]
    omega

/-- **Trailing zeros across a boundary:** those of the low part, unless it is zero; then the
whole low width and the trailing zeros of the high part. -/
theorem lowZeros_append (k : Nat) {w a : Nat} (ha : a < 2 ^ w) (b : Nat) :
    lowZeros (w + k) (a + 2 ^ w * b) = if a = 0 then w + lowZeros k b else lowZeros w a := by
  induction w generalizing a with
  | zero =>
    obtain rfl : a = 0 := by simpa using ha
    simp
  | succ w ih =>
    obtain ⟨hdiv, hmod⟩ := half_add_two_pow_succ_mul w a b
    have hhalf : a / 2 < 2 ^ w := by rw [Nat.pow_succ] at ha; omega
    rw [Nat.add_right_comm, lowZeros, lowZeros, hdiv, hmod, ih hhalf]
    -- an odd low part has no trailing zero; an even one is zero exactly when its half is
    split_ifs <;> omega

/-- **Population count within a width:** the one bits of a number that fits are its bit
indices. -/
theorem onesIn_eq_length_bitIndices {w n : Nat} (h : n < 2 ^ w) :
    onesIn w n = n.bitIndices.length := by
  induction w generalizing n with
  | zero =>
    obtain rfl : n = 0 := by simpa using h
    rfl
  | succ w ih =>
    have hhalf : n / 2 < 2 ^ w := by rw [Nat.pow_succ] at h; omega
    rw [onesIn, ih hhalf]
    rcases Nat.mod_two_eq_zero_or_one n with heven | hodd
    · conv_rhs => rw [← Nat.div_add_mod n 2, heven, Nat.add_zero, Nat.bitIndices_two_mul]
      simp [heven]
    · conv_rhs => rw [← Nat.div_add_mod n 2, hodd, Nat.bitIndices_two_mul_add_one]
      simp [hodd, Nat.add_comm]

/-- A number has exactly one bit set exactly when it is a power of two. -/
theorem length_bitIndices_eq_one_iff (n : Nat) : n.bitIndices.length = 1 ↔ ∃ k, n = 2 ^ k := by
  constructor
  · intro h
    obtain ⟨k, hk⟩ := List.length_eq_one_iff.1 h
    refine ⟨k, ?_⟩
    -- a number is the sum of the powers of two at its bit indices
    rw [← Nat.sum_map_two_pow_bitIndices n, hk]
    simp
  · rintro ⟨k, rfl⟩
    rw [Nat.bitIndices_two_pow]
    rfl

/-- **Trailing zeros within a width:** the whole width for zero, and otherwise the power of two
in the number. The induction is on the width; an even nonzero number has one factor two more
than its half. -/
theorem lowZeros_eq {w n : Nat} (h : n < 2 ^ w) :
    lowZeros w n = if n = 0 then w else padicValNat 2 n := by
  induction w generalizing n with
  | zero =>
    obtain rfl : n = 0 := by simpa using h
    rfl
  | succ w ih =>
    have hhalf : n / 2 < 2 ^ w := by rw [Nat.pow_succ] at h; omega
    rw [lowZeros, ih hhalf]
    by_cases hodd : n % 2 = 1
    · have hn : n ≠ 0 := by omega
      rw [if_pos hodd, if_neg hn, padicValNat.eq_zero_of_not_dvd (by omega)]
    · rw [if_neg hodd]
      by_cases hn : n = 0
      · simp [hn]
      · have hn2 : n / 2 ≠ 0 := by omega
        have hsplit : n = 2 * (n / 2) := by omega
        rw [if_neg hn2, if_neg hn]
        conv_rhs => rw [hsplit, padicValNat.mul (by decide) hn2, padicValNat_self]
        omega

end Width

/-! ## A bit of a word -/

namespace Word

/-- Bit `s` of a word, read by shifting it down and masking the lowest bit. -/
theorem shiftRight_and_one_beq_one (w : UInt64) {s : Nat} (hs : s < 64) :
    ((w >>> s.toUInt64) &&& 1 == 1) = w.toNat.testBit s := by
  rw [Nat.testBit_eq_decide_div_mod_eq, ← toNat_shiftRight_and_one w hs, Bool.eq_iff_iff,
    beq_iff_eq, decide_eq_true_iff, ← UInt64.toNat_inj, UInt64.toNat_one]

end Word

/-! ## The counts of a two-word value -/

namespace U128

/-- The one bits of a value are the one bits of its number. -/
theorem countOnes_eq (x : U128) : x.countOnes = x.toNat.bitIndices.length := by
  rw [countOnes, Word.countOnes, Word.countOnes, ← onesIn_append 64 x.lo.toNat_lt,
    ← onesIn_eq_length_bitIndices (show x.toNat < 2 ^ (64 + 64) from toNat_lt x)]
  rfl

/-- The trailing zeros of a value: 128 for zero, and the power of two in its number otherwise. -/
theorem trailingZeros_eq (x : U128) :
    x.trailingZeros = if x.toNat = 0 then 128 else padicValNat 2 x.toNat := by
  have hsplit := lowZeros_append 64 x.lo.toNat_lt x.hi.toNat
  rw [← lowZeros_eq (toNat_lt x), toNat_eq, show wordSize = 2 ^ 64 from rfl, hsplit,
    trailingZeros]
  simp only [ne_eq, ← Word.toNat_eq_zero_iff, Word.trailingZeros]
  split_ifs <;> rfl

/-- The leading zeros of a value: 128 less the bit length of its number. -/
theorem leadingZeros_eq (x : U128) : x.leadingZeros = 128 - Nat.size x.toNat := by
  have hlo : Nat.size x.lo.toNat ≤ 64 := Nat.size_le.2 x.lo.toNat_lt
  have hhi : Nat.size x.hi.toNat ≤ 64 := Nat.size_le.2 x.hi.toNat_lt
  rw [leadingZeros, Word.leadingZeros, Word.leadingZeros, bitLength_eq_size, bitLength_eq_size]
  split_ifs with hhi0
  · rw [toNat_eq, show wordSize = 2 ^ 64 from rfl,
      size_add_two_pow_mul x.lo.toNat_lt (mt Word.toNat_eq_zero_iff.1 hhi0)]
    omega
  · rw [toNat_of_hi_eq_zero (not_not.1 hhi0)]
    omega

/-- Exactly one bit is set exactly when the number is a power of two, below `2^128`. -/
theorem isPowerOfTwo_iff (x : U128) : x.isPowerOfTwo = true ↔ ∃ k < 128, x.toNat = 2 ^ k := by
  rw [isPowerOfTwo, beq_iff_eq, countOnes_eq, length_bitIndices_eq_one_iff]
  constructor
  · rintro ⟨k, hk⟩
    have hlt : 2 ^ k < 2 ^ 128 := hk ▸ toNat_lt x
    exact ⟨k, (Nat.pow_lt_pow_iff_right (by decide)).1 hlt, hk⟩
  · rintro ⟨k, -, hk⟩
    exact ⟨k, hk⟩

/-- **The logarithm:** refused for zero, and otherwise the bit length less one. The count of
leading zeros of a nonzero value is below 128, so neither subtraction goes below zero. -/
theorem ilog2_eq (x : U128) :
    x.ilog2 = if x.toNat = 0 then .error .logOfZero else .ok (Nat.size x.toNat - 1) := by
  have hsize : Nat.size x.toNat ≤ 128 := Nat.size_le.2 (toNat_lt x)
  rw [ilog2, leadingZeros_eq]
  by_cases h0 : x.toNat = 0
  · rw [if_pos (isZero_iff.2 h0), if_pos h0]
  · have hpos : 0 < Nat.size x.toNat := Nat.size_pos.2 (Nat.pos_of_ne_zero h0)
    rw [if_neg (mt isZero_iff.1 h0), if_neg h0]
    congr 1
    omega

/-- The rounded-up logarithm of a nonzero value: the bit length less one for a power of two,
and the bit length otherwise. -/
theorem ceilIlog2_of_ne_zero {x : U128} (h0 : x.toNat ≠ 0) :
    x.ceilIlog2 = .ok (Nat.size x.toNat - 1 + if x.isPowerOfTwo then 0 else 1) := by
  rw [ceilIlog2, ilog2_eq, if_neg h0]
  rfl

/-- **The rounded-up logarithm is the least `k` with `X ≤ 2^k`.** A power of two `2^m` has
`m + 1` bits; any other nonzero number lies strictly between `2^(size - 1)` and `2^size`. -/
theorem isLeast_ceilIlog2 {x : U128} (h0 : x.toNat ≠ 0) :
    IsLeast {k | x.toNat ≤ 2 ^ k} (Nat.size x.toNat - 1 + if x.isPowerOfTwo then 0 else 1) := by
  by_cases hpow : x.isPowerOfTwo = true
  · obtain ⟨m, -, hm⟩ := (isPowerOfTwo_iff x).1 hpow
    rw [if_pos hpow, hm, Nat.size_pow, Nat.add_sub_cancel, Nat.add_zero]
    exact ⟨show 2 ^ m ≤ 2 ^ m from le_rfl, fun j hj => (Nat.pow_le_pow_iff_right (by decide)).1 hj⟩
  · have hsize : 0 < Nat.size x.toNat := Nat.size_pos.2 (Nat.pos_of_ne_zero h0)
    have hsize128 : Nat.size x.toNat ≤ 128 := Nat.size_le.2 (toNat_lt x)
    rw [if_neg hpow, Nat.sub_add_cancel hsize]
    refine ⟨(Nat.lt_size_self _).le, fun j hj => ?_⟩
    have hj' : x.toNat ≤ 2 ^ j := hj
    by_contra hlt
    -- below the bit length, `2^j ≤ X ≤ 2^j` would make `X` a power of two
    have hle : 2 ^ j ≤ x.toNat := Nat.lt_size.1 (by omega)
    exact hpow ((isPowerOfTwo_iff x).2 ⟨j, by omega, le_antisymm hj' hle⟩)

/-- **Bit `i`** of a value is bit `i` of its number, for `i < 128`; a larger index is refused. -/
theorem bit_eq (x : U128) (i : Nat) :
    x.bit i = if i < 128 then .ok (x.toNat.testBit i) else .error (.bitIndex i) := by
  -- bit `i` of `lo + 2^64 · hi` is a bit of the low word below 64 and of the high word above
  have hsplit : x.toNat.testBit i =
      if i < 64 then x.lo.toNat.testBit i else x.hi.toNat.testBit (i - 64) := by
    rw [toNat_eq, show wordSize = 2 ^ 64 from rfl, Nat.add_comm,
      Nat.testBit_two_pow_mul_add _ x.lo.toNat_lt]
  dsimp only [bit]
  split_ifs with hi hword
  · have hlow : i < 64 := by omega
    rw [hsplit, if_pos hlow, Word.shiftRight_and_one_beq_one _ (Nat.mod_lt _ (by decide)),
      Nat.mod_eq_of_lt hlow]
  · have hlow : ¬ i < 64 := by omega
    rw [hsplit, if_neg hlow, Word.shiftRight_and_one_beq_one _ (Nat.mod_lt _ (by decide)),
      show i % 64 = i - 64 by omega]
  · rfl

/-- **The bit queries of a two-word value are those of its number `X`.** The leading zeros are
`128` less the bit length of `X`; the trailing zeros are `128` for zero and the power of two in
`X` otherwise; the one bits are the bit indices of `X`; exactly one is set exactly when `X` is a
power of two below `2^128`. Both logarithms refuse exactly zero. For `X ≠ 0` the leading zeros
are below `128`, so `ilog2` answers the bit length less one, with `2^ilog2 ≤ X < 2^(ilog2+1)`,
and `ceilIlog2` the least `k` with `X ≤ 2^k`. Bit `i` is bit `i` of `X` below `128`, and a
larger index is refused with a message that names it. -/
theorem bit_queries_exact (x : U128) :
    x.leadingZeros = 128 - Nat.size x.toNat ∧
    x.trailingZeros = (if x.toNat = 0 then 128 else padicValNat 2 x.toNat) ∧
    x.countOnes = x.toNat.bitIndices.length ∧
    (x.isPowerOfTwo = true ↔ ∃ k < 128, x.toNat = 2 ^ k) ∧
    (x.ilog2 = .error .logOfZero ↔ x.toNat = 0) ∧
    (x.ceilIlog2 = .error .logOfZero ↔ x.toNat = 0) ∧
    (x.toNat ≠ 0 →
      x.leadingZeros < 128 ∧
      x.ilog2 = .ok (Nat.size x.toNat - 1) ∧
      2 ^ (Nat.size x.toNat - 1) ≤ x.toNat ∧ x.toNat < 2 ^ (Nat.size x.toNat - 1 + 1) ∧
      ∃ c, x.ceilIlog2 = .ok c ∧ IsLeast {k | x.toNat ≤ 2 ^ k} c) ∧
    (∀ i, x.bit i = if i < 128 then .ok (x.toNat.testBit i) else .error (.bitIndex i)) ∧
    (∀ i, (Fault.bitIndex i).message = "bit index " ++ toString i ++ " out of range") := by
  have hsize : Nat.size x.toNat ≤ 128 := Nat.size_le.2 (toNat_lt x)
  refine ⟨leadingZeros_eq x, trailingZeros_eq x, countOnes_eq x, isPowerOfTwo_iff x, ?_, ?_,
    fun h0 => ?_, bit_eq x, fun i => rfl⟩
  · rw [ilog2_eq]
    split_ifs with h0 <;> simp [h0]
  · by_cases h0 : x.toNat = 0
    · rw [ceilIlog2, ilog2_eq, if_pos h0]
      exact ⟨fun _ => h0, fun _ => rfl⟩
    · rw [ceilIlog2_of_ne_zero h0]
      simp [h0]
  · have hpos : 0 < Nat.size x.toNat := Nat.size_pos.2 (Nat.pos_of_ne_zero h0)
    refine ⟨by rw [leadingZeros_eq]; omega, by rw [ilog2_eq, if_neg h0], ?_, ?_,
      _, ceilIlog2_of_ne_zero h0, isLeast_ceilIlog2 h0⟩
    · exact Nat.lt_size.1 (by omega)
    · rw [Nat.sub_add_cancel hpos]
      exact Nat.lt_size_self _

/-- The word boundary: `2^64` has its one bit at index 64, so its logarithm is 64. -/
theorem bit_queries_exact_word_boundary :
    (ofNat (2 ^ 64)).toNat ≠ 0 ∧ (ofNat (2 ^ 64)).ilog2 = .ok (Nat.size (ofNat (2 ^ 64)).toNat - 1) :=
  have h0 : (ofNat (2 ^ 64)).toNat ≠ 0 := by rw [toNat_ofNat]; decide
  ⟨h0, ((bit_queries_exact (ofNat (2 ^ 64))).2.2.2.2.2.2.1 h0).2.1⟩

end U128

end DoubleWord
