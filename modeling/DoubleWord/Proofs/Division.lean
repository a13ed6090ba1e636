import Mathlib
import DoubleWord.U128.Steps
import DoubleWord.Proofs.Bits

/-!
# Division of two-word numbers is exact

For every dividend `a` and divisor `b`, `U128.divRem a b` refuses a zero divisor with a
division by zero and otherwise answers `⌊A / B⌋` and `A mod B`, where `A` and `B` are the
values. No other check on the way can fail. Both algorithms are proved.

* **By a word** (`divModWord`). The high word is divided first; its remainder is below the
  divisor, so the 128-by-64 division of the low word under it has a quotient that fits and its
  check passes (`hi_mod_lt`).
* **By long division** (`divModLong`), for a divisor whose high word is nonzero. A dividend at
  least the divisor has a high word at least the divisor's (`hi_le_of_le`): so that word is
  nonzero, both checked leading-zero counts answer, and the shift distance between them does
  not go below zero. Shifting the divisor by that distance aligns its top bit with the
  dividend's (`align_bounds`): the shifted divisor keeps all its bits and is more than half the
  dividend. That is the invariant `LongState`: each step of the loop finds one quotient bit
  and keeps the remainder below twice the shifted divisor (`LongState.step`), and the quotient
  word, below `2^63` before each doubling, never drops a bit.

`division_exact_unless_zero` assembles the two paths into the answer of every division
operator: the quotient, the remainder, their checked forms and the updates in place.
-/

set_option autoImplicit false

namespace DoubleWord

namespace U128

private theorem toNat_pos_of_ne_zero {d : UInt64} (h : d ≠ 0) : 0 < d.toNat :=
  Nat.pos_of_ne_zero (mt Word.toNat_eq_zero_iff.1 h)

/-! ## Division by a word -/

/-- The high word's remainder is below the divisor: the second division's check passes. -/
theorem hi_mod_lt {d : UInt64} (hd : d ≠ 0) (hi : UInt64) : hi % d < d := by
  rw [UInt64.lt_iff_toNat_lt, UInt64.toNat_mod]
  exact Nat.mod_lt _ (toNat_pos_of_ne_zero hd)

/-- **Division by a word is exact.** The quotient of the high word, in the high place, plus the
quotient of what is left under the high word's remainder, is the quotient of the value. -/
theorem toNat_divModWord {d : UInt64} (hd : d ≠ 0) (a : U128) :
    (divModWord a d).1.toNat = a.toNat / d.toNat ∧
      (divModWord a d).2.toNat = a.toNat % d.toNat := by
  have hpos := toNat_pos_of_ne_zero hd
  obtain ⟨hq, hr⟩ := @Word.toNat_divWide a.lo _ _ (hi_mod_lt hd a.hi)
  -- the value is the part under the high word's remainder plus whole multiples of `d`
  have hsplit : a.toNat = Word.join a.lo (a.hi % d) +
      d.toNat * (wordSize * (a.hi.toNat / d.toNat)) := by
    rw [toNat_eq, Word.join_eq, UInt64.toNat_mod]
    conv_lhs => rw [← Nat.mod_add_div a.hi.toNat d.toNat]
    ring
  simp only [divModWord, toNat_mk, UInt64.toNat_div]
  rw [hq, hr, hsplit, Nat.add_mul_div_left _ _ hpos, Nat.add_mul_mod_self_left]
  exact ⟨rfl, rfl⟩

/-- **By a nonzero word the checked division answers,** with what `divModWord` computes. -/
theorem divRemWord_of_ne_zero {d : UInt64} (hd : d ≠ 0) (a : U128) :
    divRemWord a d = .ok (divModWord a d) := by
  rw [divRemWord, if_neg hd, Word.divWideChecked_of_lt (hi_mod_lt hd a.hi)]
  rfl

theorem divRemWord_zero (a : U128) : divRemWord a 0 = .error .divideByZero := rfl

/-! ## Long division: one step and the loop -/

/-- **The state of long division** by `B` with `k + 1` quotient bits still to find: the shifted
divisor stands for `B · 2^k`, the remainder is below twice that, and the quotient found so far,
followed by the bits still to come, fits in a word. -/
structure LongState (B k : Nat) (r s : U128) (q : UInt64) : Prop where
  divisor : s.toNat = B * 2 ^ k
  remainder : r.toNat < B * 2 ^ (k + 1)
  fits : q.toNat * 2 ^ (k + 1) + r.toNat / B < wordSize

/-- One step of the loop, with the comparison read on the values. -/
theorem longSteps_succ (n : Nat) (r s : U128) (q : UInt64) :
    longSteps (n + 1) r s q =
      if s.toNat ≤ r.toNat then longSteps n (r - s) (s.shr 1) (q <<< 1 ||| 1)
      else longSteps n r (s.shr 1) (q <<< 1) := by
  simp only [longSteps, compare_ne_lt_iff]

/-- **One step of long division.** The step takes one quotient bit: afterwards the remainder is
below the shifted divisor, and both the quotient the loop will answer and the remainder modulo
`B` are what they were. -/
theorem LongState.step {B k : Nat} {r s : U128} {q : UInt64} (h : LongState B k r s q)
    (n : Nat) :
    ∃ r' q', longSteps (n + 1) r s q = longSteps n r' (s.shr 1) q' ∧
      r'.toNat < B * 2 ^ k ∧
      q'.toNat * 2 ^ k + r'.toNat / B = q.toNat * 2 ^ (k + 1) + r.toNat / B ∧
      r'.toNat % B = r.toNat % B := by
  have hr : r.toNat < 2 * (B * 2 ^ k) := by
    have := h.remainder
    rwa [pow_succ, ← Nat.mul_assoc, Nat.mul_comm _ 2] at this
  have hB : 0 < B := Nat.pos_of_ne_zero (by rintro rfl; simp at hr)
  -- the quotient word is below `2^63`, so doubling it drops no bit
  have hq : q.toNat < 2 ^ 63 := by
    have hfits : q.toNat * 2 ^ (k + 1) < wordSize :=
      Nat.lt_of_le_of_lt (Nat.le_add_right _ _) h.fits
    have : q.toNat * 2 ≤ q.toNat * 2 ^ (k + 1) :=
      Nat.mul_le_mul_left _ (Nat.le_self_pow (by omega) 2)
    simp only [wordSize] at hfits
    omega
  have hdouble : q.toNat * 2 ^ (k + 1) = 2 * q.toNat * 2 ^ k := by ring
  rw [longSteps_succ, h.divisor]
  by_cases hle : B * 2 ^ k ≤ r.toNat
  · rw [if_pos hle]
    have hsub : (r - s).toNat = r.toNat - B * 2 ^ k :=
      (toNat_sub_of_le (h.divisor ▸ hle)).trans (by rw [h.divisor])
    have hdiv : 2 ^ k ≤ r.toNat / B := (Nat.le_div_iff_mul_le hB).2 (by rwa [Nat.mul_comm])
    refine ⟨r - s, q <<< 1 ||| 1, rfl, by omega, ?_, ?_⟩
    · rw [hsub, Word.toNat_shiftLeft_one_or_one hq, Nat.sub_mul_div, hdouble, Nat.add_mul]
      omega
    · rw [hsub, Nat.sub_mul_mod hle]
  · rw [if_neg hle]
    refine ⟨r, q <<< 1, rfl, by omega, ?_, rfl⟩
    rw [Word.toNat_shiftLeft_one hq, hdouble]

/-- Halving the shifted divisor of a state with `k + 2` bits to find gives the shifted divisor
of the next state. -/
theorem LongState.toNat_shr_divisor {B k : Nat} {r s : U128} {q : UInt64}
    (h : LongState B (k + 1) r s q) : (s.shr 1).toNat = B * 2 ^ k := by
  rw [toNat_shr, h.divisor, pow_succ, ← Nat.mul_assoc]
  exact Nat.mul_div_cancel _ (by decide)

/-- **The loop of long division.** From a state with `k + 1` bits to find, the loop answers the
quotient found so far followed by the `k + 1` bits of `r / B`, and leaves `r mod B`. The
induction is on the bits still to find; `LongState.step` carries the state from one bit to the
next. -/
theorem LongState.longSteps_eq {B k : Nat} {r s : U128} {q : UInt64}
    (h : LongState B k r s q) :
    (longSteps (k + 1) r s q).1.toNat = q.toNat * 2 ^ (k + 1) + r.toNat / B ∧
      (longSteps (k + 1) r s q).2.toNat = r.toNat % B := by
  induction k generalizing r s q with
  | zero =>
    obtain ⟨r', q', heq, hr', hans, hmod⟩ := h.step 0
    -- after the last step the remainder is below `B` and holds no more quotient
    have hr'B : r'.toNat < B := by simpa using hr'
    rw [heq]
    refine ⟨?_, ?_⟩
    · rw [← hans, Nat.div_eq_of_lt hr'B]
      simp [longSteps]
    · rw [← hmod, Nat.mod_eq_of_lt hr'B]
      rfl
  | succ k ih =>
    obtain ⟨r', q', heq, hr', hans, hmod⟩ := h.step (k + 1)
    have h' : LongState B k r' (s.shr 1) q' :=
      { divisor := h.toNat_shr_divisor
        remainder := hr'
        fits := hans ▸ h.fits }
    rw [heq]
    exact ⟨(ih h').1.trans hans, (ih h').2.trans hmod⟩

/-! ## Long division: aligning the divisor -/

/-- A dividend at least the divisor has a high word at least the divisor's. -/
theorem hi_le_of_le {a b : U128} (h : b.toNat ≤ a.toNat) : b.hi.toNat ≤ a.hi.toNat := by
  rw [← toNat_div_wordSize a, ← toNat_div_wordSize b]
  exact Nat.div_le_div_right h

/-- A divisor with a nonzero high word is at least `2^64`. -/
theorem wordSize_le_of_hi_ne_zero {b : U128} (hb : b.hi ≠ 0) : wordSize ≤ b.toNat := by
  have : 1 ≤ b.hi.toNat := toNat_pos_of_ne_zero hb
  rw [toNat_eq]
  simp only [wordSize] at *
  omega

/-- A divisor of at least `2^64` leaves a quotient below `2^64`. -/
theorem div_lt_wordSize (a : U128) {b : U128} (hb : wordSize ≤ b.toNat) :
    a.toNat / b.toNat < wordSize :=
  Nat.div_lt_of_lt_mul <|
    calc a.toNat < wordSize * wordSize := toNat_lt a
      _ ≤ b.toNat * wordSize := Nat.mul_le_mul_right _ hb

/-- A value is below `2^64` times the least power of two above its high word. -/
private theorem toNat_lt_wordSize_mul (x : U128) :
    x.toNat < wordSize * 2 ^ bitLength x.hi.toNat := by
  have hlo := x.lo.toNat_lt
  have hhi : x.hi.toNat + 1 ≤ 2 ^ bitLength x.hi.toNat := lt_two_pow_bitLength _
  calc x.toNat = x.lo.toNat + wordSize * x.hi.toNat := rfl
    _ < wordSize * (x.hi.toNat + 1) := by simp only [wordSize] at hlo ⊢; omega
    _ ≤ wordSize * 2 ^ bitLength x.hi.toNat := Nat.mul_le_mul_left _ hhi

/-- **Aligning the divisor.** For a divisor with a nonzero high word and a dividend at least it,
shifting the divisor left by the difference of the bit lengths of the two high words keeps all
its bits, and leaves the dividend below twice the shifted divisor. -/
theorem align_bounds {a b : U128} (hb : b.hi ≠ 0) (h : b.toNat ≤ a.toNat) :
    b.toNat * 2 ^ (bitLength a.hi.toNat - bitLength b.hi.toNat) < modulus ∧
      a.toNat < b.toNat * 2 ^ (bitLength a.hi.toNat - bitLength b.hi.toNat + 1) := by
  have hbh : b.hi.toNat ≠ 0 := mt Word.toNat_eq_zero_iff.1 hb
  have hlen := bitLength_mono (hi_le_of_le h)
  have hpos := bitLength_pos hbh
  have hla : bitLength a.hi.toNat ≤ 64 := Word.bitLength_toNat_le a.hi
  -- the divisor's top bit is bit `bitLength b.hi - 1` of its high word
  have htop : wordSize * 2 ^ (bitLength b.hi.toNat - 1) ≤ b.toNat :=
    calc wordSize * 2 ^ (bitLength b.hi.toNat - 1) ≤ wordSize * b.hi.toNat :=
          Nat.mul_le_mul_left _ (two_pow_pred_bitLength_le hbh)
      _ ≤ b.toNat := by rw [toNat_eq]; omega
  constructor
  · calc b.toNat * 2 ^ (bitLength a.hi.toNat - bitLength b.hi.toNat)
        < wordSize * 2 ^ bitLength b.hi.toNat *
            2 ^ (bitLength a.hi.toNat - bitLength b.hi.toNat) :=
          Nat.mul_lt_mul_of_pos_right (toNat_lt_wordSize_mul b) (Nat.two_pow_pos _)
      _ = wordSize * 2 ^ bitLength a.hi.toNat := by
          rw [Nat.mul_assoc, ← pow_add, Nat.add_sub_cancel' hlen]
      _ ≤ wordSize * 2 ^ 64 := Nat.mul_le_mul_left _ (Nat.pow_le_pow_right (by decide) hla)
      _ = modulus := rfl
  · calc a.toNat < wordSize * 2 ^ bitLength a.hi.toNat := toNat_lt_wordSize_mul a
      _ = wordSize * 2 ^ (bitLength b.hi.toNat - 1) *
            2 ^ (bitLength a.hi.toNat - bitLength b.hi.toNat + 1) := by
          rw [Nat.mul_assoc, ← pow_add]
          congr 2
          omega
      _ ≤ b.toNat * 2 ^ (bitLength a.hi.toNat - bitLength b.hi.toNat + 1) :=
          Nat.mul_le_mul_right _ htop

/-- **Long division is exact,** for every dividend and every divisor with a nonzero high word:
every check on the way passes, and the quotient word and the remainder are `⌊A / B⌋` and
`A mod B`. -/
theorem divModLong_eq {a b : U128} (hb : b.hi ≠ 0) :
    divModLong a b = .ok (UInt64.ofNat (a.toNat / b.toNat), ofNat (a.toNat % b.toNat)) := by
  have hqW := div_lt_wordSize a (wordSize_le_of_hi_ne_zero hb)
  rw [divModLong, if_neg hb]
  by_cases hlt : compare a b = .lt
  · -- a dividend below the divisor is its own remainder
    have hlt' := compare_eq_lt_iff.1 hlt
    rw [if_pos hlt, Nat.div_eq_of_lt hlt', Nat.mod_eq_of_lt hlt', ofNat_toNat]
    rfl
  · rw [if_neg hlt]
    have hle := compare_ne_lt_iff.1 hlt
    have hhi := hi_le_of_le hle
    have hah : a.hi ≠ 0 := by
      have hbh := toNat_pos_of_ne_zero hb
      intro h0
      rw [h0, UInt64.toNat_zero] at hhi
      omega
    have hlen := bitLength_mono hhi
    have hza := Word.leadingZeros_add_bitLength a.hi
    have hzb := Word.leadingZeros_add_bitLength b.hi
    -- the checked counts answer, and the shift distance is the difference of bit lengths
    have hnot : ¬ Word.leadingZeros b.hi < Word.leadingZeros a.hi := by omega
    have hshift : Word.leadingZeros b.hi - Word.leadingZeros a.hi =
        bitLength a.hi.toNat - bitLength b.hi.toNat := by omega
    rw [Word.leadingZerosChecked_of_ne_zero hb, Word.leadingZerosChecked_of_ne_zero hah]
    simp only [bind, Except.bind, if_neg hnot, hshift, pure, Except.pure]
    obtain ⟨hfit, hhalf⟩ := align_bounds hb hle
    have hsh : bitLength a.hi.toNat - bitLength b.hi.toNat < 128 := by omega
    have hstate : LongState b.toNat (bitLength a.hi.toNat - bitLength b.hi.toNat) a
        (b.shl (bitLength a.hi.toNat - bitLength b.hi.toNat)) 0 :=
      { divisor := by rw [toNat_shl, Nat.mod_eq_of_lt hsh, Nat.mod_eq_of_lt hfit]
        remainder := hhalf
        fits := by rwa [UInt64.toNat_zero, Nat.zero_mul, Nat.zero_add] }
    obtain ⟨hq, hr⟩ := hstate.longSteps_eq
    rw [UInt64.toNat_zero, Nat.zero_mul, Nat.zero_add] at hq
    refine congrArg Except.ok (Prod.ext ?_ ?_)
    · apply UInt64.toNat_inj.1
      rw [hq, UInt64.toNat_ofNat', Nat.mod_eq_of_lt hqW]
    · apply ext_toNat
      rw [hr, toNat_ofNat, Nat.mod_eq_of_lt (Nat.lt_of_le_of_lt (Nat.mod_le _ _) (toNat_lt a))]

/-! ## Every division operator -/

/-- **Quotient and remainder,** by either path: a zero divisor is refused with a division by
zero, and any other gives `⌊A / B⌋` and `A mod B`. -/
theorem divRem_eq (a b : U128) :
    divRem a b = if b.toNat = 0 then .error .divideByZero
      else .ok (ofNat (a.toNat / b.toNat), ofNat (a.toNat % b.toNat)) := by
  by_cases hbh : b.hi = 0
  · have hB := toNat_of_hi_eq_zero hbh
    rw [divRem, if_pos hbh]
    by_cases hbl : b.lo = 0
    · have hB0 : b.toNat = 0 := by simp [hB, hbl]
      rw [if_pos hB0, hbl, divRemWord_zero]
      rfl
    · -- a divisor of one word: the word path
      have hB0 : b.toNat ≠ 0 := by
        rw [hB]
        exact mt Word.toNat_eq_zero_iff.1 hbl
      obtain ⟨hq, hr⟩ := toNat_divModWord hbl a
      rw [if_neg hB0, divRemWord_of_ne_zero hbl]
      show Except.ok ((divModWord a b.lo).1, ofWord (divModWord a b.lo).2) = _
      congr 2
      · apply ext_toNat
        rw [hq, toNat_ofNat, ← hB, Nat.mod_eq_of_lt (Nat.lt_of_le_of_lt (Nat.div_le_self _ _)
          (toNat_lt a))]
      · apply ext_toNat
        rw [toNat_ofWord, hr, toNat_ofNat, ← hB, Nat.mod_eq_of_lt (Nat.lt_of_le_of_lt
          (Nat.mod_le _ _) (toNat_lt a))]
  · -- a divisor with a nonzero high word: long division
    have hB0 : b.toNat ≠ 0 :=
      Nat.ne_of_gt (Nat.lt_of_lt_of_le (by decide) (wordSize_le_of_hi_ne_zero hbh))
    have hqW := div_lt_wordSize a (wordSize_le_of_hi_ne_zero hbh)
    rw [divRem, if_neg hbh, if_neg hB0, divModLong_eq hbh]
    show Except.ok (ofWord (UInt64.ofNat (a.toNat / b.toNat)), ofNat (a.toNat % b.toNat)) = _
    congr 2
    apply ext_toNat
    rw [toNat_ofWord, UInt64.toNat_ofNat', toNat_ofNat, Nat.mod_eq_of_lt hqW,
      Nat.mod_eq_of_lt (Nat.lt_trans hqW (by decide))]

theorem div_eq (a b : U128) :
    div a b = if b.toNat = 0 then .error .divideByZero else .ok (ofNat (a.toNat / b.toNat)) := by
  rw [div, divRem_eq]
  split <;> rfl

theorem rem_eq (a b : U128) :
    rem a b = if b.toNat = 0 then .error .divideByZero else .ok (ofNat (a.toNat % b.toNat)) := by
  rw [rem, divRem_eq]
  split <;> rfl

theorem checkedDiv_eq (a b : U128) :
    checkedDiv a b = if b.toNat = 0 then none else some (ofNat (a.toNat / b.toNat)) := by
  by_cases hb : b.toNat = 0
  · rw [checkedDiv, if_pos (isZero_iff.2 hb), if_pos hb]
  · rw [checkedDiv, if_neg (mt isZero_iff.1 hb), if_neg hb, div_eq, if_neg hb]
    rfl

theorem checkedRem_eq (a b : U128) :
    checkedRem a b = if b.toNat = 0 then none else some (ofNat (a.toNat % b.toNat)) := by
  by_cases hb : b.toNat = 0
  · rw [checkedRem, if_pos (isZero_iff.2 hb), if_pos hb]
  · rw [checkedRem, if_neg (mt isZero_iff.1 hb), if_neg hb, rem_eq, if_neg hb]
    rfl

/-- **Every division of two values is exact, and only a zero divisor stops it.** `divRem`
refuses a zero divisor with a division by zero, whose message is the one the source panics
with, and otherwise answers `⌊A / B⌋` and `A mod B` on whichever path the divisor's high word
picks. The quotient and the remainder alone, the updates in place by them, and their checked
forms (nothing for a zero divisor) answer the same. -/
theorem division_exact_unless_zero (a b : U128) :
    divRem a b = (if b.toNat = 0 then .error .divideByZero
      else .ok (ofNat (a.toNat / b.toNat), ofNat (a.toNat % b.toNat))) ∧
    Fault.divideByZero.message = "attempt to divide by zero" ∧
    div a b = (if b.toNat = 0 then .error .divideByZero else .ok (ofNat (a.toNat / b.toNat))) ∧
    rem a b = (if b.toNat = 0 then .error .divideByZero else .ok (ofNat (a.toNat % b.toNat))) ∧
    UpdateOp.div.apply a b =
      (if b.toNat = 0 then .error .divideByZero else .ok (ofNat (a.toNat / b.toNat))) ∧
    UpdateOp.rem.apply a b =
      (if b.toNat = 0 then .error .divideByZero else .ok (ofNat (a.toNat % b.toNat))) ∧
    checkedDiv a b = (if b.toNat = 0 then none else some (ofNat (a.toNat / b.toNat))) ∧
    checkedRem a b = (if b.toNat = 0 then none else some (ofNat (a.toNat % b.toNat))) :=
  ⟨divRem_eq a b, rfl, div_eq a b, rem_eq a b, div_eq a b, rem_eq a b, checkedDiv_eq a b,
    checkedRem_eq a b⟩

end U128

end DoubleWord
