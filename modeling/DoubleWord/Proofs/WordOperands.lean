import Mathlib
import DoubleWord.U128.Steps
import DoubleWord.Proofs.Division

/-!
# A word operand is the value it stands for

Sums, differences, products and divisions of a value with a single word have their own
word-level algorithms: a carry or borrow taken from one word, a product by one word, a division
by one word. Each answers what the two-word operation gives with the word widened to a value
(`ofWord w`, the word in the low place and zero in the high):

* on the right, for the five operations, and so for every update in place by a word;
* on the left, for the sum, the difference and the product, and for the word quotient and the
  word remainder by a nonzero value. These two take a shortcut: a divisor with a high word
  exceeds every word, so the quotient is `0` and the remainder the word itself, exactly.

Each division with a word stops exactly when its divisor is zero, like its two-word
counterpart. The fault is the same, but for the word remainder of a word by a value, which
stops as the native remainder by zero stops.

The sums and products need nothing but the equations of `Proofs.Arith`; the divisions on the
right need only that the two-word division takes the word path for a widened word.
-/

set_option autoImplicit false

namespace DoubleWord

namespace U128

/-- A word below `2^64` read as a word and widened is the value of that number. -/
theorem ofWord_ofNat {n : Nat} (h : n < wordSize) : ofWord (UInt64.ofNat n) = ofNat n := by
  apply ext_toNat
  rw [toNat_ofWord, UInt64.toNat_ofNat', toNat_ofNat, Nat.mod_eq_of_lt h,
    Nat.mod_eq_of_lt (Nat.lt_trans h (by decide))]

/-- **A value with a high word exceeds every word.** -/
theorem lt_toNat_of_hi_ne_zero (w : UInt64) {a : U128} (h : a.hi ≠ 0) : w.toNat < a.toNat :=
  Nat.lt_of_lt_of_le w.toNat_lt (wordSize_le_of_hi_ne_zero h)

/-! ## A word on the right -/

theorem addWord_eq_add (a : U128) (w : UInt64) : a.addWord w = a + ofWord w := by
  apply ext_toNat
  rw [toNat_addWord, toNat_add, toNat_ofWord]

theorem subWord_eq_sub (a : U128) (w : UInt64) : a.subWord w = a - ofWord w := by
  apply ext_toNat
  rw [toNat_subWord, toNat_sub, toNat_ofWord]

theorem mulWord_eq_mul (a : U128) (w : UInt64) : a.mulWord w = a * ofWord w := by
  apply ext_toNat
  rw [toNat_mulWord, toNat_mul, toNat_ofWord]

/-- **A widened word takes the word path:** its high word is zero, so the two-word division is
the division by the word, with the remainder widened. -/
theorem divRem_ofWord (a : U128) (w : UInt64) :
    divRem a (ofWord w) = (divRemWord a w).map fun qr => (qr.1, ofWord qr.2) := by
  have hlo : (ofWord w).lo = w := rfl
  rw [divRem, if_pos (show (ofWord w).hi = 0 from rfl), hlo]
  cases divRemWord a w <;> rfl

theorem divWord_eq_div (a : U128) (w : UInt64) : a.divWord w = a.div (ofWord w) := by
  rw [divWord, div, divRem_ofWord]
  cases divRemWord a w <;> rfl

theorem remWord_map_ofWord (a : U128) (w : UInt64) :
    (a.remWord w).map ofWord = a.rem (ofWord w) := by
  rw [remWord, rem, divRem_ofWord]
  cases divRemWord a w <;> rfl

/-- The quotient by a word: refused for a zero word, `⌊A / w⌋` otherwise. -/
theorem divWord_eq (a : U128) (w : UInt64) :
    a.divWord w = if w = 0 then .error .divideByZero else .ok (ofNat (a.toNat / w.toNat)) := by
  rw [divWord_eq_div, div_eq, toNat_ofWord]
  simp only [Word.toNat_eq_zero_iff]

/-- The remainder by a word, as a word: refused for a zero word, `A mod w` otherwise. -/
theorem remWord_eq (a : U128) (w : UInt64) :
    a.remWord w =
      if w = 0 then .error .divideByZero else .ok (UInt64.ofNat (a.toNat % w.toNat)) := by
  by_cases hw : w = 0
  · rw [if_pos hw, hw, remWord, divRemWord_zero]
    rfl
  · obtain ⟨-, hr⟩ := toNat_divModWord hw a
    rw [if_neg hw, remWord, divRemWord_of_ne_zero hw, ← hr, UInt64.ofNat_toNat]
    rfl

end U128

namespace WordOp

/-- The update by a value that an update by a word stands for. -/
def widen : WordOp → UpdateOp
  | add => .add
  | sub => .sub
  | mul => .mul
  | div => .div
  | rem => .rem

/-- **Every update in place by a word is the update by the widened word.** The remainder by a
word, a word, replaces the value widened. -/
theorem apply_eq_widen (op : WordOp) (a : U128) (w : UInt64) :
    op.apply a w = op.widen.apply a (U128.ofWord w) := by
  cases op with
  | add => exact congrArg Except.ok (U128.addWord_eq_add a w)
  | sub => exact congrArg Except.ok (U128.subWord_eq_sub a w)
  | mul => exact congrArg Except.ok (U128.mulWord_eq_mul a w)
  | div => exact U128.divWord_eq_div a w
  | rem => exact U128.remWord_map_ofWord a w

end WordOp

/-! ## A word on the left -/

namespace Word

theorem addU128_eq_add (w : UInt64) (a : U128) : addU128 w a = U128.ofWord w + a := by
  apply U128.ext_toNat
  rw [addU128, U128.toNat_addWord, U128.toNat_add, U128.toNat_ofWord, Nat.add_comm]

theorem mulU128_eq_mul (w : UInt64) (a : U128) : mulU128 w a = U128.ofWord w * a := by
  apply U128.ext_toNat
  rw [mulU128, U128.toNat_mulWord, U128.toNat_mul, U128.toNat_ofWord, Nat.mul_comm]

/-- **A word divided by a value, as a word:** refused for a zero divisor, `⌊w / A⌋` otherwise.
A divisor with a high word exceeds the word, so the shortcut's `0` is the quotient. -/
theorem divU128_eq (w : UInt64) (a : U128) :
    divU128 w a =
      if a.toNat = 0 then .error .divideByZero else .ok (UInt64.ofNat (w.toNat / a.toNat)) := by
  by_cases hhi : a.hi = 0
  · -- the divisor is its low word
    have hA := U128.toNat_of_hi_eq_zero hhi
    rw [divU128, if_neg (not_not.2 hhi), hA]
    simp only [Word.toNat_eq_zero_iff]
    split_ifs
    · rfl
    · rw [← UInt64.toNat_div, UInt64.ofNat_toNat]
  · have hlt := U128.lt_toNat_of_hi_ne_zero w hhi
    have hA0 : a.toNat ≠ 0 := Nat.ne_zero_of_lt hlt
    rw [divU128, if_pos hhi, if_neg hA0, Nat.div_eq_of_lt hlt]
    rfl

/-- **A word modulo a value, as a word:** refused for a zero divisor, `w mod A` otherwise. A
divisor with a high word exceeds the word, so the shortcut's `w` is the remainder. -/
theorem remU128_eq (w : UInt64) (a : U128) :
    remU128 w a =
      if a.toNat = 0 then .error .remainderByZero else .ok (UInt64.ofNat (w.toNat % a.toNat)) := by
  by_cases hhi : a.hi = 0
  · have hA := U128.toNat_of_hi_eq_zero hhi
    rw [remU128, if_neg (not_not.2 hhi), hA]
    simp only [Word.toNat_eq_zero_iff]
    split_ifs
    · rfl
    · rw [← UInt64.toNat_mod, UInt64.ofNat_toNat]
  · have hlt := U128.lt_toNat_of_hi_ne_zero w hhi
    have hA0 : a.toNat ≠ 0 := Nat.ne_zero_of_lt hlt
    rw [remU128, if_pos hhi, if_neg hA0, Nat.mod_eq_of_lt hlt, UInt64.ofNat_toNat]

/-- By a nonzero value the word quotient, widened, is the two-word quotient. -/
theorem divU128_map_ofWord (w : UInt64) {a : U128} (ha : a.toNat ≠ 0) :
    (divU128 w a).map U128.ofWord = (U128.ofWord w).div a := by
  have hq : w.toNat / a.toNat < wordSize := Nat.lt_of_le_of_lt (Nat.div_le_self _ _) w.toNat_lt
  rw [divU128_eq, U128.div_eq, if_neg ha, if_neg ha, U128.toNat_ofWord]
  exact congrArg Except.ok (U128.ofWord_ofNat hq)

/-- By a nonzero value the word remainder, widened, is the two-word remainder. -/
theorem remU128_map_ofWord (w : UInt64) {a : U128} (ha : a.toNat ≠ 0) :
    (remU128 w a).map U128.ofWord = (U128.ofWord w).rem a := by
  have hr : w.toNat % a.toNat < wordSize := Nat.lt_of_le_of_lt (Nat.mod_le _ _) w.toNat_lt
  rw [remU128_eq, U128.rem_eq, if_neg ha, if_neg ha, U128.toNat_ofWord]
  exact congrArg Except.ok (U128.ofWord_ofNat hr)

/-- The word quotient stops exactly when the two-word quotient does. -/
theorem divU128_isOk (w : UInt64) (a : U128) :
    (divU128 w a).isOk = ((U128.ofWord w).div a).isOk := by
  rw [divU128_eq, U128.div_eq]
  split <;> rfl

/-- The word remainder stops exactly when the two-word remainder does. -/
theorem remU128_isOk (w : UInt64) (a : U128) :
    (remU128 w a).isOk = ((U128.ofWord w).rem a).isOk := by
  rw [remU128_eq, U128.rem_eq]
  split <;> rfl

end Word

namespace U128

/-- **A word operand is the value it stands for.** On the right, the sum, difference, product,
quotient and remainder with a word are those with the widened word, and so is every update in
place by a word. On the left, the sum, difference and product are, and by a nonzero value so
are the word quotient and remainder, shortcut included. Each division with a word stops
exactly when its divisor is zero, and as its two-word counterpart does; where it answers, it
answers the exact quotient or remainder. -/
theorem word_operands_agree_with_widened (a : U128) (w : UInt64) :
    (a.addWord w = a + ofWord w ∧ a.subWord w = a - ofWord w ∧ a.mulWord w = a * ofWord w ∧
      a.divWord w = a.div (ofWord w) ∧ (a.remWord w).map ofWord = a.rem (ofWord w) ∧
      ∀ op : WordOp, op.apply a w = op.widen.apply a (ofWord w)) ∧
    (Word.addU128 w a = ofWord w + a ∧ Word.subU128 w a = ofWord w - a ∧
      Word.mulU128 w a = ofWord w * a ∧
      (a.toNat ≠ 0 → (Word.divU128 w a).map ofWord = (ofWord w).div a ∧
        (Word.remU128 w a).map ofWord = (ofWord w).rem a)) ∧
    (a.divWord w = (if w = 0 then .error .divideByZero else .ok (ofNat (a.toNat / w.toNat))) ∧
      a.remWord w =
        (if w = 0 then .error .divideByZero else .ok (UInt64.ofNat (a.toNat % w.toNat))) ∧
      Word.divU128 w a = (if a.toNat = 0 then .error .divideByZero
        else .ok (UInt64.ofNat (w.toNat / a.toNat))) ∧
      Word.remU128 w a = (if a.toNat = 0 then .error .remainderByZero
        else .ok (UInt64.ofNat (w.toNat % a.toNat))) ∧
      (Word.divU128 w a).isOk = ((ofWord w).div a).isOk ∧
      (Word.remU128 w a).isOk = ((ofWord w).rem a).isOk) :=
  ⟨⟨addWord_eq_add a w, subWord_eq_sub a w, mulWord_eq_mul a w, divWord_eq_div a w,
      remWord_map_ofWord a w, fun op => op.apply_eq_widen a w⟩,
    ⟨Word.addU128_eq_add w a, rfl, Word.mulU128_eq_mul w a,
      fun ha => ⟨Word.divU128_map_ofWord w ha, Word.remU128_map_ofWord w ha⟩⟩,
    ⟨divWord_eq a w, remWord_eq a w, Word.divU128_eq w a, Word.remU128_eq w a,
      Word.divU128_isOk w a, Word.remU128_isOk w a⟩⟩

/-- At the largest word and a divisor with a high word: the shortcut's quotient `0` and
remainder `2^64 - 1` are the two-word ones. -/
theorem word_operands_agree_with_widened_max :
    (ofWords 0 1).toNat ≠ 0 ∧
      ((Word.divU128 18446744073709551615 (ofWords 0 1)).map ofWord =
          (ofWord 18446744073709551615).div (ofWords 0 1) ∧
        (Word.remU128 18446744073709551615 (ofWords 0 1)).map ofWord =
          (ofWord 18446744073709551615).rem (ofWords 0 1)) :=
  ⟨by decide,
    (word_operands_agree_with_widened (ofWords 0 1) 18446744073709551615).2.1.2.2.2 (by decide)⟩

end U128

end DoubleWord
