import Mathlib
import DoubleWord.U128.Steps
import DoubleWord.Unsigned.Wide
import DoubleWord.Proofs.Arith

/-!
# Wrapping sums, differences and products

The sum and the difference of two values come with a flag, and every other form of them
answers the wrapped value of that pair:

* a word sum carries exactly when it passes `2^64`, and the carry read off the wrapped low word
  (the sum below an operand) is that carry; a word difference borrows exactly when the
  subtrahend is the larger, read off as the difference above the minuend;
* the flag of a two-word sum is the disjunction of the two high-word carries, of which at most
  one is set: a high sum that carried is at most `2^64 - 2`, and the low carry adds at most one.
  So the wrapped sum plus `2^128` times the flag is the exact sum (`toNat_overflowingAdd`), and
  likewise for the difference (`toNat_overflowingSub`);
* the product keeps the full product of the low words and only the low halves of the cross
  products; what it drops is `2^128` times the product of the high words, the high halves of
  the cross products and the carry out of the high word (`toNat_mul_add_dropped`).

`overflowing_sum_difference_exact` and `product_wraps` assemble these into the answer of every
operator: the operators, the updates in place, the wrapping and checked forms, negation, the
successor and the predecessor, and the product of a list.
-/

set_option autoImplicit false

namespace DoubleWord

namespace Word

/-! ## Carries and borrows of one word -/

/-- **A word sum carries exactly when it passes `2^64`:** the wrapped sum then comes out below
the first operand. -/
theorem addFlag_snd_eq_true_iff (x y : UInt64) :
    (addFlag x y).2 = true ↔ wordSize ≤ x.toNat + y.toNat := by
  have hx := x.toNat_lt
  have hy := y.toNat_lt
  rw [addFlag, decide_eq_true_iff, UInt64.lt_iff_toNat_lt, UInt64.toNat_add]
  simp only [wordSize] at *
  omega

theorem subFlag_snd_eq_true_iff (x y : UInt64) :
    (subFlag x y).2 = true ↔ x.toNat < y.toNat := by
  rw [subFlag, decide_eq_true_iff, UInt64.lt_iff_toNat_lt]

/-- **The carry of a word sum is exact:** the wrapped sum, plus `2^64` when the flag is set, is
the sum. -/
theorem toNat_addFlag (x y : UInt64) :
    (addFlag x y).1.toNat + (addFlag x y).2.toNat * wordSize = x.toNat + y.toNat := by
  have hx := x.toNat_lt
  have hy := y.toNat_lt
  have hflag := addFlag_snd_eq_true_iff x y
  rw [show (addFlag x y).1 = x + y from rfl, UInt64.toNat_add]
  cases hc : (addFlag x y).2 <;> rw [hc] at hflag <;>
    simp only [Bool.toNat_true, Bool.toNat_false, Bool.false_eq_true, false_iff, true_iff,
      wordSize] at * <;> omega

theorem toNat_subFlag (x y : UInt64) :
    (subFlag x y).1.toNat + y.toNat = x.toNat + (subFlag x y).2.toNat * wordSize := by
  have hx := x.toNat_lt
  have hy := y.toNat_lt
  have hflag := subFlag_snd_eq_true_iff x y
  rw [show (subFlag x y).1 = x - y from rfl, UInt64.toNat_sub]
  cases hc : (subFlag x y).2 <;> rw [hc] at hflag <;>
    simp only [Bool.toNat_true, Bool.toNat_false, Bool.false_eq_true, false_iff, true_iff,
      wordSize] at * <;> omega

theorem toNat_ite_one (p : Prop) [Decidable p] :
    (if p then (1 : UInt64) else 0).toNat = (decide p).toNat := by
  by_cases h : p <;> simp [h]

theorem toNat_ite_one_le (p : Prop) [Decidable p] :
    (if p then (1 : UInt64) else 0).toNat ≤ 1 := by
  rw [toNat_ite_one]
  exact Bool.toNat_le _

/-- **The carry read off a wrapped sum is the carry of the sum:** the sum is below an operand
exactly when it passed `2^64`. -/
theorem toNat_add_carry (x y : UInt64) :
    (if x + y < x then (1 : UInt64) else 0).toNat = (addFlag x y).2.toNat :=
  toNat_ite_one _

theorem toNat_sub_borrow (x y : UInt64) :
    (if x - y > x then (1 : UInt64) else 0).toNat = (subFlag x y).2.toNat := by
  have hflag := subFlag_snd_eq_true_iff x y
  have hx := x.toNat_lt
  have hy := y.toNat_lt
  rw [toNat_ite_one]
  congr 1
  -- the wrapped difference is above the minuend exactly when the subtrahend is the larger
  rw [Bool.eq_iff_iff, hflag, decide_eq_true_iff, gt_iff_lt, UInt64.lt_iff_toNat_lt,
    UInt64.toNat_sub]
  omega

/-- **A sum that carried does not carry again:** it is at most `2^64 - 2`, so adding a carry of
at most one to it stays below `2^64`. -/
theorem addFlag_not_both (x y : UInt64) {c : UInt64} (hc : c.toNat ≤ 1) :
    ((addFlag x y).2 && (addFlag (addFlag x y).1 c).2) = false := by
  have h₁ := toNat_addFlag x y
  have hx := x.toNat_lt
  have hy := y.toNat_lt
  rw [Bool.and_eq_false_imp]
  intro ho₁
  rw [Bool.eq_false_iff, ne_eq, addFlag_snd_eq_true_iff]
  rw [ho₁, Bool.toNat_true] at h₁
  simp only [wordSize] at *
  omega

theorem subFlag_not_both (x y : UInt64) {c : UInt64} (hc : c.toNat ≤ 1) :
    ((subFlag x y).2 && (subFlag (subFlag x y).1 c).2) = false := by
  have h₁ := toNat_subFlag x y
  have hy := y.toNat_lt
  rw [Bool.and_eq_false_imp]
  intro hu₁
  -- a difference that borrowed is at least one, so a borrow of one more stays at or above zero
  rw [Bool.eq_false_iff, ne_eq, subFlag_snd_eq_true_iff]
  rw [hu₁, Bool.toNat_true] at h₁
  simp only [wordSize] at *
  omega

theorem toNat_or_of_not_both {o₁ o₂ : Bool} (h : (o₁ && o₂) = false) :
    (o₁ || o₂).toNat = o₁.toNat + o₂.toNat := by
  cases o₁ <;> cases o₂ <;> simp_all

end Word

namespace U128

/-! ## Sums and differences with their flags -/

theorem overflowingAdd_eq (a b : U128) :
    overflowingAdd a b =
      let carry : UInt64 := if a.lo + b.lo < a.lo then 1 else 0
      (⟨a.lo + b.lo, (Word.addFlag (Word.addFlag a.hi b.hi).1 carry).1⟩,
        (Word.addFlag a.hi b.hi).2 || (Word.addFlag (Word.addFlag a.hi b.hi).1 carry).2) :=
  rfl

theorem overflowingSub_eq (a b : U128) :
    overflowingSub a b =
      let borrow : UInt64 := if a.lo - b.lo > a.lo then 1 else 0
      (⟨a.lo - b.lo, (Word.subFlag (Word.subFlag a.hi b.hi).1 borrow).1⟩,
        (Word.subFlag a.hi b.hi).2 || (Word.subFlag (Word.subFlag a.hi b.hi).1 borrow).2) :=
  rfl

/-- **The sum with its flag is exact:** the wrapped sum, plus `2^128` when the flag is set, is
the sum of the values. The low words carry into the high words, and of the two high-word
carries at most one is set. -/
theorem toNat_overflowingAdd (a b : U128) :
    (overflowingAdd a b).1.toNat + (overflowingAdd a b).2.toNat * modulus =
      a.toNat + b.toNat := by
  have hlo := Word.toNat_addFlag a.lo b.lo
  have hcarry := Word.toNat_add_carry a.lo b.lo
  have hhi := Word.toNat_addFlag a.hi b.hi
  have hhi' := Word.toNat_addFlag (Word.addFlag a.hi b.hi).1
    (if a.lo + b.lo < a.lo then 1 else 0)
  -- the two high-word carries are never both set, so the flag counts them
  have hor := Word.toNat_or_of_not_both
    (Word.addFlag_not_both a.hi b.hi (Word.toNat_ite_one_le (a.lo + b.lo < a.lo)))
  rw [overflowingAdd_eq]
  dsimp only
  rw [hor, toNat_mk, toNat_eq, toNat_eq]
  rw [show (Word.addFlag a.lo b.lo).1 = a.lo + b.lo from rfl] at hlo
  rw [hcarry] at hhi'
  simp only [wordSize, modulus] at *
  omega

theorem toNat_overflowingSub (a b : U128) :
    (overflowingSub a b).1.toNat + b.toNat =
      a.toNat + (overflowingSub a b).2.toNat * modulus := by
  have hlo := Word.toNat_subFlag a.lo b.lo
  have hborrow := Word.toNat_sub_borrow a.lo b.lo
  have hhi := Word.toNat_subFlag a.hi b.hi
  have hhi' := Word.toNat_subFlag (Word.subFlag a.hi b.hi).1
    (if a.lo - b.lo > a.lo then 1 else 0)
  -- the two high-word borrows are never both set, so the flag counts them
  have hor := Word.toNat_or_of_not_both
    (Word.subFlag_not_both a.hi b.hi (Word.toNat_ite_one_le (a.lo - b.lo > a.lo)))
  rw [overflowingSub_eq]
  dsimp only
  rw [hor, toNat_mk, toNat_eq, toNat_eq]
  rw [show (Word.subFlag a.lo b.lo).1 = a.lo - b.lo from rfl] at hlo
  rw [hborrow] at hhi'
  simp only [wordSize, modulus] at *
  omega

/-- **The sum's flag says that the sum reached `2^128`.** -/
theorem overflowingAdd_snd_eq_true_iff (a b : U128) :
    (overflowingAdd a b).2 = true ↔ modulus ≤ a.toNat + b.toNat := by
  have hexact := toNat_overflowingAdd a b
  have hsum : (overflowingAdd a b).1.toNat = (a.toNat + b.toNat) % modulus := toNat_add a b
  have ha := toNat_lt a
  have hb := toNat_lt b
  -- the wrapped sum is the remainder by `2^128`, so the flag is the quotient
  cases hc : (overflowingAdd a b).2 <;> rw [hc] at hexact <;>
    simp only [Bool.toNat_true, Bool.toNat_false, Bool.false_eq_true, false_iff, true_iff,
      modulus] at * <;> omega

theorem overflowingSub_snd_eq_true_iff (a b : U128) :
    (overflowingSub a b).2 = true ↔ a.toNat < b.toNat := by
  have hexact := toNat_overflowingSub a b
  have hd := toNat_lt (overflowingSub a b).1
  have ha := toNat_lt a
  have hb := toNat_lt b
  cases hc : (overflowingSub a b).2 <;> rw [hc] at hexact <;>
    simp only [Bool.toNat_true, Bool.toNat_false, Bool.false_eq_true, false_iff, true_iff,
      modulus] at * <;> omega

theorem checkedAdd_eq (a b : U128) :
    checkedAdd a b = if modulus ≤ a.toNat + b.toNat then none else some (a + b) := by
  have hflag := overflowingAdd_snd_eq_true_iff a b
  show (if (overflowingAdd a b).2 then none else some (overflowingAdd a b).1) = _
  by_cases h : modulus ≤ a.toNat + b.toNat
  · rw [if_pos (hflag.2 h), if_pos h]
  · rw [if_neg (mt hflag.1 h), if_neg h]
    rfl

theorem checkedSub_eq (a b : U128) :
    checkedSub a b = if a.toNat < b.toNat then none else some (a - b) := by
  have hflag := overflowingSub_snd_eq_true_iff a b
  show (if (overflowingSub a b).2 then none else some (overflowingSub a b).1) = _
  by_cases h : a.toNat < b.toNat
  · rw [if_pos (hflag.2 h), if_pos h]
  · rw [if_neg (mt hflag.1 h), if_neg h]
    rfl

theorem toNat_increment (a : U128) : a.increment.toNat = (a.toNat + 1) % modulus := by
  rw [increment, toNat_addWord, UInt64.toNat_one]

theorem toNat_decrement (a : U128) :
    (a.decrement.toNat : ℤ) = ((a.toNat : ℤ) - 1) % (modulus : ℤ) := by
  have ha := toNat_lt a
  rw [decrement, toNat_subWord, UInt64.toNat_one]
  simp only [modulus] at *
  omega

/-! ## Products -/

/-- **The high word of a product:** the high word of the low words' full product, plus the low
halves of the two cross products, modulo `2^64`; the product of the high words is not there. -/
theorem toNat_mul_hi (a b : U128) :
    (a * b).hi.toNat = ((Word.mulWide a.lo b.lo).2.toNat + a.lo.toNat * b.hi.toNat % wordSize +
      a.hi.toNat * b.lo.toNat % wordSize) % wordSize := by
  show (mul a b).hi.toNat = _
  simp only [mul, UInt64.toNat_add, UInt64.toNat_mul, wordSize]
  omega

/-- **A product fold wraps modulo `2^128`:** folding a list into an accumulator by `*` leaves the
accumulator times the product of the values. The induction is on the list. -/
theorem toNat_foldl_mul (acc : U128) (xs : List U128) :
    (xs.foldl (· * ·) acc).toNat = acc.toNat * (xs.map toNat).prod % modulus := by
  induction xs generalizing acc with
  | nil =>
    rw [List.foldl_nil, List.map_nil, List.prod_nil, Nat.mul_one,
      Nat.mod_eq_of_lt (toNat_lt acc)]
  | cons x xs ih =>
    rw [List.foldl_cons, ih, toNat_mul, List.map_cons, List.prod_cons, Nat.mod_mul_mod,
      Nat.mul_assoc]

theorem toNat_prod (xs : List U128) : (prod xs).toNat = (xs.map toNat).prod % modulus := by
  rw [prod, toNat_foldl_mul, toNat_one, Nat.one_mul]

/-- **What the truncated product drops is a multiple of `2^128`:** the product of the values is
the value of the product plus `2^128` times the product of the high words, the high halves of
the two cross products, and the carry out of the high word. -/
theorem toNat_mul_add_dropped (a b : U128) :
    a.toNat * b.toNat = (a * b).toNat + modulus * (a.hi.toNat * b.hi.toNat +
      a.lo.toNat * b.hi.toNat / wordSize + a.hi.toNat * b.lo.toNat / wordSize +
      ((Word.mulWide a.lo b.lo).2.toNat + a.lo.toNat * b.hi.toNat % wordSize +
        a.hi.toNat * b.lo.toNat % wordSize) / wordSize) := by
  have hjoin := Word.mulWide_join a.lo b.lo
  have hhi := toNat_mul_hi a b
  have hexp : a.toNat * b.toNat = a.lo.toNat * b.lo.toNat +
      wordSize * (a.lo.toNat * b.hi.toNat + a.hi.toNat * b.lo.toNat) +
      wordSize * wordSize * (a.hi.toNat * b.hi.toNat) := by
    simp only [toNat_eq]
    ring
  -- the low word of the product is the low word of the low words' full product
  rw [hexp, toNat_eq (a * b), hhi, show (a * b).lo = (Word.mulWide a.lo b.lo).1 from rfl]
  simp only [Word.join] at hjoin
  simp only [wordSize, modulus] at *
  omega

/-! ## Every operator -/

/-- **Sums and differences with their flags are exact, and every form answers their wrapped
value.** The sum is `A + B` modulo `2^128` with a flag set exactly when `A + B` reaches
`2^128`; the difference is `A - B` modulo `2^128` with a flag set exactly when `A < B`. Each
flag is the disjunction of two high-word overflows that are never both set. The operators, the
updates in place and the wrapping forms answer the first component, the checked forms answer
nothing exactly when the flag is set, negation is `2^128 - A` modulo `2^128`, and the successor
and the predecessor are `A + 1` and `A - 1` modulo `2^128`. -/
theorem overflowing_sum_difference_exact (a b : U128) :
    ((overflowingAdd a b).1.toNat = (a.toNat + b.toNat) % modulus ∧
      ((overflowingAdd a b).2 = true ↔ modulus ≤ a.toNat + b.toNat)) ∧
    (((overflowingSub a b).1.toNat : ℤ) = ((a.toNat : ℤ) - b.toNat) % (modulus : ℤ) ∧
      ((overflowingSub a b).2 = true ↔ a.toNat < b.toNat)) ∧
    ((Word.addFlag a.hi b.hi).2 &&
      (Word.addFlag (Word.addFlag a.hi b.hi).1 (if a.lo + b.lo < a.lo then 1 else 0)).2) = false ∧
    ((Word.subFlag a.hi b.hi).2 &&
      (Word.subFlag (Word.subFlag a.hi b.hi).1 (if a.lo - b.lo > a.lo then 1 else 0)).2) = false ∧
    (a + b = (overflowingAdd a b).1 ∧ UpdateOp.add.apply a b = .ok (overflowingAdd a b).1 ∧
      Unsigned.wrappingAdd a b = (overflowingAdd a b).1 ∧
      Unsigned.overflowingAdd a b = overflowingAdd a b) ∧
    (a - b = (overflowingSub a b).1 ∧ UpdateOp.sub.apply a b = .ok (overflowingSub a b).1 ∧
      Unsigned.wrappingSub a b = (overflowingSub a b).1 ∧
      Unsigned.overflowingSub a b = overflowingSub a b) ∧
    checkedAdd a b = (if modulus ≤ a.toNat + b.toNat then none else some (a + b)) ∧
    checkedSub a b = (if a.toNat < b.toNat then none else some (a - b)) ∧
    Unsigned.wrappingNeg a = -a ∧ (-a).toNat = (modulus - a.toNat) % modulus ∧
    a.increment.toNat = (a.toNat + 1) % modulus ∧
    (a.decrement.toNat : ℤ) = ((a.toNat : ℤ) - 1) % (modulus : ℤ) :=
  ⟨⟨toNat_add a b, overflowingAdd_snd_eq_true_iff a b⟩,
    ⟨toNat_sub_emod a b, overflowingSub_snd_eq_true_iff a b⟩,
    Word.addFlag_not_both a.hi b.hi (Word.toNat_ite_one_le _),
    Word.subFlag_not_both a.hi b.hi (Word.toNat_ite_one_le _),
    ⟨rfl, rfl, rfl, rfl⟩, ⟨rfl, rfl, rfl, rfl⟩, checkedAdd_eq a b, checkedSub_eq a b, rfl,
    toNat_neg a, toNat_increment a, toNat_decrement a⟩

/-- **Every product wraps modulo `2^128`.** The product keeps the low word of the low words'
full product; its high word is the high word of that product plus the low halves of the two
cross products, modulo `2^64`; and what it drops, the product of the high words, the high
halves of the cross products and the carry out of the high word, is a multiple of `2^128`. So
its value is `A · B` modulo `2^128`, and the update in place, the wrapping product, the product
operator of `Unsigned` and the product of a list answer the same. -/
theorem product_wraps (a b : U128) :
    (a * b).toNat = a.toNat * b.toNat % modulus ∧
    (a * b).lo = (Word.mulWide a.lo b.lo).1 ∧
    (a * b).hi.toNat = ((Word.mulWide a.lo b.lo).2.toNat + a.lo.toNat * b.hi.toNat % wordSize +
      a.hi.toNat * b.lo.toNat % wordSize) % wordSize ∧
    a.toNat * b.toNat = (a * b).toNat + modulus * (a.hi.toNat * b.hi.toNat +
      a.lo.toNat * b.hi.toNat / wordSize + a.hi.toNat * b.lo.toNat / wordSize +
      ((Word.mulWide a.lo b.lo).2.toNat + a.lo.toNat * b.hi.toNat % wordSize +
        a.hi.toNat * b.lo.toNat % wordSize) / wordSize) ∧
    UpdateOp.mul.apply a b = .ok (a * b) ∧ Unsigned.wrappingMul a b = a * b ∧
    Unsigned.mul a b = .ok (a * b) ∧
    ∀ xs : List U128, (prod xs).toNat = (xs.map toNat).prod % modulus :=
  ⟨toNat_mul a b, rfl, toNat_mul_hi a b, toNat_mul_add_dropped a b, rfl, rfl, rfl, toNat_prod⟩

end U128

end DoubleWord
