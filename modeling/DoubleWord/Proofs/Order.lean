import Mathlib
import DoubleWord.Proofs.MachineIntegers

/-!
# The order of two-word numbers

The order decides by the high words and, when they tie, by the low words. That is the order of
the numbers the values stand for (`compare_eq_compare_toNat`, in `Proofs.Arith`), and
everything else follows from it by looking through `toNat`:

* the order is a lawful total order: oriented and transitive (`Std.TransOrd`), and it says equal
  of equal values only (`Std.LawfulEqOrd`), the equality being the word-by-word one;
* `<` and `≤`, and the greater-than tests read off the order, are those of the numbers;
* the conversion to 128-bit integers carries it onto their order.

Long division's early exit and its take-or-keep steps compare with this order, and
`Proofs.Division` reads them through `compare_eq_lt_iff` and `compare_ne_lt_iff`.

Main statement: `compare_is_value_order`.
-/

set_option autoImplicit false

namespace DoubleWord

namespace U128

/-- The order of values through the ordering instance, as the order of their numbers. -/
theorem ord_compare_eq (a b : U128) : Ord.compare a b = Ord.compare a.toNat b.toNat :=
  compare_eq_compare_toNat a b

/-- Orientation and transitivity carry over from the numbers. -/
instance : Std.TransOrd U128 where
  eq_swap := by
    intro a b
    rw [ord_compare_eq, ord_compare_eq]
    exact Std.OrientedCmp.eq_swap
  isLE_trans := by
    intro a b c hab hbc
    rw [ord_compare_eq] at hab hbc ⊢
    exact Std.TransCmp.isLE_trans hab hbc

/-- Equal in the order is equal as values: two values of one number have the same words. -/
instance : Std.LawfulEqOrd U128 where
  compare_self := by
    intro a
    rw [ord_compare_eq]
    exact Std.ReflCmp.compare_self
  eq_of_compare := by
    intro a b h
    rw [ord_compare_eq] at h
    exact ext_toNat (Std.LawfulEqCmp.eq_of_compare h)

theorem lt_iff_toNat_lt {a b : U128} : a < b ↔ a.toNat < b.toNat :=
  compare_eq_lt_iff

theorem le_iff_toNat_le {a b : U128} : a ≤ b ↔ a.toNat ≤ b.toNat := by
  show (compare a b).isLE ↔ _
  rw [compare_eq_compare_toNat, Nat.isLE_compare]

/-- The order of 128-bit integers is the order of their numbers. -/
theorem compare_bitVec_eq (v w : BitVec 128) : Ord.compare v w = Ord.compare v.toNat w.toNat := by
  show compareOfLessAndEq v w = compareOfLessAndEq v.toNat w.toNat
  simp only [compareOfLessAndEq, BitVec.lt_def, ← BitVec.toNat_inj]

/-- **The order is carried onto 128-bit integers** by the conversion to them. -/
theorem compare_toU128 (a b : U128) : Ord.compare a.toU128 b.toU128 = compare a b := by
  rw [compare_bitVec_eq, toNat_toU128, toNat_toU128, compare_eq_compare_toNat]

/-- **The order of two-word numbers is the order of their values.** For every two values, the
order decided word by word is the order of their numbers; it says equal exactly when the values
are equal word for word; `<`, `≤`, and the greater-than tests read off it are those of the
numbers; and the conversion to 128-bit integers carries it onto theirs. So it is a lawful total
order, transitive and agreeing with equality. -/
theorem compare_is_value_order :
    (∀ a b : U128, compare a b = Ord.compare a.toNat b.toNat ∧
      (compare a b = .eq ↔ (a == b) = true) ∧
      (a < b ↔ a.toNat < b.toNat) ∧ (a ≤ b ↔ a.toNat ≤ b.toNat) ∧
      (compare a b = .gt ↔ b.toNat < a.toNat) ∧ ((compare a b).isGE ↔ b.toNat ≤ a.toNat) ∧
      compare a b = Ord.compare a.toU128 b.toU128) ∧
    Std.TransOrd U128 ∧ Std.LawfulEqOrd U128 := by
  refine ⟨fun a b => ⟨compare_eq_compare_toNat a b, ?_, lt_iff_toNat_lt, le_iff_toNat_le, ?_, ?_,
    (compare_toU128 a b).symm⟩, inferInstance, inferInstance⟩
  · rw [beq_iff_eq]
    exact Std.LawfulEqOrd.compare_eq_iff_eq (α := U128)
  · rw [compare_eq_compare_toNat, Nat.compare_eq_gt]
  · rw [compare_eq_compare_toNat, Nat.isGE_compare]

end U128

end DoubleWord
