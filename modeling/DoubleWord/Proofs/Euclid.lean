import Mathlib
import DoubleWord.Unsigned.Algorithms
import DoubleWord.Unsigned.Native
import DoubleWord.Unsigned.Wide
import DoubleWord.Proofs.Division

/-!
# Euclid's loop

`Unsigned.gcd` runs Euclid's loop `while b ≠ 0: (a, b) := (b, a mod b)` for at most
`2 · width + 2` steps. This module shows that the bound is never what ends it, and that it ends
on the greatest common divisor.

The loop is stated over any unsigned type whose values lie below `2 ^ width` and whose
remainder by a nonzero divisor is the remainder of the numbers (`EuclidLaws`). Each step keeps
the greatest common divisor of the pair (`Nat.gcd_rec`). Two steps at least halve the second
operand: with `r = a mod b ≠ 0`, the operand two steps on is `b mod r`, and a remainder by
`0 < r ≤ b` is below `b / 2`. A second operand below `2^k` is therefore zero within `2k` steps
(`gcdSteps_eq`, an induction on `k`).

Two-word numbers have exact remainders on both division paths (`Proofs.Division`), and so do
native words of every width, so both run the loop to the same greatest common divisor. Main
statement: `euclid_gcd`.
-/

set_option autoImplicit false

namespace DoubleWord

namespace Unsigned

/-- **What Euclid's loop needs of an unsigned type:** every value lies below `2 ^ width`, and
the remainder by a nonzero divisor answers with the remainder of the numbers. -/
structure EuclidLaws (α : Type) [Unsigned α] : Prop where
  toNat_lt : ∀ a : α, toNat a < 2 ^ width α
  rem_exact : ∀ a b : α, toNat b ≠ 0 → ∃ r, rem a b = .ok r ∧ toNat r = toNat a % toNat b

variable {α : Type} [Unsigned α]

theorem isZero_iff {a : α} : isZero a = true ↔ toNat a = 0 := beq_iff_eq

/-! ## One step -/

/-- A zero second operand ends the loop on the first, whatever the fuel. -/
theorem gcdSteps_of_zero (fuel : Nat) (a : α) {b : α} (hb : toNat b = 0) :
    gcdSteps fuel a b = .ok a := by
  cases fuel with
  | zero => rfl
  | succ fuel => rw [gcdSteps, if_pos (isZero_iff.2 hb)]

/-- **One step of the loop:** a nonzero second operand gives way to the remainder. -/
theorem gcdSteps_succ {fuel : Nat} {a b r : α} (hb : toNat b ≠ 0) (hr : rem a b = .ok r) :
    gcdSteps (fuel + 1) a b = gcdSteps fuel b r := by
  rw [gcdSteps, if_neg (mt isZero_iff.1 hb), hr]
  rfl

/-- Euclid's invariant: the pair `(b, a mod b)` has the divisors of `(a, b)`. -/
private theorem gcd_mod_right (a b : Nat) : Nat.gcd b (a % b) = Nat.gcd a b := by
  rw [Nat.gcd_comm b, ← Nat.gcd_rec, Nat.gcd_comm]

/-- A remainder by `0 < m ≤ n` is below `n / 2`. -/
private theorem two_mul_mod_lt {m n : Nat} (hm : 0 < m) (hmn : m ≤ n) : 2 * (n % m) < n := by
  rcases Nat.lt_or_ge n (2 * m) with h | h
  · -- `m` goes into `n` once, and what is left, `n - m`, is below `m`
    have hsub : n % m = n - m := by
      rw [Nat.mod_eq_sub_mod hmn, Nat.mod_eq_of_lt (by omega)]
    omega
  · have := Nat.mod_lt n hm
    omega

/-! ## The whole loop -/

/-- **The loop ends within its fuel, on the greatest common divisor.** A second operand below
`2^k` reaches zero within `2k` steps. The induction is on `k`: past two steps whose second
operand is not zero, the operand is below half of what it was, and both steps keep the greatest
common divisor. -/
theorem gcdSteps_eq (laws : EuclidLaws α) {k fuel : Nat} (hfuel : 2 * k ≤ fuel) (a b : α)
    (hb : toNat b < 2 ^ k) :
    ∃ g, gcdSteps fuel a b = .ok g ∧ toNat g = Nat.gcd (toNat a) (toNat b) := by
  induction k generalizing fuel a b with
  | zero =>
    have hb0 : toNat b = 0 := by simpa using hb
    exact ⟨a, gcdSteps_of_zero fuel a hb0, by rw [hb0, Nat.gcd_zero_right]⟩
  | succ k ih =>
    by_cases hb0 : toNat b = 0
    · exact ⟨a, gcdSteps_of_zero fuel a hb0, by rw [hb0, Nat.gcd_zero_right]⟩
    obtain ⟨r, hr, hrv⟩ := laws.rem_exact a b hb0
    obtain ⟨f, rfl⟩ : ∃ f, fuel = f + 1 := ⟨fuel - 1, by omega⟩
    rw [gcdSteps_succ hb0 hr]
    by_cases hr0 : toNat r = 0
    · -- `b` divides `a`, and the next step ends the loop on `b`
      refine ⟨b, gcdSteps_of_zero f b hr0, ?_⟩
      rw [← gcd_mod_right, ← hrv, hr0, Nat.gcd_zero_right]
    obtain ⟨s, hs, hsv⟩ := laws.rem_exact b r hr0
    obtain ⟨f, rfl⟩ : ∃ f', f = f' + 1 := ⟨f - 1, by omega⟩
    rw [gcdSteps_succ hr0 hs]
    have hrb : toNat r ≤ toNat b := hrv ▸ (Nat.mod_lt _ (Nat.pos_of_ne_zero hb0)).le
    have hhalf : 2 * toNat s < toNat b := hsv ▸ two_mul_mod_lt (Nat.pos_of_ne_zero hr0) hrb
    have hf : 2 * k ≤ f := by omega
    obtain ⟨g, hg, hgv⟩ := ih hf r s (by rw [pow_succ] at hb; omega)
    refine ⟨g, hg, ?_⟩
    rw [hgv, hsv, gcd_mod_right, hrv, gcd_mod_right]

/-- **Euclid's loop computes the greatest common divisor** on every unsigned type that keeps
the laws: its `2 · width + 2` steps are enough. -/
theorem gcd_eq (laws : EuclidLaws α) (a b : α) :
    ∃ g, gcd a b = .ok g ∧ toNat g = Nat.gcd (toNat a) (toNat b) :=
  gcdSteps_eq laws (by omega) a b (laws.toNat_lt b)

end Unsigned

/-! ## Two-word numbers and native words -/

/-- Native words of every width keep Euclid's laws: their remainder is that of the numbers. -/
theorem Native.euclidLaws (w : Nat) : Unsigned.EuclidLaws (BitVec w) where
  toNat_lt a := a.isLt
  rem_exact a b hb := by
    refine ⟨_, (if_neg hb : Native.rem a b = _), ?_⟩
    show (BitVec.ofNat w _).toNat = _
    rw [BitVec.toNat_ofNat, Nat.mod_eq_of_lt (Nat.lt_of_le_of_lt (Nat.mod_le _ _) a.isLt)]
    rfl

namespace U128

/-- Two-word numbers keep Euclid's laws: their remainder is exact on both division paths. -/
theorem euclidLaws : Unsigned.EuclidLaws U128 where
  toNat_lt a := toNat_lt a
  rem_exact a b hb := by
    refine ⟨_, (rem_eq a b).trans (if_neg hb), ?_⟩
    show (ofNat _).toNat = _
    rw [toNat_ofNat, Nat.mod_eq_of_lt (Nat.lt_of_le_of_lt (Nat.mod_le _ _) (toNat_lt a))]
    rfl

theorem gcdSteps_eq_ofNat (a b : U128) {fuel : Nat} (hfuel : 2 * 128 ≤ fuel) :
    Unsigned.gcdSteps fuel a b = .ok (ofNat (Nat.gcd a.toNat b.toNat)) := by
  obtain ⟨g, hg, hgv⟩ := Unsigned.gcdSteps_eq euclidLaws hfuel a b (toNat_lt b)
  rw [hg, ← ofNat_toNat g]
  exact congrArg (fun n => Except.ok (ofNat n)) hgv

/-- **Euclid's loop on two-word values.** With any fuel of at least 256 steps, the loop has
ended, on the value whose number is `gcd(A, B)` (and `gcd(A, 0) = A`); `Unsigned.gcd`, with its
258 steps, answers so; and the same loop on native words of 128 bits answers the same number. -/
theorem euclid_gcd (a b : U128) :
    (∀ fuel, 2 * 128 ≤ fuel →
      Unsigned.gcdSteps fuel a b = .ok (ofNat (Nat.gcd a.toNat b.toNat))) ∧
    Unsigned.gcd a b = .ok (ofNat (Nat.gcd a.toNat b.toNat)) ∧
    Unsigned.gcd (BitVec.ofNat 128 a.toNat) (BitVec.ofNat 128 b.toNat) =
      .ok (BitVec.ofNat 128 (Nat.gcd a.toNat b.toNat)) := by
  refine ⟨fun fuel hfuel => gcdSteps_eq_ofNat a b hfuel, gcdSteps_eq_ofNat a b (by decide), ?_⟩
  obtain ⟨g, hg, hgv⟩ := Unsigned.gcd_eq (Native.euclidLaws 128) (BitVec.ofNat 128 a.toNat)
    (BitVec.ofNat 128 b.toNat)
  -- a value below `2^128` is the same number as a native word
  have hA : (BitVec.ofNat 128 a.toNat).toNat = a.toNat :=
    (BitVec.toNat_ofNat _ _).trans (Nat.mod_eq_of_lt (toNat_lt a))
  have hB : (BitVec.ofNat 128 b.toNat).toNat = b.toNat :=
    (BitVec.toNat_ofNat _ _).trans (Nat.mod_eq_of_lt (toNat_lt b))
  have hgv' : g.toNat = Nat.gcd a.toNat b.toNat := by
    rw [← hA, ← hB]
    exact hgv
  rw [hg]
  congr 1
  apply BitVec.eq_of_toNat_eq
  rw [hgv', BitVec.toNat_ofNat, Nat.mod_eq_of_lt (hgv' ▸ g.isLt)]

/-- The generic loop on `2^100 · 105` and `2^90 · 77`, whose greatest common divisor is
`2^90 · 7`. -/
theorem euclid_gcd_powers_of_two :
    2 * 128 ≤ 258 ∧ Unsigned.gcdSteps 258 (ofNat (2 ^ 100 * 105)) (ofNat (2 ^ 90 * 77)) =
      .ok (ofNat (2 ^ 90 * 7)) := by
  refine ⟨by decide, ?_⟩
  rw [(euclid_gcd _ _).1 258 (by decide), toNat_ofNat, toNat_ofNat]
  norm_num

end U128

end DoubleWord
