import Mathlib
import DoubleWord.Unsigned.Wide
import DoubleWord.Proofs.Arith

/-!
# Square and multiply computes the wrapping power

`squareMultiply mul acc base exp` runs rounds of `PowState.round` until no bit of the exponent
is left. Two facts carry everything:

* **one round keeps the power a state stands for,** `acc · base ^ exp`, whenever `mul`
  multiplies the numbers modulo some `M`: a one bit moves a factor `base` from the power into
  the accumulator, and squaring the base halves the exponent (`value_round`);
* **the exponent loses one binary digit per round,** so the loop makes exactly `Nat.size exp`
  rounds, `⌊log₂ exp⌋ + 1` of them for a nonzero exponent (`run_eq_iterate`).

When the loop stops the exponent is zero, and the accumulator is the power. Two-word numbers
multiply modulo `2^128`, so their power is `X ^ e mod 2^128` (`wrapping_pow_exact`).
-/

set_option autoImplicit false

namespace DoubleWord

/-! ## Binary digits -/

/-- A nonzero number has one binary digit more than its half. -/
theorem size_eq_size_div_two_add_one {e : Nat} (he : e ≠ 0) :
    Nat.size e = Nat.size (e / 2) + 1 := by
  have hbit : Nat.bit e.bodd e.div2 ≠ 0 := by rwa [Nat.bit_bodd_div2]
  have hsize := Nat.size_bit hbit
  rw [Nat.bit_bodd_div2] at hsize
  rw [hsize, Nat.div2_val]

/-- A positive number has `⌊log₂ e⌋ + 1` binary digits. -/
theorem size_eq_log_add_one {e : Nat} (he : 0 < e) : Nat.size e = Nat.log 2 e + 1 := by
  apply le_antisymm
  · exact Nat.size_le.2 (Nat.lt_pow_succ_log_self (by decide) e)
  · exact Nat.lt_size.2 (Nat.pow_log_le_self 2 he.ne')

namespace PowState

variable {α : Type} (mul : α → α → α)

/-! ## The rounds of the loop -/

@[simp]
theorem exp_round (s : PowState α) : (round mul s).exp = s.exp / 2 := rfl

theorem run_of_exp_eq_zero {s : PowState α} (h : s.exp = 0) : run mul s = s := by
  rw [run, dif_pos h]

theorem run_of_exp_ne_zero {s : PowState α} (h : s.exp ≠ 0) :
    run mul s = run mul (round mul s) := by
  rw [run, dif_neg h]

/-- After `k` rounds the exponent has lost its `k` lowest bits. -/
theorem exp_iterate_round (k : Nat) (s : PowState α) :
    ((round mul)^[k] s).exp = s.exp / 2 ^ k := by
  induction k generalizing s with
  | zero => simp
  | succ k ih =>
    rw [Function.iterate_succ_apply, ih, exp_round, Nat.div_div_eq_div_mul, pow_succ']

/-- The loop goes on before round `k` exactly when the exponent has more than `k` bits. -/
theorem exp_iterate_ne_zero_iff (k : Nat) (s : PowState α) :
    ((round mul)^[k] s).exp ≠ 0 ↔ k < Nat.size s.exp := by
  rw [exp_iterate_round, Nat.lt_size, ne_eq, Nat.div_eq_zero_iff_lt (Nat.two_pow_pos k)]
  omega

/-- **The loop makes one round per binary digit** of the exponent. The induction is on the
exponent: a nonzero one gives way to its half, which has one digit less. -/
theorem run_eq_iterate (s : PowState α) : run mul s = (round mul)^[Nat.size s.exp] s := by
  induction h : s.exp using Nat.strong_induction_on generalizing s with
  | _ e ih =>
    by_cases he : e = 0
    · rw [run_of_exp_eq_zero mul (h.trans he), he, Nat.size_zero, Function.iterate_zero_apply]
    · have hhalf : (round mul s).exp = e / 2 := by rw [exp_round, h]
      rw [run_of_exp_ne_zero mul (h ▸ he),
        ih (e / 2) (Nat.div_lt_self (Nat.pos_of_ne_zero he) (by decide)) _ hhalf,
        size_eq_size_div_two_add_one he, Function.iterate_succ_apply]

/-- The loop stops with no bit left. -/
theorem exp_run (s : PowState α) : (run mul s).exp = 0 := by
  have := (exp_iterate_ne_zero_iff mul (Nat.size s.exp) s).not
  rw [run_eq_iterate]
  simpa using this

/-! ## What a state stands for -/

section Value

variable (v : α → Nat) {M : Nat}

/-- **The power a state stands for,** `acc · base ^ exp`, through the numbers `v` of the values. -/
def value (s : PowState α) : Nat :=
  v s.acc * v s.base ^ s.exp

/-- **One round keeps the power,** modulo `M`, when `mul` multiplies the numbers modulo `M`. -/
theorem value_round (hmul : ∀ a b, v (mul a b) ≡ v a * v b [MOD M]) (s : PowState α) :
    value v (round mul s) ≡ value v s [MOD M] := by
  -- the squared base to the halved exponent is the base to the even part of the exponent
  have hsq : v (mul s.base s.base) ^ (s.exp / 2) ≡ v s.base ^ (2 * (s.exp / 2)) [MOD M] := by
    rw [pow_mul, sq]
    exact (hmul _ _).pow _
  simp only [value, round]
  split_ifs with hodd
  · calc v (mul s.acc s.base) * v (mul s.base s.base) ^ (s.exp / 2)
        ≡ v s.acc * v s.base * v s.base ^ (2 * (s.exp / 2)) [MOD M] := (hmul _ _).mul hsq
      _ = v s.acc * v s.base ^ s.exp := by
        rw [mul_assoc, ← pow_succ', show 2 * (s.exp / 2) + 1 = s.exp by omega]
  · calc v s.acc * v (mul s.base s.base) ^ (s.exp / 2)
        ≡ v s.acc * v s.base ^ (2 * (s.exp / 2)) [MOD M] := hsq.mul_left _
      _ = v s.acc * v s.base ^ s.exp := by rw [show 2 * (s.exp / 2) = s.exp by omega]

/-- Every round of the loop keeps the power. -/
theorem value_iterate_round (hmul : ∀ a b, v (mul a b) ≡ v a * v b [MOD M]) (k : Nat)
    (s : PowState α) : value v ((round mul)^[k] s) ≡ value v s [MOD M] := by
  induction k generalizing s with
  | zero => rfl
  | succ k ih =>
    rw [Function.iterate_succ_apply]
    exact (ih _).trans (value_round mul v hmul s)

/-- The whole loop keeps the power. -/
theorem value_run (hmul : ∀ a b, v (mul a b) ≡ v a * v b [MOD M]) (s : PowState α) :
    value v (run mul s) ≡ value v s [MOD M] := by
  rw [run_eq_iterate]
  exact value_iterate_round mul v hmul _ s

/-- **Square and multiply computes the power** modulo `M`: when the loop stops the exponent is
zero, so the accumulator alone stands for the power. -/
theorem squareMultiply_modEq (hmul : ∀ a b, v (mul a b) ≡ v a * v b [MOD M]) (acc base : α)
    (exp : Nat) : v (squareMultiply mul acc base exp) ≡ v acc * v base ^ exp [MOD M] := by
  have hrun := value_run mul v hmul ⟨acc, base, exp⟩
  simpa [value, exp_run, squareMultiply] using hrun

end Value

end PowState

namespace U128

/-- The wrapping product multiplies the numbers modulo `2^128`. -/
theorem toNat_mul_modEq (a b : U128) : (a * b).toNat ≡ a.toNat * b.toNat [MOD modulus] := by
  rw [toNat_mul]
  exact Nat.mod_modEq _ _

/-- **The wrapping power:** `x ^ e` modulo `2^128`. -/
@[simp, grind =]
theorem toNat_pow (x : U128) (e : Nat) : (x.pow e).toNat = x.toNat ^ e % modulus := by
  have h := PowState.squareMultiply_modEq (· * ·) toNat toNat_mul_modEq one x e
  rw [toNat_one, one_mul] at h
  rw [pow, ← h, Nat.mod_eq_of_lt (toNat_lt _)]

/-- **Two-word powers wrap.** For every value `x` and exponent `e`, `x ^ e` (also through
`Unsigned.wrappingPow`) has the number `X ^ e mod 2^128`, and `x ^ 0 = 1` for every `x`. Each
round of the loop keeps `acc · base ^ exp ≡ X ^ e` modulo `2^128`; for a positive exponent the
loop makes `⌊log₂ e⌋ + 1` rounds, the exponent being nonzero before each and zero after the
last. -/
theorem wrapping_pow_exact (x : U128) (e : Nat) :
    (x.pow e).toNat = x.toNat ^ e % modulus ∧
    (Unsigned.wrappingPow x e : U128) = x.pow e ∧
    x.pow 0 = one ∧
    (∀ k, ((PowState.round (· * ·))^[k] (⟨one, x, e⟩ : PowState U128)).value toNat ≡
      x.toNat ^ e [MOD modulus]) ∧
    (0 < e →
      PowState.run (· * ·) (⟨one, x, e⟩ : PowState U128) =
        (PowState.round (· * ·))^[Nat.log 2 e + 1] ⟨one, x, e⟩ ∧
      (∀ k ≤ Nat.log 2 e,
        ((PowState.round (· * ·))^[k] (⟨one, x, e⟩ : PowState U128)).exp ≠ 0) ∧
      ((PowState.round (· * ·))^[Nat.log 2 e + 1] (⟨one, x, e⟩ : PowState U128)).exp = 0) := by
  refine ⟨toNat_pow x e, rfl, ?_, fun k => ?_, fun he => ?_⟩
  · apply ext_toNat
    rw [toNat_pow, pow_zero, toNat_one]
    exact Nat.mod_eq_of_lt (by decide)
  · have h := PowState.value_iterate_round (· * ·) toNat toNat_mul_modEq k ⟨one, x, e⟩
    simpa [PowState.value] using h
  · have hsize := size_eq_log_add_one he
    refine ⟨hsize ▸ PowState.run_eq_iterate _ _, fun k hk => ?_, ?_⟩
    · exact (PowState.exp_iterate_ne_zero_iff _ k _).2 (by rw [hsize]; omega)
    · have h := (PowState.exp_iterate_ne_zero_iff (· * ·) (Nat.log 2 e + 1) ⟨one, x, e⟩).not
      simpa [hsize] using h

/-- Three to the thirteenth: `13 = 1101₂` has four digits, so the loop makes four rounds. -/
theorem wrapping_pow_exact_thirteen :
    0 < 13 ∧
      PowState.run (· * ·) (⟨one, ofNat 3, 13⟩ : PowState U128) =
        (PowState.round (· * ·))^[Nat.log 2 13 + 1] ⟨one, ofNat 3, 13⟩ :=
  ⟨by decide, ((wrapping_pow_exact (ofNat 3) 13).2.2.2.2 (by decide)).1⟩

end U128

end DoubleWord
