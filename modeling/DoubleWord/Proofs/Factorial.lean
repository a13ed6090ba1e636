import Mathlib
import DoubleWord.Calc.Eval
import DoubleWord.Proofs.Euclid

/-!
# Factorials modulo `2^128`

The calculator's factorial multiplies a two-word accumulator by the words `2, …, n`; the generic
one multiplies by `2, …, n` with the wrapping product of any unsigned type. Both stop multiplying
once the product is zero. Each keeps one invariant: **when the next factor is `i + 1`, the
accumulator stands for `i !`** modulo the width. A nonzero accumulator therefore means that
`2^128` does not divide `i !`, so `i < 130` and the next factor fits a word; a zero one stays
right, since `2^128` then divides every later factorial too.

Which factorials wrap to what is number theory: by Legendre's formula the power of two in `n !`
is `n - s₂(n)`, with `s₂` the binary digit sum. It is `120` at `127`, `127` at `128` and `129`,
and `128` at `130`, and it only grows with `n`. So `n !` is zero modulo `2^128` exactly from
`n = 130`, and it is `2^127` exactly for `n = 128` and `n = 129`.

Main statement: `factorial_wraps`.
-/

set_option autoImplicit false

namespace DoubleWord

open Nat

/-! ## The power of two in a factorial -/

section TwoAdic

/-- **Legendre's formula at two:** the power of two in `n !` is `n` less its binary digit sum. -/
theorem padicValNat_two_factorial (n : Nat) :
    padicValNat 2 n ! = n - (Nat.digits 2 n).sum := by
  have h := sub_one_mul_padicValNat_factorial (p := 2) n
  omega

/-- A power of two divides `n !` exactly up to the power of two in `n !`. -/
theorem two_pow_dvd_factorial_iff (k n : Nat) : 2 ^ k ∣ n ! ↔ k ≤ padicValNat 2 n ! :=
  padicValNat_dvd_iff_le (Nat.factorial_ne_zero n)

/-- **The first factorial a power of two divides.** When the power of two in `(m - 1)!` is below
`k` and the one in `m !` is not, `2^k` divides `n !` exactly from `n = m`, since each factorial
divides the later ones. -/
theorem two_pow_dvd_factorial_iff_le {k m : Nat} (hbelow : padicValNat 2 (m - 1)! < k)
    (hat : k ≤ padicValNat 2 m !) (n : Nat) : 2 ^ k ∣ n ! ↔ m ≤ n := by
  constructor
  · intro h
    by_contra hlt
    have hdvd : 2 ^ k ∣ (m - 1)! := h.trans (Nat.factorial_dvd_factorial (by omega))
    rw [two_pow_dvd_factorial_iff] at hdvd
    omega
  · intro h
    exact ((two_pow_dvd_factorial_iff k m).2 hat).trans (Nat.factorial_dvd_factorial h)

/-- `2^128` divides `n !` exactly from `n = 130`: the power of two in `129 !` is `127`, and in
`130 !` it is `128`. -/
theorem two_pow_128_dvd_factorial_iff (n : Nat) : 2 ^ 128 ∣ n ! ↔ 130 ≤ n := by
  apply two_pow_dvd_factorial_iff_le
  · rw [show 130 - 1 = 129 from rfl, padicValNat_two_factorial,
      show (Nat.digits 2 129).sum = 2 by norm_num]
    decide
  · rw [padicValNat_two_factorial, show (Nat.digits 2 130).sum = 2 by norm_num]

/-- `2^127` divides `n !` exactly from `n = 128`: the power of two in `127 !` is only `120`, and
in `128 !` it is `127`. -/
theorem two_pow_127_dvd_factorial_iff (n : Nat) : 2 ^ 127 ∣ n ! ↔ 128 ≤ n := by
  apply two_pow_dvd_factorial_iff_le
  · rw [show 128 - 1 = 127 from rfl, padicValNat_two_factorial,
      show (Nat.digits 2 127).sum = 7 by norm_num]
    decide
  · rw [padicValNat_two_factorial, show (Nat.digits 2 128).sum = 1 by norm_num]

/-- A number is `2^k` modulo `2^(k+1)` exactly when `2^k` divides it and `2^(k+1)` does not. -/
theorem mod_two_pow_succ_eq_iff (k m : Nat) :
    m % 2 ^ (k + 1) = 2 ^ k ↔ 2 ^ k ∣ m ∧ ¬ 2 ^ (k + 1) ∣ m := by
  have hpos : 0 < 2 ^ k := Nat.two_pow_pos k
  constructor
  · intro h
    refine ⟨?_, fun hdvd => ?_⟩
    · have hm := Nat.mod_add_div m (2 ^ (k + 1))
      rw [h, pow_succ, mul_assoc] at hm
      rw [← hm]
      exact Nat.dvd_add (Nat.dvd_refl _) (Nat.dvd_mul_right _ _)
    · rw [Nat.mod_eq_zero_of_dvd hdvd] at h
      omega
  · rintro ⟨⟨q, rfl⟩, hnot⟩
    have hodd : q % 2 = 1 := by
      by_contra heven
      exact hnot (by
        rw [pow_succ, Nat.mul_dvd_mul_iff_left hpos]
        exact Nat.dvd_of_mod_eq_zero (by omega))
    rw [pow_succ, Nat.mul_mod_mul_left, hodd, Nat.mul_one]

/-- **Which factorials wrap to zero:** exactly those from `130 !`. -/
theorem factorial_mod_modulus_eq_zero_iff (n : Nat) : n ! % modulus = 0 ↔ 130 ≤ n := by
  rw [← two_pow_128_dvd_factorial_iff, Nat.dvd_iff_mod_eq_zero]
  rfl

/-- **Which factorials wrap to `2^127`:** exactly `128 !` and `129 !`. -/
theorem factorial_mod_modulus_eq_half_iff (n : Nat) :
    n ! % modulus = 2 ^ 127 ↔ n = 128 ∨ n = 129 := by
  rw [show modulus = 2 ^ (127 + 1) from rfl, mod_two_pow_succ_eq_iff,
    two_pow_127_dvd_factorial_iff, two_pow_128_dvd_factorial_iff]
  omega

/-- Once `M` divides `i !` it divides every later factorial: a product that reached zero
modulo `M` stays right. -/
theorem zero_modEq_factorial_of_le {M i j : Nat} (h : 0 ≡ i ! [MOD M]) (hij : i ≤ j) :
    0 ≡ j ! [MOD M] :=
  (Nat.modEq_zero_iff_dvd.2
    ((Nat.modEq_zero_iff_dvd.1 h.symm).trans (Nat.factorial_dvd_factorial hij))).symm

/-- The products start at the factor `2`, after `0! = 1! = 1`. -/
theorem factorial_one_add_pred (n : Nat) : (1 + (n - 1)) ! = n ! := by
  rcases Nat.eq_zero_or_pos n with rfl | hn
  · rfl
  · rw [Nat.add_sub_cancel' hn]

end TwoAdic

/-! ## The calculator's factorial -/

namespace Calc

/-- **The invariant of the word product:** when the next factor is `i + 1` and the accumulator
stands for `i !`, after `count` more factors it stands for `(i + count) !`. The induction is on
the factors left. A zero accumulator ends the product, which is right because `2^128` then
divides `i !` and every later factorial; a nonzero one means `i < 130`, so the factor `i + 1`
is a word and the word product is exact. -/
theorem toNat_wordProduct_modEq {acc : U128} {i : Nat} (h : acc.toNat ≡ i ! [MOD modulus])
    (count : Nat) : (wordProduct acc (i + 1) count).toNat ≡ (i + count) ! [MOD modulus] := by
  induction count generalizing acc i with
  | zero => simpa [wordProduct] using h
  | succ count ih =>
    rw [wordProduct]
    split_ifs with hzero
    · have h0 : acc.toNat = 0 := U128.isZero_iff.1 hzero
      rw [h0]
      exact zero_modEq_factorial_of_le (h0 ▸ h) (by omega)
    · have hi : i < 130 := by
        by_contra hle
        have hdvd : modulus ∣ i ! := (two_pow_128_dvd_factorial_iff i).2 (by omega)
        have h0 : acc.toNat ≡ 0 [MOD modulus] := h.trans (Nat.modEq_zero_iff_dvd.2 hdvd)
        rw [Nat.ModEq, Nat.mod_eq_of_lt (U128.toNat_lt acc), Nat.zero_mod] at h0
        exact hzero (U128.isZero_iff.2 h0)
      have hfactor : (i + 1).toUInt64.toNat = i + 1 := by
        rw [Nat.toUInt64_eq, UInt64.toNat_ofNat']
        omega
      have hstep : (acc.mulWord (i + 1).toUInt64).toNat ≡ (i + 1) ! [MOD modulus] := by
        rw [U128.toNat_mulWord, hfactor, Nat.factorial_succ, Nat.mul_comm (i + 1)]
        exact (Nat.mod_modEq _ _).trans (h.mul_right _)
      have := ih hstep
      rwa [show i + 1 + count = i + (count + 1) by omega] at this

/-- **The calculator's factorial is `n !` modulo `2^128`**, for every `n`. -/
theorem toNat_factorial (n : Nat) : (factorial n).toNat = n ! % modulus := by
  have h := toNat_wordProduct_modEq (show U128.one.toNat ≡ 1 ! [MOD modulus] from rfl) (n - 1)
  rw [factorial_one_add_pred] at h
  rw [← Nat.mod_eq_of_lt (U128.toNat_lt (factorial n))]
  exact h

end Calc

/-! ## The generic factorial -/

namespace Unsigned

/-- **What wrapping products need of an unsigned type:** values lie below `2 ^ width`, `ofNat`
keeps a number modulo `2 ^ width`, and the wrapping product multiplies modulo `2 ^ width`. -/
structure WrappingLaws (α : Type) [Unsigned α] : Prop where
  toNat_lt : ∀ a : α, toNat a < 2 ^ width α
  toNat_ofNat : ∀ n, toNat (ofNat n : α) = n % 2 ^ width α
  toNat_wrappingMul : ∀ a b : α, toNat (wrappingMul a b) = toNat a * toNat b % 2 ^ width α

variable {α : Type} [Unsigned α]

/-- **The invariant of the generic product,** as for the calculator's: an accumulator standing
for `i !`, with `i + 1` the next factor, ends standing for `(i + count) !`. -/
theorem toNat_productFrom_modEq (laws : WrappingLaws α) {acc : α} {i : Nat}
    (h : toNat acc ≡ i ! [MOD 2 ^ width α]) (count : Nat) :
    toNat (productFrom acc (i + 1) count) ≡ (i + count) ! [MOD 2 ^ width α] := by
  induction count generalizing acc i with
  | zero => simpa [productFrom] using h
  | succ count ih =>
    rw [productFrom]
    split_ifs with hzero
    · have h0 : toNat acc = 0 := isZero_iff.1 hzero
      rw [h0]
      exact zero_modEq_factorial_of_le (h0 ▸ h) (by omega)
    · have hstep : toNat (wrappingMul acc (ofNat (i + 1) : α)) ≡ (i + 1) ! [MOD 2 ^ width α] := by
        rw [laws.toNat_wrappingMul, laws.toNat_ofNat, Nat.factorial_succ, Nat.mul_comm (i + 1)]
        exact (Nat.mod_modEq _ _).trans (((Nat.mod_modEq _ _).mul_left _).trans (h.mul_right _))
      have := ih hstep
      rwa [show i + 1 + count = i + (count + 1) by omega] at this

/-- **The generic factorial is `n !` modulo `2 ^ width`** on every type that keeps the laws. -/
theorem toNat_factorial (laws : WrappingLaws α) (n : Nat) :
    toNat (factorial n : α) = n ! % 2 ^ width α := by
  have hone : toNat (one : α) ≡ 1 ! [MOD 2 ^ width α] := by
    rw [one, laws.toNat_ofNat]
    exact Nat.mod_modEq _ _
  have h := toNat_productFrom_modEq laws hone (n - 1)
  rw [factorial_one_add_pred] at h
  rw [← Nat.mod_eq_of_lt (laws.toNat_lt (factorial n))]
  exact h

end Unsigned

/-- Native words of every width keep the wrapping laws. -/
theorem Native.wrappingLaws (w : Nat) : Unsigned.WrappingLaws (BitVec w) where
  toNat_lt a := a.isLt
  toNat_ofNat n := BitVec.toNat_ofNat n w
  toNat_wrappingMul a b := BitVec.toNat_mul a b

/-- Two-word numbers keep the wrapping laws. -/
theorem U128.wrappingLaws : Unsigned.WrappingLaws U128 where
  toNat_lt a := U128.toNat_lt a
  toNat_ofNat n := U128.toNat_ofNat n
  toNat_wrappingMul a b := U128.toNat_mul a b

/-- **Factorials wrap modulo `2^128`.** The calculator's factorial of every `n`, the product of
the words `2, …, n`, has the number `n ! mod 2^128`: it is zero exactly from `n = 130`, and
`2^127` exactly for `n = 128` and `n = 129`. The generic factorial on two-word numbers is the
generic factorial on native 128-bit words, converted. -/
theorem factorial_wraps (n : Nat) :
    (Calc.factorial n).toNat = n ! % modulus ∧
    (Calc.factorial n = U128.zero ↔ 130 ≤ n) ∧
    ((Calc.factorial n).toNat = 2 ^ 127 ↔ n = 128 ∨ n = 129) ∧
    (Unsigned.factorial n : U128) = U128.ofNat (Unsigned.factorial n : BitVec 128).toNat := by
  have hcalc := Calc.toNat_factorial n
  refine ⟨hcalc, ?_, by rw [hcalc, factorial_mod_modulus_eq_half_iff], ?_⟩
  · rw [← factorial_mod_modulus_eq_zero_iff, ← hcalc, ← U128.toNat_zero, U128.toNat_inj]
  · apply U128.ext_toNat
    have hU : (Unsigned.factorial n : U128).toNat = n ! % modulus :=
      Unsigned.toNat_factorial U128.wrappingLaws n
    have hB : (Unsigned.factorial n : BitVec 128).toNat = n ! % modulus :=
      Unsigned.toNat_factorial (Native.wrappingLaws 128) n
    rw [hU, U128.toNat_ofNat, hB, Nat.mod_mod]

end DoubleWord
