import Mathlib
import DoubleWord.Proofs.Word

/-!
# Restoring division by a word

The portable 128-by-64 division divides `lo + 2^64 · hi` by `d` one bit of `lo` at a time: the
remainder starts at `hi`, and each of the 64 steps doubles it, brings in the next bit of `lo`,
and takes `d` off when it fits. The remainder is a single word, so doubling it may shift a set
bit out; the step then takes `d` off anyway, and the wrapping subtraction stands for taking
`d` from the doubled remainder plus `2^64`.

* `toNat_restoreStep`: with the remainder below `d`, one step leaves the remainder of
  `R = 2r + bit` by `d` and appends the quotient bit `R / d`; `R` is below `2d`, and when a
  bit was shifted out `R` is at least `2^64`, above `d`.
* `toNat_restoreBits`: by induction on the bits left, `n` steps bring in the low `n` bits of
  `lo` below the remainder and the quotient so far, as one division would.
* `restoring_division_agrees_with_native`: below the bound `hi < d` the 64 steps answer the
  exact quotient and remainder, so the portable division and the native one, a guard around
  any division instruction that computes them, agree on every input, refusals included.
-/

set_option autoImplicit false

namespace DoubleWord

namespace Word

/-! ## One step -/

/-- The bit of `lo` that a restoring step brings in. -/
theorem toNat_shiftRight_and_one (lo : UInt64) {bit : Nat} (hbit : bit < 64) :
    ((lo >>> bit.toUInt64) &&& 1).toNat = lo.toNat / 2 ^ bit % 2 := by
  have hb : bit.toUInt64.toNat = bit := by
    rw [Nat.toUInt64_eq, UInt64.toNat_ofNat']
    omega
  rw [UInt64.toNat_and, UInt64.toNat_shiftRight, hb, Nat.mod_eq_of_lt hbit, UInt64.toNat_one,
    Nat.and_one_is_mod, Nat.shiftRight_eq_div_pow]

theorem toNat_shiftLeft_one_or_bit (r : UInt64) {b : UInt64} (hb : b.toNat < 2) :
    (r <<< 1 ||| b).toNat = (2 * r.toNat + b.toNat) % wordSize := by
  have hshift : (r <<< 1).toNat = r.toNat % 2 ^ 63 * 2 ^ 1 := by
    rw [UInt64.toNat_shiftLeft, UInt64.toNat_one, Nat.shiftLeft_eq, show 1 % 64 = 1 from rfl,
      Nat.pow_one]
    omega
  rw [UInt64.toNat_or, hshift, mul_two_pow_or (by simpa using hb)]
  simp only [wordSize]
  omega

theorem shiftRight_63_ne_zero_iff (r : UInt64) :
    (r >>> 63 != 0) = true ↔ 2 ^ 63 ≤ r.toNat := by
  have hr := r.toNat_lt
  rw [bne_iff_ne, ne_eq, ← UInt64.toNat_inj, UInt64.toNat_shiftRight, UInt64.toNat_zero,
    show (63 : UInt64).toNat % 64 = 63 from rfl, Nat.shiftRight_eq_div_pow]
  omega

/-- **One step of restoring division.** With the remainder `r` below `d` and the quotient below
`2^63`, the step leaves the remainder of `R = 2r + bit` by `d` and appends the quotient bit
`R / d`. -/
theorem toNat_restoreStep (lo d : UInt64) {bit : Nat} (hbit : bit < 64) {r q : UInt64}
    (hr : r.toNat < d.toNat) (hq : q.toNat < 2 ^ 63) :
    (restoreStep lo d bit (r, q)).1.toNat = (2 * r.toNat + lo.toNat / 2 ^ bit % 2) % d.toNat ∧
      (restoreStep lo d bit (r, q)).2.toNat =
        2 * q.toNat + (2 * r.toNat + lo.toNat / 2 ^ bit % 2) / d.toNat := by
  have hd := d.toNat_lt
  have hb : lo.toNat / 2 ^ bit % 2 < 2 := Nat.mod_lt _ (by decide)
  have hshift := toNat_shiftLeft_one_or_bit r (b := (lo >>> bit.toUInt64) &&& 1)
    (by rw [toNat_shiftRight_and_one lo hbit]; exact hb)
  rw [toNat_shiftRight_and_one lo hbit] at hshift
  have hcarry := shiftRight_63_ne_zero_iff r
  -- `R`, the remainder doubled with the new bit, is below twice the divisor
  generalize hR : 2 * r.toNat + lo.toNat / 2 ^ bit % 2 = R at hshift ⊢
  have hR2 : R < 2 * d.toNat := by omega
  unfold restoreStep
  dsimp only
  split
  · rename_i htake
    rw [Bool.or_eq_true, hcarry, decide_eq_true_iff, ge_iff_le, UInt64.le_iff_toNat_le,
      hshift] at htake
    -- a set bit shifted out makes `R` at least `2^64`, so the divisor is taken off either way
    have hle : d.toNat ≤ R := by
      simp only [wordSize] at *
      omega
    refine ⟨?_, ?_⟩
    · -- the wrapping subtraction from `R` modulo `2^64` is `R - d`, which is below `d`
      rw [UInt64.toNat_sub, hshift, Nat.mod_eq_sub_mod hle,
        Nat.mod_eq_of_lt (show R - d.toNat < d.toNat by omega)]
      simp only [wordSize] at *
      omega
    · have hone : R / d.toNat = 1 :=
        Nat.div_eq_of_lt_le (show 1 * d.toNat ≤ R by omega) (show R < (1 + 1) * d.toNat by omega)
      rw [toNat_shiftLeft_one_or_one hq, hone]
  · rename_i htake
    rw [Bool.or_eq_true, hcarry, decide_eq_true_iff, ge_iff_le, UInt64.le_iff_toNat_le,
      hshift] at htake
    have hlt : R < d.toNat := by
      simp only [wordSize] at *
      omega
    refine ⟨?_, ?_⟩
    · rw [hshift, Nat.mod_eq_of_lt hlt]
      simp only [wordSize] at *
      omega
    · rw [toNat_shiftLeft_one hq, Nat.div_eq_of_lt hlt, Nat.add_zero]

/-- The remainder a step leaves does not depend on the quotient so far. -/
theorem restoreStep_fst_eq (lo d : UInt64) (bit : Nat) (r q : UInt64) :
    (restoreStep lo d bit (r, q)).1 = (restoreStep lo d bit (r, 0)).1 := by
  simp only [restoreStep, apply_ite Prod.fst]

/-! ## The loop -/

/-- Bringing bit `n` of `lo` into the remainder: the remainder above the low `n + 1` bits of
`lo` is `R` above the low `n` bits, where `R` is twice the remainder plus bit `n`. -/
theorem shift_in_bit (r lo n : Nat) :
    r * 2 ^ (n + 1) + lo % 2 ^ (n + 1) = (2 * r + lo / 2 ^ n % 2) * 2 ^ n + lo % 2 ^ n := by
  rw [Nat.mod_pow_succ, pow_succ]
  ring

/-- Dividing `R · 2^n + L` by `d`: the quotient of `R` takes `2^n` places, and the rest is the
remainder of `R` in `R`'s place. -/
theorem div_mod_shifted {d : Nat} (hd : 0 < d) (R n L : Nat) :
    (R * 2 ^ n + L) / d = R / d * 2 ^ n + (R % d * 2 ^ n + L) / d ∧
      (R * 2 ^ n + L) % d = (R % d * 2 ^ n + L) % d := by
  have hsplit : R * 2 ^ n + L = R % d * 2 ^ n + L + d * (R / d * 2 ^ n) := by
    conv_lhs => rw [← Nat.mod_add_div R d]
    ring
  rw [hsplit, Nat.add_mul_div_left _ _ hd, Nat.add_mul_mod_self_left]
  exact ⟨Nat.add_comm _ _, rfl⟩

/-- **The loop of restoring division.** From a remainder below `d` and a quotient below
`2^(64 - n)`, the steps for the bits `n - 1` down to `0` divide the remainder followed by the low
`n` bits of `lo` by `d`, appending the quotient's `n` bits to the quotient so far. The induction
is on `n`; the step lemma carries the remainder below `d` and the quotient's bound. -/
theorem toNat_restoreBits (lo d : UInt64) (n : Nat) (hn : n ≤ 64) {r q : UInt64}
    (hr : r.toNat < d.toNat) (hq : q.toNat < 2 ^ (64 - n)) :
    (restoreBits lo d n (r, q)).1.toNat = (r.toNat * 2 ^ n + lo.toNat % 2 ^ n) % d.toNat ∧
      (restoreBits lo d n (r, q)).2.toNat =
        q.toNat * 2 ^ n + (r.toNat * 2 ^ n + lo.toNat % 2 ^ n) / d.toNat := by
  induction n generalizing r q with
  | zero =>
    simp only [restoreBits, pow_zero, Nat.mul_one, Nat.mod_one, Nat.add_zero,
      Nat.mod_eq_of_lt hr, Nat.div_eq_of_lt hr, and_self]
  | succ n ih =>
    have hd : 0 < d.toNat := by omega
    have hpow : 2 ^ (64 - n) = 2 * 2 ^ (64 - (n + 1)) := by
      rw [show 64 - n = 64 - (n + 1) + 1 by omega, pow_succ, Nat.mul_comm]
    have hq63 : q.toNat < 2 ^ 63 :=
      Nat.lt_of_lt_of_le hq (Nat.pow_le_pow_right (by decide) (by omega))
    obtain ⟨hr', hq'⟩ := toNat_restoreStep lo d (show n < 64 by omega) hr hq63
    generalize hR : 2 * r.toNat + lo.toNat / 2 ^ n % 2 = R at hr' hq'
    -- `R` is below twice the divisor, so the step's quotient bit is at most one
    have hR1 : R / d.toNat ≤ 1 :=
      Nat.le_of_lt_succ ((Nat.div_lt_iff_lt_mul hd).2 (by omega))
    obtain ⟨ih₁, ih₂⟩ := ih (by omega) (r := (restoreStep lo d n (r, q)).1)
      (q := (restoreStep lo d n (r, q)).2) (by rw [hr']; exact Nat.mod_lt _ hd)
      (by rw [hq', hpow]; omega)
    obtain ⟨hdiv, hmod⟩ := div_mod_shifted hd R n (lo.toNat % 2 ^ n)
    have hrun : restoreBits lo d (n + 1) (r, q) =
        restoreBits lo d n ((restoreStep lo d n (r, q)).1, (restoreStep lo d n (r, q)).2) := rfl
    rw [hrun, ih₁, ih₂, hr', hq', shift_in_bit, hR, hdiv, hmod]
    refine ⟨rfl, ?_⟩
    ring

/-- **Restoring division is exact where the quotient fits:** from the remainder `hi`, the 64
steps leave `join lo hi mod d` and the quotient `⌊join lo hi / d⌋`, as the exact division
does. -/
theorem divWideBitwise_eq {lo hi d : UInt64} (h : hi < d) :
    divWideBitwise lo hi d = divWide lo hi d := by
  have hhd : hi.toNat < d.toNat := UInt64.lt_iff_toNat_lt.1 h
  obtain ⟨hr, hq⟩ := toNat_restoreBits lo d 64 le_rfl hhd (q := 0) (by decide)
  obtain ⟨hq', hr'⟩ := @toNat_divWide lo _ _ h
  -- all 64 bits of `lo` are brought in below the starting remainder `hi`
  have hjoin : hi.toNat * 2 ^ 64 + lo.toNat % 2 ^ 64 = join lo hi := by
    rw [join_eq, Nat.mod_eq_of_lt lo.toNat_lt]
    simp only [wordSize]
    ring
  rw [hjoin] at hr hq
  rw [UInt64.toNat_zero, Nat.zero_mul, Nat.zero_add] at hq
  apply Prod.ext
  · apply UInt64.toNat_inj.1
    exact hq.trans hq'.symm
  · apply UInt64.toNat_inj.1
    exact hr.trans hr'.symm

/-! ## The native and the portable division -/

/-- **The portable and the native 128-by-64 divisions agree, and both are exact.** For every
division instruction that computes the floor quotient and the remainder of `lo + 2^64 · hi` by
`d` whenever `hi < d`, the guard around it and restoring division both refuse exactly the
inputs with `hi ≥ d`, a zero divisor among them, reporting a quotient too wide for a word, and
answer the same pair on all others: `⌊(lo + 2^64 · hi) / d⌋` and the remainder. Every step of
the loop keeps the remainder below `d`: it leaves the remainder of twice it plus the next bit,
also when doubling shifts a set bit out of the word. -/
theorem restoring_division_agrees_with_native
    (divInstr : UInt64 → UInt64 → UInt64 → UInt64 × UInt64)
    (hinstr : ∀ lo hi d : UInt64, hi < d →
      (divInstr lo hi d).1.toNat = join lo hi / d.toNat ∧
        (divInstr lo hi d).2.toNat = join lo hi % d.toNat)
    (lo hi d : UInt64) :
    divWideBitwiseChecked lo hi d =
      (if hi < d then
        .ok (UInt64.ofNat (join lo hi / d.toNat), UInt64.ofNat (join lo hi % d.toNat))
      else .error .quotientTooWide) ∧
    divWideGuarded divInstr lo hi d = divWideBitwiseChecked lo hi d ∧
    divWideChecked lo hi d = divWideBitwiseChecked lo hi d ∧
    (∀ (bit : Nat) (r q : UInt64), bit < 64 → r.toNat < d.toNat →
      (restoreStep lo d bit (r, q)).1.toNat =
        (2 * r.toNat + lo.toNat / 2 ^ bit % 2) % d.toNat ∧
      (restoreStep lo d bit (r, q)).1.toNat < d.toNat) ∧
    Fault.quotientTooWide.message = "128-by-64 division quotient does not fit in 64 bits" := by
  -- where the quotient fits, the instruction answers as the exact division does
  have hnative : hi < d → divInstr lo hi d = divWide lo hi d := by
    intro h
    obtain ⟨hq, hr⟩ := hinstr lo hi d h
    obtain ⟨hq', hr'⟩ := @toNat_divWide lo _ _ h
    exact Prod.ext (UInt64.toNat_inj.1 (hq.trans hq'.symm)) (UInt64.toNat_inj.1 (hr.trans hr'.symm))
  have hportable : divWideBitwiseChecked lo hi d = divWideChecked lo hi d := by
    unfold divWideBitwiseChecked divWideChecked divWideGuarded
    split
    · rename_i h
      rw [divWideBitwise_eq h]
    · rfl
  refine ⟨?_, ?_, hportable.symm, ?_, rfl⟩
  · rw [hportable]
    rfl
  · unfold divWideGuarded
    rw [hportable]
    unfold divWideChecked divWideGuarded
    split
    · rename_i h
      rw [hnative h]
    · rfl
  · intro bit r q hbit hr
    have hstep := (toNat_restoreStep lo d hbit hr (q := 0) (by decide)).1
    rw [restoreStep_fst_eq, hstep]
    exact ⟨rfl, Nat.mod_lt _ (by omega)⟩

/-- With the greatest divisor and high word just below it, both divisions answer
`(2^64 - 1, 2^64 - 2)`; a high word equal to the divisor is refused. -/
theorem restoring_division_agrees_with_native_max :
    divWideBitwiseChecked 18446744073709551615 18446744073709551614 18446744073709551615 =
      .ok (18446744073709551615, 18446744073709551614) ∧
    divWideGuarded divWide 18446744073709551615 18446744073709551614 18446744073709551615 =
      .ok (18446744073709551615, 18446744073709551614) ∧
    divWideBitwiseChecked 0 5 5 = .error .quotientTooWide := by
  have hexact : ∀ lo hi d : UInt64, hi < d →
      (divWide lo hi d).1.toNat = join lo hi / d.toNat ∧
        (divWide lo hi d).2.toNat = join lo hi % d.toNat :=
    fun _ _ _ h => toNat_divWide h
  obtain ⟨hmax, hnative, -⟩ := restoring_division_agrees_with_native divWide hexact
    18446744073709551615 18446744073709551614 18446744073709551615
  obtain ⟨hover, -⟩ := restoring_division_agrees_with_native divWide hexact 0 5 5
  refine ⟨?_, ?_, ?_⟩
  · rw [hmax]
    rfl
  · rw [hnative, hmax]
    rfl
  · rw [hover]
    rfl

end Word

end DoubleWord
