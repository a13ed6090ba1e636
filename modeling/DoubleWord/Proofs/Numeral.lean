import Mathlib
import DoubleWord.U128.Radix
import DoubleWord.Proofs.Division

/-!
# Numerals: writing is canonical and reading inverts it

The numeral of a value `x` in a base `b` of `[2, 36]` is its canonical base-`b` numeral: the
base-`b` digits of `x`, most significant first, written from the digit table of the case
asked, with no leading zero, and `0` for zero. It has at most 128 digits, so the 128
divisions that writing may make are always enough. Reading it back, in the same case or in
either, gives `x`; and reading any canonical numeral whose value is below `2^128` and writing
the result gives the numeral back. A base outside `[2, 36]` has no numerals.

The specification side is stated without the library's own digit functions:

* `digitTable` is the table of digits in each case;
* `numeralDigits b n` is the canonical digit list of `n`, read off Mathlib's `Nat.digits`;
* `IsNumeral` says that a text writes a digit list as a canonical numeral does.

The proofs follow the two loops. Writing (`digitsInto`) is one word division per digit, and
by induction on its bound, each step prepends the last digit of what is left
(`digitsInto_eq`). Reading (`readDigits`) is `acc · b + d` per digit modulo `2^128`, and by
induction on the digits it computes the positional value `Nat.ofDigits` modulo `2^128`
(`readDigits_map`).
-/

set_option autoImplicit false

namespace DoubleWord

namespace Text

/-! ## The specification: digit tables and canonical digits -/

/-- **The digit tables:** `0`–`9`, then `a`–`z`, or `A`–`Z` when `upper`. Digit `d` of a numeral
is written as the entry at `d`. -/
def digitTable (upper : Bool) : List Char :=
  if upper then "0123456789ABCDEFGHIJKLMNOPQRSTUVWXYZ".toList
  else "0123456789abcdefghijklmnopqrstuvwxyz".toList

/-- **The canonical digits** of `n` in base `b`, most significant first: no leading zero, and
`[0]` for zero. -/
def numeralDigits (b n : Nat) : List Nat :=
  if n = 0 then [0] else (Nat.digits b n).reverse

/-- **A canonical numeral of base `b`:** the text `cs` writes the digits `ds` from the table of
the case `upper`, each digit is below `b`, there is at least one, and the first is not `0`
unless it is the only one. -/
structure IsNumeral (b : Nat) (upper : Bool) (ds : List Nat) (cs : List Char) : Prop where
  written : cs = ds.map fun d => (digitTable upper).getD d ' '
  digit_lt : ∀ d ∈ ds, d < b
  ne_nil : ds ≠ []
  no_leading_zero : ds = [0] ∨ ds.head? ≠ some 0

theorem validBase_iff {b : Nat} : validBase b = true ↔ 2 ≤ b ∧ b ≤ 36 := by
  simp [validBase]

/-! ## The digits the library writes and reads -/

/-- The written digit of every value below 36 is the entry of the table. -/
private theorem digitTable_getD_all :
    ∀ d < 36, ∀ u : Bool, (digitTable u).getD d ' ' = digitChar u d := by
  decide

/-- Every written digit is read back, in its own case and in either. -/
private theorem digitValue_digitChar_all : ∀ d < 36, ∀ u : Bool,
    digitValue (if u then .upper else .lower) 36 (digitChar u d) = some d ∧
      digitValue .any 36 (digitChar u d) = some d := by
  decide

/-- A written digit is no sign, and it is `0` only for zero. -/
private theorem digitChar_shape_all : ∀ d < 36, ∀ u : Bool,
    (digitChar u d ≠ '-' ∧ digitChar u d ≠ '+') ∧ (digitChar u d = '0' ↔ d = 0) := by
  decide

theorem digitTable_getD {d : Nat} (hd : d < 36) (u : Bool) :
    (digitTable u).getD d ' ' = digitChar u d :=
  digitTable_getD_all d hd u

/-- **Reading accepts the digits writing emits,** in the case they were written in or in
either case, below every base above them. -/
theorem digitValue_digitChar {b d : Nat} (hb : b ≤ 36) (hd : d < b) (u : Bool)
    {case : LetterCase} (hcase : case = .any ∨ case = if u then .upper else .lower) :
    digitValue case b (digitChar u d) = some d := by
  have h36 : digitValue case 36 (digitChar u d) = some d := by
    rcases hcase with rfl | rfl
    · exact (digitValue_digitChar_all d (by omega) u).2
    · exact (digitValue_digitChar_all d (by omega) u).1
  -- both sides filter the same raw value: below 36 it is `d`, so below `b` too
  simp only [digitValue] at h36 ⊢
  rw [Option.filter_eq_some_iff] at h36
  obtain ⟨hraw, -⟩ := h36
  rw [hraw]
  simp [hd]

/-- A digit's value is below the base. -/
theorem digitValue_lt {case : LetterCase} {b : Nat} {c : Char} {d : Nat}
    (h : digitValue case b c = some d) : d < b := by
  simp only [digitValue, Option.filter_eq_some_iff] at h
  exact of_decide_eq_true h.2

theorem digitChar_ne_minus {d : Nat} (hd : d < 36) (u : Bool) : digitChar u d ≠ '-' :=
  (digitChar_shape_all d hd u).1.1

theorem digitChar_ne_plus {d : Nat} (hd : d < 36) (u : Bool) : digitChar u d ≠ '+' :=
  (digitChar_shape_all d hd u).1.2

theorem digitChar_eq_zero_iff {d : Nat} (hd : d < 36) (u : Bool) :
    digitChar u d = '0' ↔ d = 0 :=
  (digitChar_shape_all d hd u).2

/-! ## Canonical digits -/

section Canonical

variable {b : Nat}

theorem numeralDigits_ne_nil (b n : Nat) : numeralDigits b n ≠ [] := by
  unfold numeralDigits
  split
  · simp
  · rename_i hn
    simpa using Nat.digits_ne_nil_iff_ne_zero.2 hn

/-- A number below the base is its own single digit. -/
theorem numeralDigits_of_lt {n : Nat} (h : n < b) : numeralDigits b n = [n] := by
  unfold numeralDigits
  split
  · rename_i hn
    rw [hn]
  · rename_i hn
    rw [Nat.digits_of_lt b n hn h, List.reverse_singleton]

/-- **The last digit comes off first.** A number of at least the base writes the numeral of
its quotient by the base, then its remainder. -/
theorem numeralDigits_of_le (hb : 2 ≤ b) {n : Nat} (h : b ≤ n) :
    numeralDigits b n = numeralDigits b (n / b) ++ [n % b] := by
  have hn : n ≠ 0 := by omega
  have hq : n / b ≠ 0 := Nat.ne_of_gt (Nat.div_pos h (by omega))
  rw [numeralDigits, if_neg hn, numeralDigits, if_neg hq, Nat.digits_def' (by omega) (by omega),
    List.reverse_cons]

theorem numeralDigits_length_le (hb : 2 ≤ b) {n : Nat} (h : n < 2 ^ 128) :
    (numeralDigits b n).length ≤ 128 := by
  unfold numeralDigits
  split
  · simp
  · rw [List.length_reverse, Nat.digits_length_le_iff (by omega)]
    exact Nat.lt_of_lt_of_le h (Nat.pow_le_pow_left hb 128)

/-- The canonical digits of `n` have the value `n`. -/
theorem ofDigits_numeralDigits (b n : Nat) : Nat.ofDigits b (numeralDigits b n).reverse = n := by
  unfold numeralDigits
  split
  · rename_i hn
    simp [hn]
  · rw [List.reverse_reverse, Nat.ofDigits_digits]

/-- Only zero has the numeral `0`. -/
theorem numeralDigits_eq_zero_iff (b n : Nat) : numeralDigits b n = [0] ↔ n = 0 := by
  constructor
  · intro h0
    rw [← ofDigits_numeralDigits b n, h0]
    rfl
  · intro h0
    rw [h0]
    rfl

theorem numeralDigits_lt (hb : 2 ≤ b) {n d : Nat} (hd : d ∈ numeralDigits b n) : d < b := by
  unfold numeralDigits at hd
  split at hd
  · simp only [List.mem_singleton] at hd
    omega
  · exact Nat.digits_lt_base (by omega) (List.mem_reverse.1 hd)

/-- **The canonical digits written from the table are a canonical numeral.** -/
theorem isNumeral_numeralDigits (hb : 2 ≤ b) (hb36 : b ≤ 36) (u : Bool) (n : Nat) :
    IsNumeral b u (numeralDigits b n) ((numeralDigits b n).map (digitChar u)) where
  written := List.map_congr_left fun d hd =>
    (digitTable_getD (by have := numeralDigits_lt hb hd; omega) u).symm
  digit_lt _ hd := numeralDigits_lt hb hd
  ne_nil := numeralDigits_ne_nil b n
  no_leading_zero := by
    unfold numeralDigits
    split
    · exact .inl rfl
    · rename_i hn
      -- the first digit written is the last one `Nat.digits` finds, which is never zero
      refine .inr ?_
      rw [List.head?_reverse, List.getLast?_eq_some_getLast (Nat.digits_ne_nil_iff_ne_zero.2 hn)]
      simpa using Nat.getLast_digit_ne_zero b hn

/-- **A canonical numeral is the only one of its value:** its digits are the canonical digits of
the value they have. -/
theorem numeralDigits_ofDigits {u : Bool} {ds : List Nat} {cs : List Char} (hb : 2 ≤ b)
    (h : IsNumeral b u ds cs) : numeralDigits b (Nat.ofDigits b ds.reverse) = ds := by
  rcases h.no_leading_zero with rfl | hhead
  · simp [numeralDigits]
  · obtain ⟨d, rest, rfl⟩ := List.exists_cons_of_ne_nil h.ne_nil
    have hd : d ≠ 0 := by simpa using hhead
    have hall : ∀ l ∈ (d :: rest).reverse, l < b := fun l hl => h.digit_lt l (List.mem_reverse.1 hl)
    have hlast : ∀ h' : (d :: rest).reverse ≠ [], (d :: rest).reverse.getLast h' ≠ 0 := by
      intro h'
      simpa [List.getLast_reverse] using hd
    have hdig := Nat.digits_ofDigits b (by omega) _ hall hlast
    have hne : Nat.ofDigits b (d :: rest).reverse ≠ 0 := by
      intro h0
      rw [h0, Nat.digits_zero] at hdig
      simp at hdig
    rw [numeralDigits, if_neg hne, hdig, List.reverse_reverse]

/-- The first character of a canonical numeral is `0` only when the numeral is `0`. -/
theorem IsNumeral.head_ne_zero {u : Bool} {ds : List Nat} {cs : List Char} (hb36 : b ≤ 36)
    (h : IsNumeral b u ds cs) (hds : ds ≠ [0]) : cs.head? ≠ some '0' := by
  obtain ⟨d, rest, rfl⟩ := List.exists_cons_of_ne_nil h.ne_nil
  have hd : d < 36 := Nat.lt_of_lt_of_le (h.digit_lt d (List.mem_cons_self ..)) hb36
  have hd0 : d ≠ 0 := by
    rcases h.no_leading_zero with h0 | h0
    · exact absurd h0 hds
    · simpa using h0
  rw [h.written, List.map_cons, List.head?_cons, digitTable_getD hd]
  simpa [digitChar_eq_zero_iff hd] using hd0

end Canonical

end Text

namespace U128

open Text

/-! ## Writing -/

section Writing

variable {b : Nat}

private theorem toNat_base {b : Nat} (hb : b ≤ 36) : b.toUInt64.toNat = b := by
  rw [Nat.toUInt64_eq, UInt64.toNat_ofNat']
  omega

/-- **One step of writing.** With a nonzero base the checked division answers, and the step
writes its remainder as a digit, then stops or goes on with the quotient. -/
theorem digitsInto_succ {base : UInt64} (hne : base ≠ 0) (upper : Bool) (fuel : Nat) (x : U128)
    (acc : List Char) :
    digitsInto base upper (fuel + 1) x acc =
      if (x.divModWord base).1.isZero then
        .ok (digitChar upper (x.divModWord base).2.toNat :: acc)
      else
        digitsInto base upper fuel (x.divModWord base).1
          (digitChar upper (x.divModWord base).2.toNat :: acc) := by
  rw [digitsInto, divRemWord_of_ne_zero hne]
  rfl

/-- **The writing loop.** With a bound at least the number of digits, the loop puts the
canonical digits of `x` in front of what it has written, and no division faults. The induction
is on the bound; each step divides by the base once and writes the remainder as the digit
before the others. -/
theorem digitsInto_eq (hb : 2 ≤ b) (hb36 : b ≤ 36) (upper : Bool) (fuel : Nat) (x : U128)
    (acc : List Char) (hfuel : (numeralDigits b x.toNat).length ≤ fuel) :
    digitsInto b.toUInt64 upper fuel x acc =
      .ok ((numeralDigits b x.toNat).map (digitChar upper) ++ acc) := by
  induction fuel generalizing x acc with
  | zero =>
    have := List.length_pos_of_ne_nil (numeralDigits_ne_nil b x.toNat)
    omega
  | succ fuel ih =>
    have hne : b.toUInt64 ≠ 0 := by
      intro h0
      have := toNat_base hb36
      rw [h0, UInt64.toNat_zero] at this
      omega
    obtain ⟨hq, hr⟩ := toNat_divModWord hne x
    rw [toNat_base hb36] at hq hr
    rw [digitsInto_succ hne]
    by_cases hlt : x.toNat < b
    · -- a value below the base is the last digit to write
      have hzero : (x.divModWord b.toUInt64).1.isZero = true := by
        rw [isZero_iff, hq, Nat.div_eq_of_lt hlt]
      rw [if_pos hzero, hr, Nat.mod_eq_of_lt hlt, numeralDigits_of_lt hlt]
      rfl
    · have hle : b ≤ x.toNat := Nat.le_of_not_lt hlt
      have hsplit := numeralDigits_of_le hb hle
      have hnz : ¬ (x.divModWord b.toUInt64).1.isZero = true := by
        rw [isZero_iff, hq]
        exact Nat.ne_of_gt (Nat.div_pos hle (by omega))
      have hfuel' : (numeralDigits b (x.divModWord b.toUInt64).1.toNat).length ≤ fuel := by
        rw [hsplit, List.length_append, List.length_singleton] at hfuel
        rw [hq]
        omega
      rw [if_neg hnz, ih _ _ hfuel', hq, hr, hsplit]
      simp

/-- **Writing gives the canonical digits** of the value, in every base of `[2, 36]`. -/
theorem toRadix_eq (x : U128) (hb : validBase b = true) (upper : Bool) :
    toRadix x b upper =
      .ok (String.ofList ((numeralDigits b x.toNat).map (digitChar upper))) := by
  obtain ⟨hb2, hb36⟩ := validBase_iff.1 hb
  rw [toRadix, if_pos hb, digitsInto_eq hb2 hb36 upper 128 x []
    (numeralDigits_length_le hb2 (toNat_lt x)), List.append_nil]
  rfl

/-- A base outside `[2, 36]` has no numerals: writing stops with the base's fault. -/
theorem toRadix_of_not_validBase (x : U128) (hb : validBase b = false) (upper : Bool) :
    toRadix x b upper = .error (.badBase b) := by
  rw [toRadix, if_neg (by simp [hb])]

end Writing

/-! ## Reading -/

section Reading

variable {b : Nat}

/-- **One digit read:** the accumulator times the base plus the digit, modulo `2^128`. -/
theorem toNat_pushDigit (acc : U128) {d : Nat} (hb : b < 2 ^ 64) (hd : d < 2 ^ 64) :
    (pushDigit b acc d).toNat = (acc.toNat * b + d) % modulus := by
  have hb' : b.toUInt64.toNat = b := by
    rw [Nat.toUInt64_eq, UInt64.toNat_ofNat', Nat.mod_eq_of_lt hb]
  have hd' : d.toUInt64.toNat = d := by
    rw [Nat.toUInt64_eq, UInt64.toNat_ofNat', Nat.mod_eq_of_lt hd]
  rw [pushDigit, toNat_addWord, toNat_mulWord, hb', hd', Nat.mod_add_mod]

/-- **The reading loop.** Reading characters that are all digits puts their values below the
accumulator: the result is the accumulator shifted by as many places, plus the positional value
of the digits, modulo `2^128`. The induction is on the digits. -/
theorem readDigits_of_forall₂ {case : LetterCase} (hb : b ≤ 36) {cs : List Char}
    {ds : List Nat} (h : List.Forall₂ (fun c d => digitValue case b c = some d) cs ds)
    (index : Nat) (acc : U128) :
    readDigits case b cs index acc =
      .ok (ofNat (acc.toNat * b ^ ds.length + Nat.ofDigits b ds.reverse)) := by
  induction h generalizing index acc with
  | nil => simp [readDigits]
  | @cons c d cs ds hcd _ ih =>
    have hd : d < b := digitValue_lt hcd
    rw [readDigits, hcd]
    dsimp only
    rw [ih]
    congr 1
    apply ext_toNat
    rw [toNat_ofNat, toNat_ofNat, toNat_pushDigit acc (by omega) (by omega),
      List.reverse_cons, Nat.ofDigits_append, List.length_reverse, List.length_cons,
      Nat.ofDigits_singleton]
    -- the accumulator's reduction modulo `2^128` survives the shift by the later digits
    have hmod : (acc.toNat * b + d) % modulus * b ^ ds.length + Nat.ofDigits b ds.reverse ≡
        (acc.toNat * b + d) * b ^ ds.length + Nat.ofDigits b ds.reverse [MOD modulus] :=
      ((Nat.mod_modEq _ _).mul_right _).add_right _
    rw [hmod]
    congr 1
    ring

/-- Reading digits written from the table, in their own case or in either. -/
theorem readDigits_map (hb : b ≤ 36) (u : Bool) {case : LetterCase}
    (hcase : case = .any ∨ case = if u then .upper else .lower) (ds : List Nat)
    (hds : ∀ d ∈ ds, d < b) (index : Nat) (acc : U128) :
    readDigits case b (ds.map (digitChar u)) index acc =
      .ok (ofNat (acc.toNat * b ^ ds.length + Nat.ofDigits b ds.reverse)) :=
  readDigits_of_forall₂ hb (List.forall₂_map_left_iff.2 (List.forall₂_same.2 fun d hd =>
    digitValue_digitChar hb (hds d hd) u hcase)) index acc

/-- **Reading a written numeral.** Digits written from the table, none of them a sign and at
least one, are read as their positional value modulo `2^128`. -/
theorem fromRadix_map (hb : validBase b = true) (u : Bool) {case : LetterCase}
    (hcase : case = .any ∨ case = if u then .upper else .lower) {ds : List Nat}
    (hds : ∀ d ∈ ds, d < b) (hne : ds ≠ []) :
    fromRadix (String.ofList (ds.map (digitChar u))) b case =
      .ok (ofNat (Nat.ofDigits b ds.reverse)) := by
  obtain ⟨hb2, hb36⟩ := validBase_iff.1 hb
  obtain ⟨d, rest, rfl⟩ := List.exists_cons_of_ne_nil hne
  have hd : d < 36 := Nat.lt_of_lt_of_le (hds d (List.mem_cons_self ..)) hb36
  -- the first character is a digit, so there is no sign to split
  have hsign :
      splitSign ((d :: rest).map (digitChar u)) = (false, (d :: rest).map (digitChar u)) := by
    rw [List.map_cons, splitSign.eq_def]
    split
    · rename_i h
      exact absurd (List.cons.inj h).1 (digitChar_ne_minus hd u)
    · rename_i h
      exact absurd (List.cons.inj h).1 (digitChar_ne_plus hd u)
    · rfl
  simp only [fromRadix, hb, Bool.not_true, String.toList_ofList, hsign, Nat.sub_self]
  rw [if_neg (by simp), if_neg (by simp), readDigits_map hb36 u hcase _ hds, toNat_zero,
    Nat.zero_mul, Nat.zero_add]
  rfl

end Reading

/-! ## Writing and reading back -/

section RoundTrip

variable {b : Nat}

/-- **The numeral written is `0` exactly for zero:** its digits are `[0]` then, and a single
digit written as `0` is the digit zero. -/
theorem numeral_eq_zero_iff (hb2 : 2 ≤ b) (hb36 : b ≤ 36) (u : Bool) (x : U128) :
    String.ofList ((numeralDigits b x.toNat).map (digitChar u)) = "0" ↔ x.toNat = 0 := by
  rw [← numeralDigits_eq_zero_iff b, ← String.toList_inj, String.toList_ofList,
    show "0".toList = [digitChar u 0] by cases u <;> rfl]
  constructor
  · intro h0
    obtain ⟨d, hd, hdd⟩ := List.map_eq_singleton_iff.1 h0
    have hd36 : d < 36 := by
      have := numeralDigits_lt hb2 (show d ∈ numeralDigits b x.toNat by rw [hd]; simp)
      omega
    have hdd0 : digitChar u d = '0' := hdd.trans ((digitChar_eq_zero_iff (by decide) u).2 rfl)
    rw [hd, (digitChar_eq_zero_iff hd36 u).1 hdd0]
  · intro h0
    rw [h0]
    rfl

/-- **Reading back what was written** gives the value, in the case written or in either. -/
theorem fromRadix_numeral (hb : validBase b = true) (u : Bool) {case : LetterCase}
    (hcase : case = .any ∨ case = if u then .upper else .lower) (x : U128) :
    fromRadix (String.ofList ((numeralDigits b x.toNat).map (digitChar u))) b case = .ok x := by
  obtain ⟨hb2, -⟩ := validBase_iff.1 hb
  rw [fromRadix_map hb u hcase (fun d hd => numeralDigits_lt hb2 hd) (numeralDigits_ne_nil b _),
    ofDigits_numeralDigits, ofNat_toNat]

/-- **Writing back what was read.** A canonical numeral whose value is below `2^128` is read
as that value, and the value is written as the same numeral. -/
theorem toRadix_fromRadix_of_isNumeral (hb : validBase b = true) {u : Bool} {s : String}
    {ds : List Nat} (hs : IsNumeral b u ds s.toList) (hlt : Nat.ofDigits b ds.reverse < modulus) :
    fromRadix s b (if u then .upper else .lower) = .ok (ofNat (Nat.ofDigits b ds.reverse)) ∧
      toRadix (ofNat (Nat.ofDigits b ds.reverse)) b u = .ok s := by
  obtain ⟨hb2, hb36⟩ := validBase_iff.1 hb
  -- the text is the digits written by the library's own digit function
  have hwritten : s = String.ofList (ds.map (digitChar u)) := by
    rw [← String.toList_inj, String.toList_ofList, hs.written]
    exact List.map_congr_left fun d hd =>
      digitTable_getD (Nat.lt_of_lt_of_le (hs.digit_lt d hd) hb36) u
  constructor
  · rw [hwritten]
    exact fromRadix_map hb u (.inr rfl) hs.digit_lt hs.ne_nil
  · rw [toRadix_eq _ hb u, toNat_ofNat, Nat.mod_eq_of_lt hlt, numeralDigits_ofDigits hb2 hs,
      ← hwritten]

end RoundTrip

/-- **Numerals are canonical, and reading inverts writing.** In a base `b` of `[2, 36]`, the
numeral written for every value `x` is a canonical numeral whose digits are those of `x`:
digits from the table of the case asked, each below `b`, no leading `0` unless it is `0`
itself, which it is exactly for zero; and at most 128 of them. Reading it back, in that case
or in either, gives `x`. Conversely, reading any canonical numeral whose value is below
`2^128`, and writing the value read, gives the numeral back. A base outside `[2, 36]` is
refused by writing, with the message that names it. -/
theorem numeral_canonical_round_trip (b : Nat) (u : Bool) :
    (validBase b = true →
      (∀ x : U128, ∃ t : String, toRadix x b u = .ok t ∧
        IsNumeral b u (numeralDigits b x.toNat) t.toList ∧
        Nat.ofDigits b (numeralDigits b x.toNat).reverse = x.toNat ∧
        t.length ≤ 128 ∧ (t = "0" ↔ x.toNat = 0) ∧ (x.toNat ≠ 0 → t.toList.head? ≠ some '0') ∧
        fromRadix t b (if u then .upper else .lower) = .ok x ∧ fromRadix t b .any = .ok x) ∧
      (∀ (s : String) (ds : List Nat), IsNumeral b u ds s.toList →
        Nat.ofDigits b ds.reverse < modulus →
        ∃ x : U128, fromRadix s b (if u then .upper else .lower) = .ok x ∧
          toRadix x b u = .ok s)) ∧
    (validBase b = false → ∀ x : U128, toRadix x b u = .error (.badBase b) ∧
      (Fault.badBase b).message = "base must be in the range [2, 36], got " ++ toString b) := by
  refine ⟨fun hb => ⟨fun x => ?_, fun s ds hs hlt => ?_⟩,
    fun hb x => ⟨toRadix_of_not_validBase x hb u, rfl⟩⟩
  · obtain ⟨hb2, hb36⟩ := validBase_iff.1 hb
    have hnum := isNumeral_numeralDigits hb2 hb36 u x.toNat
    refine ⟨_, toRadix_eq x hb u, by rwa [String.toList_ofList], ofDigits_numeralDigits b x.toNat,
      ?_, numeral_eq_zero_iff hb2 hb36 u x, ?_, fromRadix_numeral hb u (.inr rfl) x,
      fromRadix_numeral hb u (.inl rfl) x⟩
    · rw [String.length_ofList, List.length_map]
      exact numeralDigits_length_le hb2 (toNat_lt x)
    · intro hx
      rw [String.toList_ofList]
      exact hnum.head_ne_zero hb36 (mt (numeralDigits_eq_zero_iff b _).1 hx)
  · exact ⟨_, toRadix_fromRadix_of_isNumeral hb hs hlt⟩

/-- The round trip in base 16 with uppercase letters: `255` is written `FF`, and `FF` is read
back and written again. -/
theorem numeral_canonical_round_trip_hex :
    (∃ t : String, toRadix (ofNat 255) 16 true = .ok t ∧
      fromRadix t 16 (if true then .upper else .lower) = .ok (ofNat 255)) ∧
    (∃ x : U128, fromRadix "FF" 16 (if true then .upper else .lower) = .ok x ∧
      toRadix x 16 true = .ok "FF") ∧
    toRadix (ofNat 255) 37 true = .error (.badBase 37) := by
  have hvalid : validBase 16 = true := by decide
  have hnum : IsNumeral 16 true [15, 15] "FF".toList :=
    { written := by decide
      digit_lt := by decide
      ne_nil := by decide
      no_leading_zero := by decide }
  have hhex := (numeral_canonical_round_trip 16 true).1 hvalid
  obtain ⟨t, ht, -, -, -, -, -, hread, -⟩ := hhex.1 (ofNat 255)
  exact ⟨⟨t, ht, hread⟩, hhex.2 "FF" [15, 15] hnum (by decide),
    ((numeral_canonical_round_trip 37 true).2 (by decide) (ofNat 255)).1⟩

end U128

end DoubleWord
