import Mathlib
import DoubleWord.Proofs.Numeral

/-!
# Reading any text as a numeral

`U128.fromRadix` reads every text, numeral or not, and this module says what it answers on
each: the base is checked first, then a leading `+` or `-` is split off, then an empty rest is
refused, and then the characters are read one by one. Main statement: `numeral_reading_exact`.

The specification is stated without the library's reading functions:

* `IsDigit case b c d` says that `c` is entry `d` of a digit table whose letters the case
  admits, with `d` below the base; `isDigit_iff` shows that reading recognises exactly these;
* `signLength` is the number of characters of a leading sign;
* the byte offset of a character is the byte length of the text before it, and the value of a
  text of digits is `Nat.ofDigits` of the digits, unbounded.

The reading loop is taken apart as the text is: digits that stand before the first character
that is not one (`readDigits_append_cons`, an induction on those digits), or digits only
(`readDigits_of_forall₂` of `Proofs.Numeral`, an induction that carries the value modulo
`2^128` through every step). A `-` then takes the value to its negation, `2^128` minus it.
-/

set_option autoImplicit false

namespace DoubleWord

namespace Text

/-- **The digits of a base, read off the tables:** `c` is the digit `d` of base `b` under the
letter case `case` when `d` is below `b` and `c` is entry `d` of a table whose letters `case`
admits: either table for `any`, only the lowercase one for `lower`, only the uppercase one for
`upper`. -/
def IsDigit (case : LetterCase) (b : Nat) (c : Char) (d : Nat) : Prop :=
  d < b ∧ ∃ u : Bool, (case = .any ∨ case = if u then .upper else .lower) ∧
    (digitTable u)[d]? = some c

/-- The characters a sign takes at the start of a text: one for a leading `+` or `-`. -/
def signLength (cs : List Char) : Nat :=
  if cs.head? = some '-' ∨ cs.head? = some '+' then 1 else 0

/-! ## Digits and signs -/

theorem length_digitTable (u : Bool) : (digitTable u).length = 36 := by
  cases u <;> rfl

theorem digitTable_getElem? {d : Nat} (hd : d < 36) (u : Bool) :
    (digitTable u)[d]? = some (digitChar u d) := by
  rw [← digitTable_getD hd u, List.getD_eq_getElem?_getD,
    List.getElem?_eq_getElem (by rw [length_digitTable]; exact hd)]
  rfl

private theorem char_le_iff {c d : Char} : c ≤ d ↔ c.toNat ≤ d.toNat := by
  rw [Char.le_def, UInt32.le_iff_toNat_le]
  rfl

/-- **A digit value gives back its character:** a character read as the digit `d` is the digit
`d` written in a case that the letter case admits. -/
theorem exists_digitChar_of_digitValue {case : LetterCase} {b : Nat} {c : Char} {d : Nat}
    (h : digitValue case b c = some d) :
    d < b ∧ ∃ u : Bool, (case = .any ∨ case = if u then .upper else .lower) ∧
      digitChar u d = c := by
  refine ⟨digitValue_lt h, ?_⟩
  simp only [digitValue, Option.filter_eq_some_iff] at h
  obtain ⟨hraw, -⟩ := h
  simp only [char_le_iff] at hraw
  -- in each range the value is the character's code less the range's offset, and writing the
  -- value adds the offset back
  split_ifs at hraw with h09 haz hAZ
  · obtain ⟨h0, h9⟩ : 48 ≤ c.toNat ∧ c.toNat ≤ 57 := h09
    cases hraw
    -- a decimal digit is written alike in both cases: take the one the letter case names
    refine ⟨case == .upper, by cases case <;> decide, ?_⟩
    rw [digitChar, if_pos (by omega), show 48 + (c.toNat - 48) = c.toNat by omega,
      Char.ofNat_toNat]
  · obtain ⟨ha, hz, hcase⟩ : 97 ≤ c.toNat ∧ c.toNat ≤ 122 ∧ case ≠ .upper := haz
    cases hraw
    refine ⟨false, by revert hcase; cases case <;> decide, ?_⟩
    rw [digitChar, if_neg (by omega), if_neg Bool.false_ne_true,
      show 97 + (c.toNat - 97 + 10) - 10 = c.toNat by omega, Char.ofNat_toNat]
  · obtain ⟨hA, hZ, hcase⟩ : 65 ≤ c.toNat ∧ c.toNat ≤ 90 ∧ case ≠ .lower := hAZ
    cases hraw
    refine ⟨true, by revert hcase; cases case <;> decide, ?_⟩
    rw [digitChar, if_neg (by omega), if_pos rfl,
      show 65 + (c.toNat - 65 + 10) - 10 = c.toNat by omega, Char.ofNat_toNat]

/-- **Reading recognises exactly the digits of the tables.** -/
theorem isDigit_iff {case : LetterCase} {b : Nat} (hb : b ≤ 36) {c : Char} {d : Nat} :
    IsDigit case b c d ↔ digitValue case b c = some d := by
  constructor
  · rintro ⟨hdb, u, hcase, hget⟩
    rw [digitTable_getElem? (by omega) u, Option.some_inj] at hget
    rw [← hget]
    exact digitValue_digitChar hb hdb u hcase
  · intro h
    obtain ⟨hdb, u, hcase, hc⟩ := exists_digitChar_of_digitValue h
    exact ⟨hdb, u, hcase, hc ▸ digitTable_getElem? (by omega) u⟩

theorem utf8Len_take_signLength (cs : List Char) :
    String.utf8Len (cs.take (signLength cs)) = signLength cs := by
  match cs with
  | [] => rfl
  | c :: rest =>
    unfold signLength
    split
    · rename_i hsign
      simp only [List.head?_cons, Option.some_inj] at hsign
      -- either sign is a single byte
      rcases hsign with rfl | rfl <;> rfl
    · rfl

/-- After the sign nothing is left exactly when the text is empty or a lone sign. -/
theorem drop_signLength_eq_nil_iff (cs : List Char) :
    cs.drop (signLength cs) = [] ↔ cs = [] ∨ cs = ['+'] ∨ cs = ['-'] := by
  match cs with
  | [] => simp
  | c :: rest =>
    unfold signLength
    split
    · rename_i hsign
      simp only [List.head?_cons, Option.some_inj] at hsign
      rcases hsign with rfl | rfl <;> simp
    · rename_i hsign
      simp only [List.head?_cons, Option.some_inj, not_or] at hsign
      simp [hsign.1, hsign.2]

theorem signLength_le_length (cs : List Char) : signLength cs ≤ cs.length := by
  match cs with
  | [] => decide
  | c :: rest =>
    unfold signLength
    split <;> simp

end Text

namespace U128

open Text

/-! ## The reading loop -/

/-- **Splitting the sign** drops the characters that `signLength` counts, and reads a leading `-`
as a negation. -/
theorem splitSign_eq (cs : List Char) :
    splitSign cs = (decide (cs.head? = some '-'), cs.drop (signLength cs)) := by
  match cs with
  | [] => rfl
  | c :: rest =>
    by_cases hminus : c = '-'
    · subst hminus
      rfl
    · by_cases hplus : c = '+'
      · subst hplus
        rfl
      · simp [splitSign, signLength, hminus, hplus]

/-- **The reading loop stops at the first character that is not a digit**, and names it with
its byte offset: the offset where the loop started plus the bytes of the digits before it. The
induction is on the digits before it. -/
theorem readDigits_append_cons {case : LetterCase} {b : Nat} (pre : List Char) (c : Char)
    (post : List Char) (hpre : ∀ x ∈ pre, (digitValue case b x).isSome)
    (hc : digitValue case b c = none) (index : Nat) (acc : U128) :
    readDigits case b (pre ++ c :: post) index acc =
      .error (.invalidDigit (index + String.utf8Len pre) c) := by
  induction pre generalizing index acc with
  | nil => simp [readDigits, hc]
  | cons x pre ih =>
    obtain ⟨d, hd⟩ := Option.isSome_iff_exists.1 (hpre x (List.mem_cons_self ..))
    rw [List.cons_append, readDigits, hd]
    dsimp only
    rw [ih (fun y hy => hpre y (List.mem_cons_of_mem _ hy)), String.utf8Len_cons, Nat.add_assoc,
      Nat.add_comm x.utf8Size]

theorem readDigits_ne_empty (case : LetterCase) (b : Nat) (cs : List Char) (index : Nat)
    (acc : U128) : readDigits case b cs index acc ≠ .error .empty := by
  induction cs generalizing index acc with
  | nil => simp [readDigits]
  | cons c cs ih =>
    rw [readDigits]
    split
    · exact ih _ _
    · simp

/-- **Reading a text in a base of `[2, 36]`:** after the sign, no digit at all is an empty
text; otherwise the digits are read from the sign's length on, and a `-` negates the value. -/
theorem fromRadix_of_validBase {b : Nat} (hb : validBase b = true) (s : String)
    (case : LetterCase) :
    fromRadix s b case =
      if s.toList.drop (signLength s.toList) = [] then .error .empty
      else (readDigits case b (s.toList.drop (signLength s.toList)) (signLength s.toList)
        zero).map (applySign (decide (s.toList.head? = some '-'))) := by
  have hlen := signLength_le_length s.toList
  simp only [fromRadix, hb, Bool.not_true, Bool.false_eq_true, if_false, splitSign_eq,
    List.isEmpty_iff, List.length_drop]
  rw [show s.toList.length - (s.toList.length - signLength s.toList) = signLength s.toList by
    omega]

/-! ## Every text -/

theorem toNat_applySign (negative : Bool) (x : U128) :
    ((applySign negative x).toNat : ℤ) =
      (if negative then -(x.toNat : ℤ) else x.toNat) % (modulus : ℤ) := by
  have hx := toNat_lt x
  cases negative with
  | false =>
    simp only [applySign, Bool.false_eq_true, if_false]
    simp only [modulus] at *
    omega
  | true =>
    simp only [applySign, if_true, toNat_neg]
    simp only [modulus] at *
    omega

theorem fromRadix_of_not_validBase {b : Nat} (hb : validBase b = false) (s : String)
    (case : LetterCase) : fromRadix s b case = .error (.invalidBase b) := by
  simp [fromRadix, hb]

/-- **Only a text with no digit after its sign is empty:** the reading loop never reports
an empty text. -/
theorem fromRadix_eq_empty_iff {b : Nat} (hb : validBase b = true) (s : String)
    (case : LetterCase) :
    fromRadix s b case = .error .empty ↔ s = "" ∨ s = "+" ∨ s = "-" := by
  have htext : (s = "" ∨ s = "+" ∨ s = "-") ↔
      s.toList = [] ∨ s.toList = ['+'] ∨ s.toList = ['-'] := by
    simp only [← String.toList_inj]
    rfl
  rw [htext, ← drop_signLength_eq_nil_iff, fromRadix_of_validBase hb]
  by_cases hnil : s.toList.drop (signLength s.toList) = []
  · simp [hnil]
  · rw [if_neg hnil, iff_false_right hnil]
    cases hread : readDigits case b (s.toList.drop (signLength s.toList)) (signLength s.toList)
      zero with
    | error e =>
      have hne := readDigits_ne_empty case b (s.toList.drop (signLength s.toList))
        (signLength s.toList) zero
      rw [hread] at hne
      intro h
      exact hne h
    | ok v => simp [Except.map]

/-- **A text with a character that is not a digit** is refused at the first such character
after the sign, named with its byte offset in the text. -/
theorem fromRadix_invalidDigit {b : Nat} (hb : validBase b = true) {s : String}
    {case : LetterCase} {pre : List Char} {c : Char} {post : List Char}
    (hsplit : s.toList.drop (signLength s.toList) = pre ++ c :: post)
    (hpre : ∀ x ∈ pre, ∃ d, IsDigit case b x d) (hc : ∀ d, ¬ IsDigit case b c d) :
    fromRadix s b case = .error (.invalidDigit
      (String.ofList (s.toList.take (signLength s.toList) ++ pre)).utf8ByteSize c) := by
  have hb36 := (validBase_iff.1 hb).2
  -- a character is a digit of the tables exactly when reading gives it a value
  have hpre' : ∀ x ∈ pre, (digitValue case b x).isSome := by
    intro x hx
    obtain ⟨d, hd⟩ := hpre x hx
    rw [(isDigit_iff hb36).1 hd]
    rfl
  have hc' : digitValue case b c = none := by
    rw [Option.eq_none_iff_forall_ne_some]
    intro d hd
    exact hc d ((isDigit_iff hb36).2 hd)
  rw [fromRadix_of_validBase hb, if_neg (by rw [hsplit]; simp), hsplit,
    readDigits_append_cons pre c post hpre' hc', String.utf8ByteSize_ofList,
    String.utf8Len_append, utf8Len_take_signLength]
  rfl

/-- **A text of digits after its sign** is read as their positional value, negated for a `-`,
modulo `2^128`. -/
theorem fromRadix_digits {b : Nat} (hb : validBase b = true) {s : String} {case : LetterCase}
    {ds : List Nat} (hds : List.Forall₂ (IsDigit case b) (s.toList.drop (signLength s.toList)) ds)
    (hne : ds ≠ []) :
    ∃ v, fromRadix s b case = .ok v ∧
      (v.toNat : ℤ) =
        (if s.toList.head? = some '-' then -((Nat.ofDigits b ds.reverse : ℕ) : ℤ)
          else ((Nat.ofDigits b ds.reverse : ℕ) : ℤ)) % (modulus : ℤ) := by
  have hb36 := (validBase_iff.1 hb).2
  have hread := readDigits_of_forall₂ hb36 (hds.imp fun _ _ => (isDigit_iff hb36).1)
    (signLength s.toList) zero
  have hnil : s.toList.drop (signLength s.toList) ≠ [] := by
    intro h
    rw [h, List.forall₂_nil_left_iff] at hds
    exact hne hds
  refine ⟨_, by rw [fromRadix_of_validBase hb, if_neg hnil, hread]; rfl, ?_⟩
  rw [toNat_applySign, toNat_zero, Nat.zero_mul, Nat.zero_add, toNat_ofNat]
  -- a reduction modulo `2^128` inside a reduction modulo `2^128` changes nothing
  by_cases hminus : s.toList.head? = some '-'
  · simp only [hminus, decide_true, if_true]
    simp only [modulus]
    omega
  · simp only [hminus, decide_false, Bool.false_eq_true, if_false]
    simp only [modulus]
    omega

/-- **What reading a text answers, in every case.** A base outside `[2, 36]` is refused whatever
the text. In a base of `[2, 36]`: the text is empty exactly when it is `""`, `"+"` or `"-"`;
otherwise, past a leading sign, the first character that is not a digit of the base in the
letter case asked is refused, named with its byte offset in the text; and a text of digits is
read as their exact positional value, negated when the text starts with `-`, modulo `2^128`. -/
theorem numeral_reading_exact (s : String) (b : Nat) (case : LetterCase) :
    (¬ (2 ≤ b ∧ b ≤ 36) → fromRadix s b case = .error (.invalidBase b)) ∧
    (2 ≤ b ∧ b ≤ 36 →
      (fromRadix s b case = .error .empty ↔ s = "" ∨ s = "+" ∨ s = "-") ∧
      (∀ (pre : List Char) (c : Char) (post : List Char),
        s.toList.drop (signLength s.toList) = pre ++ c :: post →
        (∀ x ∈ pre, ∃ d, IsDigit case b x d) → (∀ d, ¬ IsDigit case b c d) →
        fromRadix s b case = .error (.invalidDigit
          (String.ofList (s.toList.take (signLength s.toList) ++ pre)).utf8ByteSize c)) ∧
      (∀ ds : List Nat,
        List.Forall₂ (IsDigit case b) (s.toList.drop (signLength s.toList)) ds → ds ≠ [] →
        ∃ v, fromRadix s b case = .ok v ∧ (v.toNat : ℤ) =
          (if s.toList.head? = some '-' then -((Nat.ofDigits b ds.reverse : ℕ) : ℤ)
            else ((Nat.ofDigits b ds.reverse : ℕ) : ℤ)) % (modulus : ℤ))) := by
  refine ⟨fun hb => fromRadix_of_not_validBase (Bool.eq_false_iff.2 (mt validBase_iff.1 hb)) s
    case, fun hb => ?_⟩
  · have hvalid := validBase_iff.2 hb
    exact ⟨fromRadix_eq_empty_iff hvalid s case,
      fun _ _ _ hsplit hpre hc => fromRadix_invalidDigit hvalid hsplit hpre hc,
      fun _ hds hne => fromRadix_digits hvalid hds hne⟩

/-- Reading in base 37 is refused, `+` alone is empty, `-1z` stops at `z` two bytes in, and
`-12` is read as `2^128 - 12`. -/
theorem numeral_reading_exact_signed :
    fromRadix "12" 37 .any = .error (.invalidBase 37) ∧
    fromRadix "+" 16 .upper = .error .empty ∧
    fromRadix "-1z" 10 .any = .error (.invalidDigit 2 'z') ∧
    ∃ v, fromRadix "-12" 10 .lower = .ok v ∧ (v.toNat : ℤ) = -12 % (modulus : ℤ) := by
  have hb : 2 ≤ 10 ∧ 10 ≤ 36 := by decide
  have hone : IsDigit .any 10 '1' 1 := ⟨by decide, false, .inl rfl, rfl⟩
  have hz : ∀ d, ¬ IsDigit .any 10 'z' d := by
    intro d hd
    have hnone : digitValue .any 10 'z' = none := by decide
    rw [isDigit_iff (by decide), hnone] at hd
    exact absurd hd (Option.some_ne_none d).symm
  refine ⟨(numeral_reading_exact "12" 37 .any).1 (by decide),
    (((numeral_reading_exact "+" 16 .upper).2 (by decide)).1.2 (.inr (.inl rfl))), ?_, ?_⟩
  · rw [((numeral_reading_exact "-1z" 10 .any).2 hb).2.1 ['1'] 'z' [] rfl
      (fun x hx => ⟨1, List.mem_singleton.1 hx ▸ hone⟩)
      hz]
    rfl
  · obtain ⟨v, hv, hval⟩ := ((numeral_reading_exact "-12" 10 .lower).2 hb).2.2 [1, 2]
      (.cons ⟨by decide, false, .inr rfl, rfl⟩
        (.cons ⟨by decide, false, .inr rfl, rfl⟩ .nil))
      (by simp)
    exact ⟨v, hv, by rw [hval]; rfl⟩

end U128

end DoubleWord
