import Mathlib
import DoubleWord.Proofs.Reading

/-!
# Reading the longest numeral at the start of a text

`U128.parsePrefix` is a second reader beside `fromRadix`: it skips blanks, takes a sign, then as
many digits as follow, and answers the value and the number of bytes it took. This module says
what it answers on every text, by taking the text apart into four parts, each said without the
reader (`PrefixSplit`):

* the blanks, the longest prefix of space, tab, line feed, form feed and carriage return;
* the sign, a `+` or `-` right after them, if there is one (`signLength` of `Proofs.Reading`);
* the digits, the longest run of digits of the base after it, in either letter case;
* the rest, which does not start with a digit.

Every text comes apart so (`exists_prefixSplit`), by spans of the list: maximal munch follows
from membership and the character at the boundary (`takeWhile_exact`). On a text taken apart,
the reader's fold over the digits is the strict reader's loop (`readDigits_eq_foldl`), so the
value is the one `fromRadix` reads from the sign and the digits, and every character before the
rest is a single byte, so the count of characters is the count of bytes. With no digit, the
reader names the character after the sign, or finds the text empty. A text that `fromRadix`
accepts has no blanks and no rest, so it is read whole. Main statement: `prefix_reading_exact`.
-/

set_option autoImplicit false

namespace DoubleWord

namespace Text

/-- The blanks a reader skips before a numeral: space, tab, line feed, form feed and carriage
return. A vertical tab is not among them. -/
def blankChars : List Char := [' ', '\t', '\n', '\x0c', '\r']

/-- **A text taken apart as a prefix reader reads it,** in base `b`: `cs` is `blanks`, then
`sign`, then `digits`, then `post`. The blanks are characters of `blankChars` and stop before
one that is not; the sign is the `+` or `-` that stands right after them, if any; the digits are
digits of base `b` in either case and stop before one that is not. -/
structure PrefixSplit (b : Nat) (cs blanks sign digits post : List Char) : Prop where
  eq : cs = blanks ++ sign ++ digits ++ post
  blank : ∀ c ∈ blanks, c ∈ blankChars
  blanks_end : ∀ c, (sign ++ digits ++ post).head? = some c → c ∉ blankChars
  sign_length : sign.length = signLength (sign ++ digits ++ post)
  digit : ∀ c ∈ digits, ∃ d, IsDigit .any b c d
  digits_end : ∀ c, post.head? = some c → ∀ d, ¬ IsDigit .any b c d

/-! ## Spans, bytes and blanks -/

/-- **Maximal munch of a span:** `takeWhile` takes a part whose members all pass, when the
character after it does not. -/
theorem takeWhile_exact {α : Type} {p : α → Bool} {body rest : List α}
    (inside : ∀ a ∈ body, p a = true) (boundary : ∀ a, rest.head? = some a → p a = false) :
    (body ++ rest).takeWhile p = body := by
  rw [List.takeWhile_append_of_pos inside]
  cases rest with
  | nil => simp
  | cons a rest => simp [boundary a rfl]

/-- A text of single-byte characters has as many bytes as characters. -/
theorem utf8Len_eq_length {cs : List Char} (h : ∀ c ∈ cs, c.utf8Size = 1) :
    String.utf8Len cs = cs.length := by
  induction cs with
  | nil => rfl
  | cons c cs ih =>
    rw [String.utf8Len_cons, List.length_cons, h c (List.mem_cons_self ..),
      ih fun x hx => h x (List.mem_cons_of_mem _ hx)]

theorem utf8Size_of_mem_blankChars {c : Char} (h : c ∈ blankChars) : c.utf8Size = 1 := by
  simp only [blankChars, List.mem_cons, List.not_mem_nil, or_false] at h
  rcases h with rfl | rfl | rfl | rfl | rfl <;> rfl

/-- Every digit of the tables is a single byte. -/
private theorem utf8Size_digitChar_all : ∀ d < 36, ∀ u : Bool, (digitChar u d).utf8Size = 1 := by
  decide

theorem utf8Size_of_isDigit {case : LetterCase} {b : Nat} (hb : b ≤ 36) {c : Char} {d : Nat}
    (h : IsDigit case b c d) : c.utf8Size = 1 := by
  obtain ⟨hdb, u, -, hc⟩ := exists_digitChar_of_digitValue ((isDigit_iff hb).1 h)
  rw [← hc]
  exact utf8Size_digitChar_all d (by omega) u

/-- No blank is a digit, in any base. -/
theorem digitValue_of_mem_blankChars {case : LetterCase} {b : Nat} {c : Char}
    (h : c ∈ blankChars) : digitValue case b c = none := by
  simp only [blankChars, List.mem_cons, List.not_mem_nil, or_false] at h
  rcases h with rfl | rfl | rfl | rfl | rfl <;> rfl

/-- The reader's blank test is membership in `blankChars`. -/
theorem isBlank_iff {c : Char} : U128.isBlank c = true ↔ c ∈ blankChars := by
  simp [U128.isBlank, blankChars, or_assoc]

/-! ## What the reader finds in a text taken apart -/

namespace PrefixSplit

variable {b : Nat} {cs blanks sign digits post : List Char}

/-- The reader skips exactly the blanks. -/
theorem takeWhile_isBlank (h : PrefixSplit b cs blanks sign digits post) :
    cs.takeWhile U128.isBlank = blanks := by
  rw [h.eq, List.append_assoc, List.append_assoc]
  apply takeWhile_exact
  · intro c hc
    exact isBlank_iff.2 (h.blank c hc)
  · intro c hc
    rw [← List.append_assoc] at hc
    exact Bool.eq_false_iff.2 (mt isBlank_iff.1 (h.blanks_end c hc))

/-- Past the blanks, the reader splits off exactly the sign. -/
theorem splitSign_drop (h : PrefixSplit b cs blanks sign digits post) :
    U128.splitSign (cs.drop blanks.length) =
      (decide ((sign ++ digits ++ post).head? = some '-'), digits ++ post) := by
  have hrest : cs.drop blanks.length = sign ++ digits ++ post := by
    rw [h.eq, List.append_assoc, List.append_assoc, List.drop_left, List.append_assoc]
  rw [hrest, U128.splitSign_eq, ← h.sign_length, List.append_assoc, List.drop_left]

/-- The reader gives every digit a value. -/
theorem isSome_digitValue (hb : b ≤ 36) (h : PrefixSplit b cs blanks sign digits post) :
    ∀ c ∈ digits, (digitValue .any b c).isSome := by
  intro c hc
  obtain ⟨d, hd⟩ := h.digit c hc
  rw [(isDigit_iff hb).1 hd]
  rfl

/-- Past the sign, the reader takes exactly the digits. -/
theorem takeWhile_digits (hb : b ≤ 36) (h : PrefixSplit b cs blanks sign digits post) :
    (digits ++ post).takeWhile (fun c => (digitValue .any b c).isSome) = digits := by
  apply takeWhile_exact (h.isSome_digitValue hb)
  · intro c hc
    rw [Option.isSome_eq_false_iff, Option.isNone_iff_eq_none, Option.eq_none_iff_forall_ne_some]
    intro d hd
    exact h.digits_end c hc d ((isDigit_iff hb).2 hd)

/-- A sign is one byte, or none. -/
theorem utf8Len_sign (h : PrefixSplit b cs blanks sign digits post) :
    String.utf8Len sign = sign.length := by
  have hsign : sign = (sign ++ digits ++ post).take (signLength (sign ++ digits ++ post)) := by
    rw [← h.sign_length, List.append_assoc, List.take_left]
  calc String.utf8Len sign
      = String.utf8Len ((sign ++ digits ++ post).take (signLength (sign ++ digits ++ post))) :=
        congrArg String.utf8Len hsign
    _ = sign.length := by rw [utf8Len_take_signLength, h.sign_length]

theorem utf8Len_blanks_sign (h : PrefixSplit b cs blanks sign digits post) :
    String.utf8Len (blanks ++ sign) = blanks.length + sign.length := by
  rw [String.utf8Len_append, h.utf8Len_sign,
    utf8Len_eq_length fun c hc => utf8Size_of_mem_blankChars (h.blank c hc)]

/-- Blanks, sign and digits are single bytes, so their count of bytes is their count of
characters. -/
theorem utf8Len_parts (hb : b ≤ 36) (h : PrefixSplit b cs blanks sign digits post) :
    String.utf8Len (blanks ++ sign ++ digits) = blanks.length + sign.length + digits.length := by
  have hdigits : String.utf8Len digits = digits.length := by
    apply utf8Len_eq_length
    intro c hc
    obtain ⟨d, hd⟩ := h.digit c hc
    exact utf8Size_of_isDigit hb hd
  rw [String.utf8Len_append, h.utf8Len_blanks_sign, hdigits]

/-- The digits start after the blanks and the sign. -/
theorem start_eq (h : PrefixSplit b cs blanks sign digits post) :
    cs.length - (digits ++ post).length = blanks.length + sign.length := by
  rw [h.eq]
  simp only [List.length_append]
  omega

end PrefixSplit

/-- **Every text comes apart so,** in every base of `[2, 36]`: the parts are found by spans of
the list, maximal munch from membership and the next character. -/
theorem exists_prefixSplit {b : Nat} (hb : b ≤ 36) (cs : List Char) :
    ∃ blanks sign digits post, PrefixSplit b cs blanks sign digits post := by
  have hdig : ∀ c, (digitValue .any b c).isSome = false → ∀ d, ¬ IsDigit .any b c d := by
    intro c hc d hd
    rw [(isDigit_iff hb).1 hd] at hc
    cases hc
  set rest := cs.dropWhile (fun c => decide (c ∈ blankChars)) with hrest
  set after := rest.drop (signLength rest)
  refine ⟨cs.takeWhile (fun c => decide (c ∈ blankChars)), rest.take (signLength rest),
    after.takeWhile (fun c => (digitValue .any b c).isSome),
    after.dropWhile (fun c => (digitValue .any b c).isSome), ?_⟩
  have hparts : rest.take (signLength rest) ++
      after.takeWhile (fun c => (digitValue .any b c).isSome) ++
      after.dropWhile (fun c => (digitValue .any b c).isSome) = rest := by
    rw [List.append_assoc, List.takeWhile_append_dropWhile, List.take_append_drop]
  refine ⟨?_, ?_, ?_, ?_, ?_, ?_⟩
  · rw [List.append_assoc, List.append_assoc, ← List.append_assoc (List.take _ _), hparts,
      List.takeWhile_append_dropWhile]
  · intro c hc
    simpa using List.mem_takeWhile_imp hc
  · intro c hc
    rw [hparts] at hc
    have hnot := List.head?_dropWhile_not (fun c => decide (c ∈ blankChars)) cs
    rw [← hrest, hc] at hnot
    simpa using hnot
  · rw [hparts, List.length_take, Nat.min_eq_left (signLength_le_length rest)]
  · intro c hc
    have hsome := List.mem_takeWhile_imp hc
    obtain ⟨d, hd⟩ := Option.isSome_iff_exists.1 hsome
    exact ⟨d, (isDigit_iff hb).2 hd⟩
  · intro c hc
    have hnot := List.head?_dropWhile_not (fun c => (digitValue .any b c).isSome) after
    rw [hc] at hnot
    exact hdig c hnot

/-- **A sign and digits, with nothing before or after,** come apart as such: no blank, the
sign, the digits, no rest. -/
theorem PrefixSplit.of_sign_digits {b : Nat} {cs : List Char} (hb : b ≤ 36)
    (hdigits : ∀ c ∈ cs.drop (signLength cs), (digitValue .any b c).isSome) :
    PrefixSplit b cs [] (cs.take (signLength cs)) (cs.drop (signLength cs)) [] := by
  have hparts : cs.take (signLength cs) ++ cs.drop (signLength cs) ++ [] = cs := by
    rw [List.append_nil, List.take_append_drop]
  refine ⟨by rw [List.nil_append, hparts], by simp, ?_, ?_, ?_, by simp⟩
  · intro c hc hblank
    rw [hparts] at hc
    have hnone : digitValue .any b c = none := digitValue_of_mem_blankChars hblank
    by_cases hsign : cs.head? = some '-' ∨ cs.head? = some '+'
    · -- a sign is no blank
      obtain rfl | rfl : c = '-' ∨ c = '+' := by simpa [hc] using hsign
      all_goals simp [blankChars] at hblank
    · -- with no sign, the first character is a digit, and no digit is a blank
      have hzero : signLength cs = 0 := if_neg hsign
      have hmem : c ∈ cs.drop (signLength cs) := by
        rw [hzero, List.drop_zero]
        exact List.mem_of_mem_head? hc
      have hsome := hdigits c hmem
      rw [hnone] at hsome
      cases hsome
  · rw [hparts, List.length_take, Nat.min_eq_left (signLength_le_length _)]
  · intro c hc
    obtain ⟨d, hd⟩ := Option.isSome_iff_exists.1 (hdigits c hc)
    exact ⟨d, (isDigit_iff hb).2 hd⟩

end Text

namespace U128

open Text

variable {b : Nat}

/-! ## The prefix reader and the strict reader -/

/-- **On digits alone, the strict reading loop is a fold** of `pushDigit` over their values,
the fold the prefix reader runs. -/
theorem readDigits_eq_foldl {case : LetterCase} {cs : List Char}
    (hcs : ∀ c ∈ cs, (digitValue case b c).isSome) (index : Nat) (acc : U128) :
    readDigits case b cs index acc =
      .ok (cs.foldl (fun acc c => pushDigit b acc ((digitValue case b c).getD 0)) acc) := by
  induction cs generalizing index acc with
  | nil => rfl
  | cons c cs ih =>
    obtain ⟨d, hd⟩ := Option.isSome_iff_exists.1 (hcs c (List.mem_cons_self ..))
    rw [readDigits, hd]
    dsimp only
    rw [ih (fun x hx => hcs x (List.mem_cons_of_mem _ hx)), List.foldl_cons, hd]
    rfl

/-- The strict reading loop answers only on a text of digits. -/
theorem isSome_of_readDigits_eq_ok {case : LetterCase} {cs : List Char} {index : Nat}
    {acc v : U128} (h : readDigits case b cs index acc = .ok v) :
    ∀ c ∈ cs, (digitValue case b c).isSome := by
  induction cs generalizing index acc with
  | nil => simp
  | cons c cs ih =>
    rw [readDigits] at h
    cases hd : digitValue case b c with
    | none =>
      rw [hd] at h
      cases h
    | some d =>
      rw [hd] at h
      intro x hx
      rcases List.mem_cons.1 hx with rfl | hx
      · rw [hd]
        rfl
      · exact ih h x hx

section Split

variable {s : String} {blanks sign digits post : List Char}

/-- With digits after the sign, the reader answers their fold, signed, and the number of
characters up to the rest. -/
theorem parsePrefix_of_split_digits (hb : validBase b = true)
    (h : PrefixSplit b s.toList blanks sign digits post) (hne : digits ≠ []) :
    parsePrefix s b =
      .ok (applySign (decide ((sign ++ digits ++ post).head? = some '-'))
          (digits.foldl (fun acc c => pushDigit b acc ((digitValue .any b c).getD 0)) zero),
        blanks.length + sign.length + digits.length) := by
  have hb36 := (validBase_iff.1 hb).2
  obtain ⟨d, ds, rfl⟩ := List.exists_cons_of_ne_nil hne
  simp only [parsePrefix, hb, Bool.not_true, Bool.false_eq_true, if_false,
    h.takeWhile_isBlank, h.splitSign_drop, h.takeWhile_digits hb36, h.start_eq]

/-- With nothing after the sign, the text is empty. -/
theorem parsePrefix_of_split_empty (hb : validBase b = true)
    (h : PrefixSplit b s.toList blanks sign [] []) : parsePrefix s b = .error .empty := by
  simp only [parsePrefix, hb, Bool.not_true, Bool.false_eq_true, if_false,
    h.takeWhile_isBlank, h.splitSign_drop, List.append_nil, List.takeWhile_nil]

/-- With a character after the sign that is not a digit, the reader names it, at its offset. -/
theorem parsePrefix_of_split_invalidDigit (hb : validBase b = true) {c : Char} {rest : List Char}
    (h : PrefixSplit b s.toList blanks sign [] (c :: rest)) :
    parsePrefix s b = .error (.invalidDigit (blanks.length + sign.length) c) := by
  have hb36 := (validBase_iff.1 hb).2
  -- no digit follows the sign, and the digits would have started at the first character left
  have htake := h.takeWhile_digits hb36
  have hstart := h.start_eq
  rw [List.nil_append] at htake hstart
  simp only [parsePrefix, hb, Bool.not_true, Bool.false_eq_true, if_false,
    h.takeWhile_isBlank, h.splitSign_drop, List.nil_append, htake, hstart]

/-- **The strict reader on what the prefix reader took:** the sign and the digits are read as a
whole text to the same value. -/
theorem fromRadix_of_split {cs : List Char} (hb : validBase b = true)
    (h : PrefixSplit b cs blanks sign digits post) (hne : digits ≠ []) :
    fromRadix (String.ofList (sign ++ digits)) b .any =
      .ok (applySign (decide ((sign ++ digits ++ post).head? = some '-'))
        (digits.foldl (fun acc c => pushDigit b acc ((digitValue .any b c).getD 0)) zero)) := by
  have hb36 := (validBase_iff.1 hb).2
  -- the sign and the digits start as the whole rest does
  have hhead : (sign ++ digits).head? = (sign ++ digits ++ post).head? :=
    (List.head?_append_of_ne_nil _ (by simp [hne])).symm
  have hsign : signLength (sign ++ digits) = sign.length := by
    rw [h.sign_length]
    unfold signLength
    rw [hhead]
  rw [fromRadix_of_validBase hb, String.toList_ofList, hsign, List.drop_left, if_neg hne,
    readDigits_eq_foldl (h.isSome_digitValue hb36), hhead]
  rfl

/-- **On digits, the prefix reader agrees with the strict reader** on the text it took, and
says how many bytes that text has with the blanks before it. -/
theorem parsePrefix_eq_fromRadix (hb : validBase b = true)
    (h : PrefixSplit b s.toList blanks sign digits post) (hne : digits ≠ []) :
    ∃ v, fromRadix (String.ofList (sign ++ digits)) b .any = .ok v ∧
      parsePrefix s b = .ok (v, String.utf8Len (blanks ++ sign ++ digits)) :=
  ⟨_, fromRadix_of_split hb h hne, by
    rw [parsePrefix_of_split_digits hb h hne, h.utf8Len_parts (validBase_iff.1 hb).2]⟩

end Split

/-- A base with no digits is refused, whatever the text. -/
theorem parsePrefix_of_not_validBase (s : String) (hb : validBase b = false) :
    parsePrefix s b = .error (.invalidBase b) := by
  simp [parsePrefix, hb]

/-- A text the strict reader accepts has a base with digits, and after its sign it has
digits, at least one, and nothing else. -/
theorem digits_of_fromRadix_eq_ok {s : String} {v : U128} (h : fromRadix s b .any = .ok v) :
    validBase b = true ∧ s.toList.drop (signLength s.toList) ≠ [] ∧
      ∀ c ∈ s.toList.drop (signLength s.toList), (digitValue .any b c).isSome := by
  have hb : validBase b = true := by
    cases hvb : validBase b with
    | true => rfl
    | false =>
      rw [fromRadix_of_not_validBase hvb] at h
      cases h
  rw [fromRadix_of_validBase hb] at h
  by_cases hnil : s.toList.drop (signLength s.toList) = []
  · rw [if_pos hnil] at h
    cases h
  rw [if_neg hnil] at h
  refine ⟨hb, hnil, ?_⟩
  cases hread : readDigits .any b (s.toList.drop (signLength s.toList)) (signLength s.toList) zero
    with
  | error e =>
    rw [hread] at h
    cases h
  | ok w => exact isSome_of_readDigits_eq_ok hread

/-- **A text the strict reader accepts is read whole by the prefix reader,** to the same value:
it has no blanks, and its sign and digits are all there is. -/
theorem parsePrefix_of_fromRadix {s : String} {v : U128} (h : fromRadix s b .any = .ok v) :
    parsePrefix s b = .ok (v, s.utf8ByteSize) := by
  obtain ⟨hb, hnil, hdigits⟩ := digits_of_fromRadix_eq_ok h
  obtain ⟨v', hv', hparse⟩ :=
    parsePrefix_eq_fromRadix hb (PrefixSplit.of_sign_digits (validBase_iff.1 hb).2 hdigits) hnil
  rw [List.take_append_drop, String.ofList_toList, h, Except.ok.injEq] at hv'
  rw [hparse, hv', List.nil_append, List.take_append_drop, String.utf8Len_toList]

/-- **What the prefix reader answers, on every text.** A base outside `[2, 36]` is refused. In a
base of `[2, 36]`, every text comes apart into blanks, a sign, digits and a rest; with digits,
the reader answers the value that the strict reader reads from the sign and the digits, and the
number of bytes of the blanks, the sign and the digits, the rest starting with no digit; with
no digit, it names the character after the sign at its byte offset, or finds the text empty
when nothing is left. So a text that the strict reader accepts is read whole, to the same
value. -/
theorem prefix_reading_exact (s : String) (b : Nat) :
    (¬ (2 ≤ b ∧ b ≤ 36) → parsePrefix s b = .error (.invalidBase b)) ∧
    (2 ≤ b ∧ b ≤ 36 →
      (∃ blanks sign digits post, PrefixSplit b s.toList blanks sign digits post) ∧
      ∀ blanks sign digits post, PrefixSplit b s.toList blanks sign digits post →
        (digits ≠ [] → ∃ v, fromRadix (String.ofList (sign ++ digits)) b .any = .ok v ∧
          parsePrefix s b = .ok (v, String.utf8Len (blanks ++ sign ++ digits))) ∧
        (digits = [] → post = [] → parsePrefix s b = .error .empty) ∧
        (∀ c rest, digits = [] → post = c :: rest →
          parsePrefix s b = .error (.invalidDigit (String.utf8Len (blanks ++ sign)) c))) ∧
    (∀ v, fromRadix s b .any = .ok v → parsePrefix s b = .ok (v, s.utf8ByteSize)) := by
  refine ⟨fun hb => parsePrefix_of_not_validBase s (Bool.eq_false_iff.2 (mt validBase_iff.1 hb)),
    fun hb => ⟨exists_prefixSplit hb.2 s.toList, ?_⟩, fun v h => parsePrefix_of_fromRadix h⟩
  have hvalid := validBase_iff.2 hb
  intro blanks sign digits post h
  refine ⟨parsePrefix_eq_fromRadix hvalid h, ?_, ?_⟩
  · rintro rfl rfl
    exact parsePrefix_of_split_empty hvalid h
  · rintro c rest rfl rfl
    rw [parsePrefix_of_split_invalidDigit hvalid h, h.utf8Len_blanks_sign]

/-- Blanks, then `42`, then a space: the reader takes the five bytes up to the space. -/
theorem prefix_reading_exact_stream :
    PrefixSplit 10 "  \t42 rest".toList [' ', ' ', '\t'] [] ['4', '2'] [' ', 'r', 'e', 's', 't'] ∧
    ∃ v, fromRadix "42" 10 .any = .ok v ∧ parsePrefix "  \t42 rest" 10 = .ok (v, 5) := by
  have hsplit : PrefixSplit 10 "  \t42 rest".toList [' ', ' ', '\t'] [] ['4', '2']
      [' ', 'r', 'e', 's', 't'] := by
    refine ⟨by simp, by simp [blankChars], ?_, by decide, ?_, ?_⟩
    · intro c hc
      cases hc
      simp [blankChars]
    · intro c hc
      simp only [List.mem_cons, List.not_mem_nil, or_false] at hc
      rcases hc with rfl | rfl
      · exact ⟨4, (isDigit_iff (by decide)).2 rfl⟩
      · exact ⟨2, (isDigit_iff (by decide)).2 rfl⟩
    · intro c hc d hd
      cases hc
      rw [isDigit_iff (by decide)] at hd
      cases hd
  exact ⟨hsplit, (((prefix_reading_exact _ 10).2.1 (by decide)).2 _ _ _ _ hsplit).1 (by simp)⟩

end U128

end DoubleWord
