import Mathlib
import DoubleWord.U128.Format
import DoubleWord.Proofs.Numeral

/-!
# Formatting agrees with native integers

A two-word value is formatted in a notation by writing its digits and handing them, with the
notation's radix mark, to a `Layout`: the padding, sign, alternate form and zero padding that
every integer formatter shares. A native unsigned integer is formatted through the same layout,
from Lean's own numeral `Nat.toDigits` in the base of its trait, letters raised to uppercase for
upper hex, after the prefix of its trait (`nativeFormat`).

The digits agree because writing a value gives its canonical digits (`Proofs.Numeral`) and so
does `Nat.toDigits` (`toDigits_eq_map_numeralDigits`), each digit below 16 drawn alike up to the
case of the letters. So for every value, notation and layout the two texts are equal, whatever
the length of the numeral against the width. Main statement: `format_eq_native`.
-/

set_option autoImplicit false

namespace DoubleWord

open Text

/-- **Native formatting** of an unsigned number, trait by trait: decimal digits with no prefix;
binary, octal and hex digits after `0b`, `0o` and `0x`; hex letters lowercase except for upper
hex. Prefix and digits go to the same layout as a two-word value's. -/
def nativeFormat (v : Nat) : Notation → Layout → String
  | .decimal, l => l.apply "" (String.ofList (Nat.toDigits 10 v))
  | .binary, l => l.apply "0b" (String.ofList (Nat.toDigits 2 v))
  | .octal, l => l.apply "0o" (String.ofList (Nat.toDigits 8 v))
  | .lowerHex, l => l.apply "0x" (String.ofList (Nat.toDigits 16 v))
  | .upperHex, l => l.apply "0x" (String.ofList ((Nat.toDigits 16 v).map Char.toUpper))

/-! ## Digits below sixteen -/

/-- The library's digits below 16 are those of `Nat.digitChar`, raised for the upper case. -/
private theorem digitChar_eq_natDigitChar_all : ∀ d < 16,
    digitChar false d = Nat.digitChar d ∧ digitChar true d = (Nat.digitChar d).toUpper := by
  decide

theorem digitChar_false_eq {d : Nat} (hd : d < 16) : digitChar false d = Nat.digitChar d :=
  (digitChar_eq_natDigitChar_all d hd).1

theorem digitChar_true_eq {d : Nat} (hd : d < 16) : digitChar true d = (Nat.digitChar d).toUpper :=
  (digitChar_eq_natDigitChar_all d hd).2

/-- **Lean's numeral is the canonical one.** `Nat.toDigits` writes the canonical digits of a
number, most significant first. The induction follows the last digit off, as both do. -/
theorem toDigits_eq_map_numeralDigits {b : Nat} (hb : 2 ≤ b) (n : Nat) :
    Nat.toDigits b n = (numeralDigits b n).map Nat.digitChar := by
  induction n using Nat.strong_induction_on with
  | _ n ih =>
    by_cases hlt : n < b
    · rw [Nat.toDigits_of_lt_base hlt, numeralDigits_of_lt hlt]
      rfl
    · have hle : b ≤ n := Nat.le_of_not_lt hlt
      rw [Nat.toDigits_of_base_le (by omega) hle, numeralDigits_of_le hb hle, List.map_append,
        ih (n / b) (Nat.div_lt_self (by omega) (by omega))]
      rfl

/-! ## The digits of a value -/

namespace U128

section Digits

variable (x : U128) {b : Nat}

/-- **Lowercase digits are the native digits,** in every base from 2 to 16, and writing them
never faults. -/
theorem digitsInto_lower_eq_toDigits (hb : 2 ≤ b) (hb16 : b ≤ 16) :
    digitsInto b.toUInt64 false 128 x [] = .ok (Nat.toDigits b x.toNat) := by
  rw [digitsInto_eq hb (by omega) false 128 x [] (numeralDigits_length_le hb (toNat_lt x)),
    List.append_nil, toDigits_eq_map_numeralDigits hb]
  exact congrArg Except.ok (List.map_congr_left fun d hd =>
    digitChar_false_eq (Nat.lt_of_lt_of_le (numeralDigits_lt hb hd) hb16))

/-- **Uppercase digits are the native digits raised to uppercase.** -/
theorem digitsInto_upper_eq_toDigits (hb : 2 ≤ b) (hb16 : b ≤ 16) :
    digitsInto b.toUInt64 true 128 x [] = .ok ((Nat.toDigits b x.toNat).map Char.toUpper) := by
  rw [digitsInto_eq hb (by omega) true 128 x [] (numeralDigits_length_le hb (toNat_lt x)),
    List.append_nil, toDigits_eq_map_numeralDigits hb, List.map_map]
  exact congrArg Except.ok (List.map_congr_left fun d hd =>
    digitChar_true_eq (Nat.lt_of_lt_of_le (numeralDigits_lt hb hd) hb16))

end Digits

/-- Formatting lays out the written digits: once the writing answers, so does the format. -/
theorem format_of_digitsInto {x : U128} {n : Notation} {l : Layout} {ds : List Char}
    (h : digitsInto n.base.toUInt64 n.upper 128 x [] = .ok ds) :
    x.format n l = .ok (l.apply n.mark (String.ofList ds)) := by
  rw [format, notationDigits, h]
  rfl

/-- **Formatting agrees with native integers.** For every value `x`, every notation (decimal,
binary, octal, lower and upper hex) and every layout (fill, alignment, width, `+`, alternate
form, zero padding), formatting `x` never faults and gives the text that formatting its number
`X` natively gives: the same canonical digits in the trait's base, uppercase only for upper hex,
after the same prefix, in the same layout. -/
theorem format_eq_native (x : U128) (n : Notation) (l : Layout) :
    x.format n l = .ok (nativeFormat x.toNat n l) := by
  -- one notation at a time, so that its base, case and mark are constants
  cases n with
  | decimal | binary | octal | lowerHex =>
    exact format_of_digitsInto (digitsInto_lower_eq_toDigits x (by decide) (by decide))
  | upperHex => exact format_of_digitsInto (digitsInto_upper_eq_toDigits x (by decide) (by decide))

/-- **The decimal text of a value in the plain layout is its decimal numeral,** the text that
the calculator's log lines show for it. -/
theorem format_decimal_eq_toDecimal (x : U128) : x.format .decimal {} = .ok x.toDecimal := by
  rw [format_of_digitsInto (n := .decimal) (digitsInto_lower_eq_toDigits x (by decide) (by decide))]
  simp [Layout.apply, Notation.base, toDecimal, Nat.repr]

end U128

end DoubleWord
