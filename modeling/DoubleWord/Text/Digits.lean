import DoubleWord.Fault

/-!
# Digits of bases 2 to 36

The digits are `0` to `9`, then the letters `a` to `z` (or `A` to `Z`) for ten to thirty-five.
A base outside `[2, 36]` has no digits. When reading, a `LetterCase` says which letters count.

Source: `fwnum/src/bigint/text.rs:13-51`.
-/

set_option autoImplicit false

namespace DoubleWord.Text

/-- Which letters are read as digits above nine.
Source: `LetterCase`, `fwnum/src/bigint/text.rs:22-28`. -/
inductive LetterCase where
  /-- Both cases. -/
  | any
  /-- Lowercase only. -/
  | lower
  /-- Uppercase only. -/
  | upper
  deriving DecidableEq, Repr

/-- Whether a base has digits: it lies in `[2, 36]`.
Source: `check_base`, with `MIN_BASE` and `MAX_BASE`, `fwnum/src/bigint/text.rs:45-51`, `:16-17`. -/
def validBase (base : Nat) : Bool :=
  2 ≤ base && base ≤ 36

/-- **The digit for a value below 36,** a letter in the case asked.
Source: the tables `DIGITS_LOWER` and `DIGITS_UPPER` that `U128::encode` indexes,
`fwnum/src/bigint/text.rs:13-14`, `:82`. -/
def digitChar (upper : Bool) (d : Nat) : Char :=
  if d < 10 then Char.ofNat (48 + d)
  else if upper then Char.ofNat (65 + d - 10)
  else Char.ofNat (97 + d - 10)

/-- **The value of a digit,** when `c` is a digit of `base` with letters of the allowed case.
Source: `digit_value`, `fwnum/src/bigint/text.rs:35-43`. -/
def digitValue (case : LetterCase) (base : Nat) (c : Char) : Option Nat :=
  let v : Option Nat :=
    if '0' ≤ c ∧ c ≤ '9' then some (c.toNat - 48)
    else if 'a' ≤ c ∧ c ≤ 'z' ∧ case ≠ .upper then some (c.toNat - 97 + 10)
    else if 'A' ≤ c ∧ c ≤ 'Z' ∧ case ≠ .lower then some (c.toNat - 65 + 10)
    else none
  v.filter (· < base)

end DoubleWord.Text
