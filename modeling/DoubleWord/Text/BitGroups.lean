import DoubleWord.Fault

/-!
# Grouped binary numerals

A binary numeral of `width` digits is made easier to read by spaces between blocks of `block`
digits. The spaces are inserted at `i · block` for `i` from `width / block - 1` down to 1, the
highest place first: each insertion lies before the ones already made, so it moves them along
but leaves every lower place where it was. The last block keeps whatever is left, `block` digits
or more. A block length of zero is refused, since the number of blocks divides by it.

The numeral is ASCII, so its characters are its bytes and a place counts either.

Source: `numeric::split_bits_string`, `fwnum/src/numeric/unsigned.rs:99-105`.
-/

set_option autoImplicit false

namespace DoubleWord.Text

/-- **Inserts a space at `i · block`** for each `i` from `count` down to 1, the highest first.
Source: the loop `for i in (1..(bits / block_length)).rev()` of `numeric::split_bits_string`,
`fwnum/src/numeric/unsigned.rs:101-103`. -/
def insertSpaces (block : Nat) : Nat → List Char → List Char
  | 0, cs => cs
  | i + 1, cs => insertSpaces block i (cs.insertIdx ((i + 1) * block) ' ')

/-- **A space every `block` characters** of a numeral of `width` digits: one at each multiple of
`block` from `(width / block - 1) · block` down to `block`. A zero block length is refused.
Source: `numeric::split_bits_string`, `fwnum/src/numeric/unsigned.rs:99-105`. -/
def splitBits (s : String) (width block : Nat) : Except Fault String :=
  if block = 0 then .error .divideByZero
  else .ok (String.ofList (insertSpaces block (width / block - 1) s.toList))

end DoubleWord.Text
