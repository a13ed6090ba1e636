import DoubleWord.Text.Printable
import DoubleWord.Text.GraphemeExtend

/-!
# Quoted characters and text

How a character or a text is shown between quote marks in a message. The null character, tab,
carriage return, line feed and backslash get a backslash escape, and so does the quote mark
that encloses the text; a grapheme extender or a character that is not printable becomes
`\u` followed by its code point in lowercase hex, without leading zeros, in braces. Every
other character stands for itself.

Source: the `Debug` of `char` and `str` in the standard library, which the messages of
`fwnum/src/error.rs:30` and `apps/calc/src/eval.rs:33` use.
-/

set_option autoImplicit false

namespace DoubleWord.Text

/-- The quote mark that encloses a quoted text: a character goes in single quotes, a text in
double quotes. -/
inductive QuoteMark where
  | single
  | double
  deriving DecidableEq, Repr

/-- The escape `\u` + braced lowercase hex of the code point. -/
def unicodeEscape (c : Char) : List Char :=
  ['\\', 'u', '\x7b'] ++ Nat.toDigits 16 c.toNat ++ ['\x7d']

/-- **How one character is written** inside the quote mark `mark`.
Source: `char::escape_debug_ext` of the standard library, which `Debug` of a `char` and of a `str`
call. -/
def escapeChar (mark : QuoteMark) (c : Char) : List Char :=
  if c = '\x00' then ['\\', '0']
  else if c = '\t' then ['\\', 't']
  else if c = '\r' then ['\\', 'r']
  else if c = '\n' then ['\\', 'n']
  else if c = '\\' then ['\\', '\\']
  else if c = '\x22' ∧ mark = .double then ['\\', '\x22']
  else if c = '\x27' ∧ mark = .single then ['\\', '\x27']
  else if isGraphemeExtend c || !isPrintable c then unicodeEscape c
  else [c]

/-- A character in single quotes, escaped.
Source: `Debug for char` of the standard library, as `{ch:?}` writes it, `fwnum/src/error.rs:30`. -/
def quoteChar (c : Char) : String :=
  String.ofList ('\x27' :: escapeChar .single c ++ ['\x27'])

/-- A text in double quotes, each character escaped.
Source: `Debug for str` of the standard library, as `{text:?}` writes it,
`apps/calc/src/eval.rs:33`. -/
def quoteText (s : String) : String :=
  String.ofList ('\x22' :: s.toList.flatMap (escapeChar .double) ++ ['\x22'])

end DoubleWord.Text
