import DoubleWord.Text.Quoted

/-!
# Why a text is not a number

Reading a numeral fails for one of three reasons: the base has no digits, the text has no
digit, or a character is not a digit of the base. `ParseError.message` is the sentence that
reports it, and `ParseError.logText` the structured form that a log line shows.

Source: `fwnum/src/error.rs`.
-/

set_option autoImplicit false

namespace DoubleWord.Text

/-- **Why a text is not a numeral.**
Source: `ParseErrorKind` and `ParseError`, `fwnum/src/error.rs:3-17`. -/
inductive ParseError where
  /-- No digit: the text is empty or only a sign. -/
  | empty
  /-- The character `ch`, at byte offset `index`, is not a digit of the base. -/
  | invalidDigit (index : Nat) (ch : Char)
  /-- The base lies outside `[2, 36]`. -/
  | invalidBase (base : Nat)
  deriving DecidableEq, Repr

namespace ParseError

/-- The sentence that reports the error.
Source: `Display for ParseError`, `fwnum/src/error.rs:25-37`. -/
def message : ParseError → String
  | empty => "cannot parse integer from empty string"
  | invalidDigit index ch =>
    "invalid digit " ++ quoteChar ch ++ " found at index " ++ toString index
  | invalidBase base => "base must be in the range [2, 36], got " ++ toString base

/-- The error as a log line shows it: its kind, then its fields.
Source: the derived `Debug` of `ParseErrorKind`, which `reject` logs as `?kind`,
`fwnum/src/error.rs:3`, `fwnum/src/bigint/text.rs:30-33`. -/
def logText : ParseError → String
  | empty => "Empty"
  | invalidDigit index ch =>
    "InvalidDigit \x7b index: " ++ toString index ++ ", ch: " ++ quoteChar ch ++ " \x7d"
  | invalidBase base => "InvalidBase(" ++ toString base ++ ")"

end ParseError

end DoubleWord.Text
