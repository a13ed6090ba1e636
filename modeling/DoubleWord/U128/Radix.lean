import DoubleWord.U128.Div
import DoubleWord.Text.Digits
import DoubleWord.Text.ParseError

/-!
# Numerals of two-word numbers

Writing divides by the base, one word division per digit, until the quotient is zero: zero is
`"0"`, and no sign or prefix is written. A value below `2^128` has at most 128 digits in any
base, which bounds the loop.

Reading takes an optional `+` or `-`, then at least one digit, accumulating `acc · base + d`
modulo `2^128`; a `-` negates the result. The first character that is not a digit is reported
with its byte offset. `parsePrefix` reads the longest numeral after leading blanks instead, and
says how many bytes it took.

Source: `U128::encode`, `to_string_radix`, `decode`, `from_str_radix`, `parse` and `parse_prefix`,
`fwnum/src/bigint/text.rs:53-185`.
-/

set_option autoImplicit false

namespace DoubleWord

open Text

namespace U128

/-- The digits of `x` in base `base`, most significant first, in front of `acc`; `fuel`
bounds the number of divisions. Each digit is the remainder of the checked word division, whose
faults stop the writing. Source: the loop of `U128::encode`, `fwnum/src/bigint/text.rs:78-89`. -/
def digitsInto (base : UInt64) (upper : Bool) : Nat → U128 → List Char → Except Fault (List Char)
  | 0, _, acc => .ok acc
  | fuel + 1, x, acc => do
    let (q, r) ← x.divRemWord base
    let acc := digitChar upper r.toNat :: acc
    if q.isZero then .ok acc else digitsInto base upper fuel q acc

/-- **The numeral of `x` in base `base`,** letters in uppercase when `upper`; a base outside
`[2, 36]` has no digits.
Source: `U128::to_string_radix` and the base assertion of `U128::encode`,
`fwnum/src/bigint/text.rs:95-105`, `:73-76`. -/
def toRadix (x : U128) (base : Nat) (upper : Bool) : Except Fault String :=
  if validBase base then (digitsInto base.toUInt64 upper 128 x []).map String.ofList
  else .error (.badBase base)

/-- The accumulator after the digit `d`: `acc · base + d` modulo `2^128`.
Source: the `mul_assign_word` and `add_assign_word` of `U128::decode`,
`fwnum/src/bigint/text.rs:118-119`. -/
def pushDigit (base : Nat) (acc : U128) (d : Nat) : U128 :=
  (acc.mulWord base.toUInt64).addWord d.toUInt64

/-- Reads the digits `cs`, the first at byte offset `index`, onto `acc`; stops at the first
character that is not a digit.
Source: the loop of `U128::decode`, `fwnum/src/bigint/text.rs:115-120`. -/
def readDigits (case : LetterCase) (base : Nat) : List Char → Nat → U128 → Except ParseError U128
  | [], _, acc => .ok acc
  | c :: cs, index, acc =>
    match digitValue case base c with
    | some d => readDigits case base cs (index + c.utf8Size) (pushDigit base acc d)
    | none => .error (.invalidDigit index c)

/-- Splits a leading `-` or `+`: whether the value is negated, and the rest.
Source: `split_sign`, `fwnum/src/bigint/text.rs:53-61`. -/
def splitSign : List Char → Bool × List Char
  | '-' :: cs => (true, cs)
  | '+' :: cs => (false, cs)
  | cs => (false, cs)

/-- The value read, negated when the sign asks.
Source: `finish`, `fwnum/src/bigint/text.rs:63-68`. -/
def applySign (negative : Bool) (x : U128) : U128 :=
  if negative then -x else x

/-- **Reads a whole text as a numeral** in `base`, letters in the case `case`.
Source: `U128::decode`, behind `U128::from_str_radix` (any case) and `U128::parse` (one case),
`fwnum/src/bigint/text.rs:107-149`. -/
def fromRadix (s : String) (base : Nat) (case : LetterCase) : Except ParseError U128 :=
  if !validBase base then .error (.invalidBase base)
  else
    let cs := s.toList
    let (negative, digits) := splitSign cs
    if digits.isEmpty then .error .empty
    else
      let signLen := cs.length - digits.length
      (readDigits case base digits signLen zero).map (applySign negative)

/-- The blanks that `parsePrefix` skips: space, tab, line feed, form feed and carriage
return.
Source: `char::is_ascii_whitespace`, as `U128::parse_prefix` calls it,
`fwnum/src/bigint/text.rs:158`. -/
def isBlank (c : Char) : Bool :=
  c = ' ' || c = '\t' || c = '\n' || c = '\x0c' || c = '\r'

/-- **Reads the longest numeral at the start of a text,** after blanks, with letters of
either case; answers the value and the number of bytes taken, blanks and sign included.
Source: `U128::parse_prefix`, `fwnum/src/bigint/text.rs:151-185`. -/
def parsePrefix (s : String) (base : Nat) : Except ParseError (U128 × Nat) :=
  if !validBase base then .error (.invalidBase base)
  else
    let cs := s.toList
    let blanks := (cs.takeWhile isBlank).length
    let (negative, rest) := splitSign (cs.drop blanks)
    let start := cs.length - rest.length
    let digits := rest.takeWhile fun c => (digitValue .any base c).isSome
    match digits, rest with
    | [], [] => .error .empty
    | [], c :: _ => .error (.invalidDigit start c)
    | _ :: _, _ =>
      let value := digits.foldl (fun acc c => pushDigit base acc ((digitValue .any base c).getD 0)) zero
      .ok (applySign negative value, start + digits.length)

end U128

end DoubleWord
