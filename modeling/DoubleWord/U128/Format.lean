import DoubleWord.U128.Radix
import DoubleWord.Text.Layout
import DoubleWord.Text.BitGroups

/-!
# Formatting two-word numbers

A value is written in one of five notations, decimal, binary, octal, and hex in either case,
each with its radix mark, and laid out by a `Layout`. The grouped binary numeral shows all 128
bits: it is the binary notation zero-padded to 128 digits, split into blocks.

Source: `impl_fmt!`, `fwnum/src/bigint/text.rs:196-211`, and
`UnsignedInteger::to_bits_string for U128`, `fwnum/src/bigint/uint128.rs:592-594`.
-/

set_option autoImplicit false

namespace DoubleWord

open Text

/-- **A positional notation** for integers.
Source: the five `impl_fmt!` instances, `Display`, `Binary`, `Octal`, `LowerHex` and `UpperHex`,
`fwnum/src/bigint/text.rs:207-211`. -/
inductive Notation where
  | decimal
  | binary
  | octal
  | lowerHex
  | upperHex
  deriving DecidableEq, Repr

namespace Notation

/-- The base of the notation. -/
def base : Notation → Nat
  | decimal => 10
  | binary => 2
  | octal => 8
  | lowerHex | upperHex => 16

/-- The mark written before the digits in the alternate form. -/
def mark : Notation → String
  | decimal => ""
  | binary => "0b"
  | octal => "0o"
  | lowerHex | upperHex => "0x"

/-- Whether letter digits are uppercase. -/
def upper : Notation → Bool
  | upperHex => true
  | _ => false

end Notation

namespace U128

/-- The digits of a value in a notation.
Source: the call of `U128::encode` in `impl_fmt!`, `fwnum/src/bigint/text.rs:201`. -/
def notationDigits (x : U128) (n : Notation) : Except Fault String :=
  (digitsInto n.base.toUInt64 n.upper 128 x []).map String.ofList

/-- **A value written in a notation and laid out;** a fault of the writing stops it.
Source: `impl_fmt!`, which hands the digits to `fmt::Formatter::pad_integral`,
`fwnum/src/bigint/text.rs:196-205`. -/
def format (x : U128) (n : Notation) (l : Layout) : Except Fault String :=
  (x.notationDigits n).map (l.apply n.mark)

/-- **The grouped binary numeral:** the value written in binary, zero-padded to 128 digits, with
a space after each block of `block` digits but the last; a zero block length is refused.
Source: `UnsignedInteger::to_bits_string for U128`, `fwnum/src/bigint/uint128.rs:592-594`. -/
def toBitsText (x : U128) (block : Nat) : Except Fault String := do
  splitBits (← x.format .binary { zeroPad := true, width := 128 }) 128 block

end U128

end DoubleWord
