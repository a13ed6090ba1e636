/-!
# Laying out an integer's digits

The digits of a nonnegative integer are written after an optional `+` and an optional radix
mark (`0b`, `0o`, `0x`). When a minimum width asks for more characters, the padding goes where
the alignment says (right by default; a centred field puts the odd character after), in the
fill character; with zero padding the zeros go after the sign and the mark instead, whatever
the alignment and fill.

Source: `fmt::Formatter::pad_integral` of the standard library, which the formats of
`fwnum/src/bigint/text.rs:196-211` call.
-/

set_option autoImplicit false

namespace DoubleWord.Text

/-- Where padding puts the text inside a wider field.
Source: `fmt::Alignment` of the standard library. -/
inductive Align where
  | left
  | right
  | center
  deriving DecidableEq, Repr

/-- **How an integer is laid out.**
Source: the fill, alignment, width and the `+`, `#` and `0` flags that a `fmt::Formatter` of the
standard library carries. -/
structure Layout where
  /-- The padding character. -/
  fill : Char := ' '
  /-- The alignment asked for, if any; integers go right otherwise. -/
  align : Option Align := none
  /-- The minimum number of characters. -/
  width : Nat := 0
  /-- Whether a `+` is written. -/
  plus : Bool := false
  /-- Whether the radix mark is written. -/
  alternate : Bool := false
  /-- Whether the padding is zeros after the sign and the mark. -/
  zeroPad : Bool := false
  deriving Repr

/-- `n` copies of a character. -/
def padding (c : Char) (n : Nat) : String :=
  String.ofList (List.replicate n c)

/-- **The laid out digits** of a nonnegative integer, with the radix mark `mark`.
Source: `fmt::Formatter::pad_integral` of the standard library for a nonnegative integer, as
`impl_fmt!` calls it, `fwnum/src/bigint/text.rs:201`. -/
def Layout.apply (l : Layout) (mark digits : String) : String :=
  let sign := if l.plus then "+" else ""
  let mark := if l.alternate then mark else ""
  let size := sign.length + mark.length + digits.length
  if l.width ≤ size then sign ++ mark ++ digits
  else
    let pad := l.width - size
    if l.zeroPad then sign ++ mark ++ padding '0' pad ++ digits
    else
      let (before, after) := match l.align.getD .right with
        | .left => (0, pad)
        | .right => (pad, 0)
        | .center => (pad / 2, (pad + 1) / 2)
      padding l.fill before ++ sign ++ mark ++ digits ++ padding l.fill after

end DoubleWord.Text
