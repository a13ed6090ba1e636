import DoubleWord.U128.Radix
import DoubleWord.U128.Bits
import DoubleWord.U128.Convert

/-!
# The calculator

The calculator reads its operands and writes its results in one base and letter case, the
`Codec`. It evaluates one binary operation modulo `2^128`: the four operations and the
remainder, the three bitwise ones, the two shifts by the right operand modulo 128, and the
comparison. Division and remainder by zero are refused with an error of the calculator; the
remainder that finds a shift amount could stop with a fault, which is passed on.

It also computes `n!` modulo `2^128`, and shows the two words of a value.

Source: `apps/calc/src/eval.rs`.
-/

set_option autoImplicit false

namespace DoubleWord.Calc

open Text

/-- **The binary operations of the calculator.** Source: `Op`, `apps/calc/src/eval.rs:7-21`. -/
inductive Op where
  | add
  | sub
  | mul
  | div
  | rem
  | and
  | or
  | xor
  | shl
  | shr
  | cmp
  deriving DecidableEq, Repr

namespace Op

/-- Every operation, in the order they are listed to a user. -/
def all : List Op := [add, sub, mul, div, rem, and, or, xor, shl, shr, cmp]

/-- The name a user types for the operation.
Source: the value names that `clap::ValueEnum` derives for `Op`, `apps/calc/src/eval.rs:8`. -/
def name : Op → String
  | add => "add"
  | sub => "sub"
  | mul => "mul"
  | div => "div"
  | rem => "rem"
  | and => "and"
  | or => "or"
  | xor => "xor"
  | shl => "shl"
  | shr => "shr"
  | cmp => "cmp"

/-- The operation of a name, which must match exactly. -/
def ofName? (s : String) : Option Op :=
  all.find? (·.name == s)

/-- The operation as a log line shows it: its name, capitalised.
Source: the derived `Debug` of `Op`, which `evaluate` logs as `?op`, `apps/calc/src/eval.rs:8`,
`:59`. -/
def logName (op : Op) : String :=
  match op.name.toList with
  | c :: cs => String.ofList (c.toUpper :: cs)
  | [] => ""

end Op

/-- **How numbers are read and written:** a base and whether letters are uppercase.
Source: `Codec`, `apps/calc/src/eval.rs:23-28`. -/
structure Codec where
  base : Nat
  uppercase : Bool
  deriving DecidableEq, Repr

/-- **Why the calculator gives no result.**
Source: the `anyhow` errors of `Codec::read` and of `evaluate`, `apps/calc/src/eval.rs:31-34`,
`:60`. -/
inductive CalcError where
  /-- An operand is not a numeral of the codec. -/
  | unreadable (text : String) (base : Nat) (cause : ParseError)
  /-- A division or a remainder by zero. -/
  | divisionByZero
  deriving DecidableEq, Repr

namespace CalcError

/-- The error's messages, outermost first: what failed, then why.
Source: the context of `Codec::read` over its `ParseError`, `apps/calc/src/eval.rs:32-33`. -/
def chain : CalcError → List String
  | unreadable text base cause =>
    ["cannot read " ++ quoteText text ++ " in base " ++ toString base, cause.message]
  | divisionByZero => ["division by zero"]

/-- The messages joined by `": "`. -/
def message (e : CalcError) : String :=
  ": ".intercalate e.chain

end CalcError

namespace Codec

/-- **Reads an operand:** a numeral of the codec's base, letters in its case only.
Source: `Codec::read`, `apps/calc/src/eval.rs:31-34`. -/
def read (c : Codec) (text : String) : Except CalcError U128 :=
  match U128.fromRadix text c.base (if c.uppercase then .upper else .lower) with
  | .ok v => .ok v
  | .error e => .error (.unreadable text c.base e)

/-- **Writes a result** in the codec's base and case; a base outside `[2, 36]` is refused.
Source: `Codec::write`, `apps/calc/src/eval.rs:36-38`. -/
def write (c : Codec) (x : U128) : Except Fault String :=
  x.toRadix c.base c.uppercase

end Codec

/-- **What an evaluation gives:** a number, or the order of the operands.
Source: `Evaluated`, `apps/calc/src/eval.rs:41-45`. -/
inductive Evaluated where
  | number (v : U128)
  | order (o : Ordering)
  deriving DecidableEq, Repr

namespace Evaluated

/-- The text of the result: the number in the codec, or `<`, `=` or `>`.
Source: `Evaluated::display`, `apps/calc/src/eval.rs:47-56`. -/
def display (r : Evaluated) (c : Codec) : Except Fault String :=
  match r with
  | number v => c.write v
  | order .lt => .ok "<"
  | order .eq => .ok "="
  | order .gt => .ok ">"

end Evaluated

/-- **Why a command gives no result:** an error of the calculator, or a fault.
Source: the `anyhow::Error` that `main` returns, or a panic of the library,
`apps/calc/src/main.rs:63-104`. -/
inductive Failed where
  | calc (e : CalcError)
  | fault (f : Fault)
  deriving DecidableEq, Repr

/-- The shift amount of a right operand: the operand modulo 128, cast to a 32-bit word; a
fault of the remainder stops it.
Source: `u32::cast_from(rhs % U128::from(U128::BITS))` in `evaluate`, `apps/calc/src/eval.rs:70-72`.
-/
def shiftAmount (rhs : U128) : Except Fault Nat :=
  (rhs.rem (U128.ofNat 128)).map fun r => (r.castTo .u32).toNat

/-- **Evaluates `lhs op rhs`** modulo `2^128`. Source: `evaluate`, `apps/calc/src/eval.rs:58-76`. -/
def evaluate (op : Op) (lhs rhs : U128) : Except Failed Evaluated :=
  match op with
  | .add => .ok (.number (lhs + rhs))
  | .sub => .ok (.number (lhs - rhs))
  | .mul => .ok (.number (lhs * rhs))
  | .div => match lhs.checkedDiv rhs with
    | some q => .ok (.number q)
    | none => .error (.calc .divisionByZero)
  | .rem => match lhs.checkedRem rhs with
    | some r => .ok (.number r)
    | none => .error (.calc .divisionByZero)
  | .and => .ok (.number (lhs &&& rhs))
  | .or => .ok (.number (lhs ||| rhs))
  | .xor => .ok (.number (lhs ^^^ rhs))
  | .shl => do
    let n ← (shiftAmount rhs).mapError Failed.fault
    return .number (lhs.shl n)
  | .shr => do
    let n ← (shiftAmount rhs).mapError Failed.fault
    return .number (lhs.shr n)
  | .cmp => .ok (.order (lhs.compare rhs))

/-- The product `acc · i · (i + 1) ⋯` of `count` word factors, modulo `2^128`; once the
product is zero it stays zero.
Source: the fold of `factorial`, `apps/calc/src/eval.rs:80`, with an early exit at zero that the
fold does not have. -/
def wordProduct (acc : U128) (i : Nat) : Nat → U128
  | 0 => acc
  | count + 1 => if acc.isZero then acc else wordProduct (acc.mulWord i.toUInt64) (i + 1) count

/-- **`n!` modulo `2^128`,** the product of the words `2, …, n`.
Source: `factorial`, `apps/calc/src/eval.rs:78-81`. -/
def factorial (n : Nat) : U128 :=
  wordProduct U128.one 2 (n - 1)

/-- A word as `0x` and sixteen lowercase hex digits.
Source: the `{:#018x}` of `words`, `apps/calc/src/eval.rs:86`. -/
def hexWord (w : UInt64) : String :=
  let digits := Nat.toDigits 16 w.toNat
  "0x" ++ String.ofList (List.replicate (16 - digits.length) '0' ++ digits)

/-- **The words of a value:** both in hex, and the number of significant bits.
Source: `words`, `apps/calc/src/eval.rs:83-91`. -/
def words (x : U128) : String :=
  "lo = " ++ hexWord x.lo ++ "\nhi = " ++ hexWord x.hi ++ "\nbits = " ++
    toString (128 - x.leadingZeros)

end DoubleWord.Calc
