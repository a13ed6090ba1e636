import DoubleWord.Calc.Eval
import DoubleWord.Cli.Parse

/-!
# The calculator's command line

`fwnum-calc [OPTIONS] <COMMAND>` reads operands in a base (`-b`, `--base`, or `FWNUM_BASE`;
ten by default) and letter case (`-u`, `--uppercase`, or `FWNUM_UPPERCASE`), and logs every
step with `-v`. Its subcommands evaluate a binary operation, compute a factorial, convert a
value to another base, and show the words of a value.

A match of the grammar is read into `Args`, which also has the text that the log shows of it.

Source: `Args` and `Command`, `apps/calc/src/main.rs:14-61`.
-/

set_option autoImplicit false

namespace DoubleWord.Calc

open Cli

/-- The grammar's rule for a base.
Source: `clap::value_parser!(u32).range(2..=36)`, `apps/calc/src/main.rs:22`, `:56`. -/
def baseRule : ValueRule := .integer 2 36

/-- **The calculator's grammar.**
Source: the `clap::Parser` derived for `Args` and `Command`, `apps/calc/src/main.rs:14-61`. -/
def calculator : Program where
  name := "fwnum-calc"
  about := "Define CLI arguments"
  longAbout := "Wrapping 128-bit unsigned integer calculator."
  options := [
    { id := "base", short := some 'b', long := "base", valueName := some "BASE",
      help := "Base of the operands and of the printed results, in [2, 36]",
      env := some "FWNUM_BASE", default := some "10", rule := baseRule },
    { id := "uppercase", short := some 'u', long := "uppercase",
      help := "Letter digits are uppercase, both when reading and when printing",
      env := some "FWNUM_UPPERCASE", rule := .boolean },
    { id := "verbose", short := some 'v', long := "verbose",
      help := "Trace every step. RUST_LOG takes precedence when set", rule := .boolean }]
  subcommands := [
    { name := "eval", about := "Evaluate `LHS OP RHS`",
      positionals := [
        { id := "lhs", valueName := "LHS", hyphenValues := true },
        { id := "op", valueName := "OP", rule := .choice (Op.all.map Op.name) },
        { id := "rhs", valueName := "RHS", hyphenValues := true }] },
    { name := "factorial", about := "Factorial modulo 2^128",
      positionals := [{ id := "n", valueName := "N", rule := .integer 0 4294967295 }] },
    { name := "convert", about := "Print a value in another base",
      options := [{ id := "to", long := "to", valueName := some "TO", help := "Output base, in [2, 36]",
                    rule := baseRule, required := true }],
      positionals := [{ id := "value", valueName := "VALUE" }] },
    { name := "words", about := "Show the two 64-bit words of a value",
      positionals := [{ id := "value", valueName := "VALUE" }] }]

/-- **What the calculator is asked to do.** Source: `Command`, `apps/calc/src/main.rs:39-61`. -/
inductive Command where
  | eval (lhs : String) (op : Op) (rhs : String)
  | factorial (n : Nat)
  | convert (value : String) (target : Nat)
  | words (value : String)
  deriving DecidableEq, Repr

/-- **The calculator's arguments.** Source: `Args`, `apps/calc/src/main.rs:14-37`. -/
structure Args where
  base : Nat
  uppercase : Bool
  verbose : Bool
  command : Command
  deriving DecidableEq, Repr

/-- A checked decimal value as a number; a checked value is never negative. -/
def natOf (s : Option String) : Nat :=
  match s with
  | some t => match t.toList with
    | '+' :: ds => (String.ofList ds).toNat?.getD 0
    | _ => t.toNat?.getD 0
  | none => 0

/-- A record as the log shows it: its name, then its fields in braces. -/
def recordText (name : String) (fields : List (String × String)) : String :=
  name ++ " \x7b " ++ ", ".intercalate (fields.map fun (k, v) => k ++ ": " ++ v) ++ " \x7d"

/-- The text of a boolean as the log shows it. -/
def boolText (b : Bool) : String := if b then "true" else "false"

namespace Command

/-- **Reads the subcommand** of a match, whose values have passed the grammar's checks. -/
def ofMatches (m : Matches) : Command :=
  let get := lookup m.args
  match m.command with
  | "eval" => .eval ((get "lhs").getD "") (((get "op").bind Op.ofName?).getD .add) ((get "rhs").getD "")
  | "factorial" => .factorial (natOf (get "n"))
  | "convert" => .convert ((get "value").getD "") (natOf (get "to"))
  | _ => .words ((get "value").getD "")

/-- The command as the log shows it.
Source: the derived `Debug` of `Command`, `apps/calc/src/main.rs:39`. -/
def text : Command → String
  | eval lhs op rhs =>
    recordText "Eval" [("lhs", Text.quoteText lhs), ("op", op.logName), ("rhs", Text.quoteText rhs)]
  | factorial n => recordText "Factorial" [("n", toString n)]
  | convert value target => recordText "Convert" [("value", Text.quoteText value), ("to", toString target)]
  | words value => recordText "Words" [("value", Text.quoteText value)]

end Command

namespace Args

/-- **Reads the arguments** of a match. -/
def ofMatches (m : Matches) : Args :=
  { base := natOf (lookup m.top "base"),
    uppercase := lookup m.top "uppercase" == some "true",
    verbose := lookup m.top "verbose" == some "true",
    command := Command.ofMatches m }

/-- The arguments as the log shows them.
Source: the derived `Debug` of `Args`, which `main` logs as `?args`, `apps/calc/src/main.rs:14`,
`:76`. -/
def text (a : Args) : String :=
  recordText "Args" [("base", toString a.base), ("uppercase", boolText a.uppercase),
    ("verbose", boolText a.verbose), ("command", a.command.text)]

/-- The codec of the operands. Source: `apps/calc/src/main.rs:78-81`. -/
def codec (a : Args) : Codec := ⟨a.base, a.uppercase⟩

end Args

end DoubleWord.Calc
