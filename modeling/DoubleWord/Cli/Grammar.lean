/-!
# Command-line grammars

A program's command line is described as data: options (a switch, or an option that takes one
value), positional arguments, and subcommands one level deep. Every level also has the switch
`-h, --help`, and a program with subcommands has the subcommand `help`.

A value is checked by a `ValueRule`: any text, `true` or `false`, a decimal integer in a range,
or one name out of a list.

This module also writes the names by which the grammar's parts appear in messages and the
usage lines.

Source: the `clap::Command` that `#[derive(clap::Parser)]` builds from `Args` and `Command`,
`apps/calc/src/main.rs:14-61`.
-/

set_option autoImplicit false

namespace DoubleWord.Cli

/-- **How a value is checked.** -/
inductive ValueRule where
  /-- Any text. -/
  | text
  /-- `true` or `false`. -/
  | boolean
  /-- A decimal integer between `lo` and `hi`. -/
  | integer (lo hi : Int)
  /-- One of the names. -/
  | choice (names : List String)
  deriving DecidableEq, Repr

/-- **An option:** a switch when it has no value name, else it takes one value. -/
structure Opt where
  /-- The key under which its value is found. -/
  id : String
  /-- The one-letter form, after `-`. -/
  short : Option Char := none
  /-- The long form, after `--`. -/
  long : String
  /-- The placeholder of the value, for an option that takes one. -/
  valueName : Option String := none
  /-- One line of help. -/
  help : String := ""
  /-- The environment variable that supplies the value when the option is absent. -/
  env : Option String := none
  /-- The value when neither the command line nor the environment gives one. -/
  default : Option String := none
  /-- The check on its value. -/
  rule : ValueRule := .text
  /-- Whether the option must be given. -/
  required : Bool := false
  deriving Repr

/-- **A positional argument,** always required. -/
structure Positional where
  /-- The key under which its value is found. -/
  id : String
  /-- The placeholder in usage lines. -/
  valueName : String
  /-- One line of help. -/
  help : String := ""
  /-- The check on its value. -/
  rule : ValueRule := .text
  /-- Whether a value may start with `-`. -/
  hyphenValues : Bool := false
  deriving Repr

/-- **A subcommand** with its own options and positional arguments. -/
structure Subcommand where
  name : String
  about : String
  options : List Opt := []
  positionals : List Positional := []
  deriving Repr

/-- **A program:** its options and its subcommands, one of which must be given. -/
structure Program where
  name : String
  about : String
  longAbout : String
  options : List Opt
  subcommands : List Subcommand
  deriving Repr

/-- The help line of the subcommand `help`. -/
def helpCommandAbout : String := "Print this message or the help of the given subcommand(s)"

namespace Opt

/-- Whether the option takes a value. -/
def takesValue (o : Opt) : Bool := o.valueName.isSome

/-- The option as messages name it: its long form, and its placeholder. -/
def display (o : Opt) : String :=
  match o.valueName with
  | some v => "--" ++ o.long ++ " <" ++ v ++ ">"
  | none => "--" ++ o.long

/-- The option as help lists it: both forms, and its placeholder. -/
def spec (o : Opt) : String :=
  let forms := match o.short with
    | some c => "-" ++ String.singleton c ++ ", --" ++ o.long
    | none => "    --" ++ o.long
  match o.valueName with
  | some v => forms ++ " <" ++ v ++ ">"
  | none => forms

end Opt

/-- A positional argument as messages and usage lines name it. -/
def Positional.display (p : Positional) : String := "<" ++ p.valueName ++ ">"

/-- The values that a rule lists as possible. -/
def ValueRule.possible : ValueRule → List String
  | .boolean => ["true", "false"]
  | .choice names => names
  | _ => []

/-- The usage line of a level: its name, `[OPTIONS]` when it has an optional option other than
help, the required options, the positional arguments, and `<COMMAND>` when a subcommand must
follow. -/
def usageLine (bin : String) (options : List Opt) (positionals : List Positional)
    (hasCommands : Bool) : String :=
  let optional := if options.any (!·.required) then " [OPTIONS]" else ""
  let required := options.filter (·.required) |>.map (" " ++ ·.display)
  let pos := positionals.map (" " ++ ·.display)
  bin ++ optional ++ String.join required ++ String.join pos ++ if hasCommands then " <COMMAND>" else ""

namespace Program

/-- The usage line of the program. -/
def usage (p : Program) : String :=
  usageLine p.name p.options [] true

/-- The names of the subcommands, `help` last. -/
def commandNames (p : Program) : List String :=
  p.subcommands.map (·.name) ++ ["help"]

/-- The subcommand of a name. -/
def find? (p : Program) (name : String) : Option Subcommand :=
  p.subcommands.find? (·.name == name)

end Program

/-- The name of a subcommand as it is called. -/
def Subcommand.bin (p : Program) (s : Subcommand) : String := p.name ++ " " ++ s.name

/-- The usage line of a subcommand. -/
def Subcommand.usage (p : Program) (s : Subcommand) : String :=
  usageLine (s.bin p) s.options s.positionals false

end DoubleWord.Cli
