/-!
# Usage errors

Why a command line is refused, and how the refusal is written: `error:` and the reason, then
tips (names close to a mistyped one, or how to pass a value that looks like an option), then the
usage line when it helps, and last a pointer to `--help`.

Source: the errors of the `clap` parser that `Args::parse` runs (`apps/calc/src/main.rs:64`), as its
rich formatter writes them.
-/

set_option autoImplicit false

namespace DoubleWord.Cli

/-- **A hint after a usage error.** -/
inductive Tip where
  /-- Names close to the mistyped one, of the given kind (`subcommand`, `argument`, `value`),
  the closest last. -/
  | similar (kind : String) (names : List String)
  /-- An argument that looks like an option can be passed after `--`. -/
  | asValue (arg : String)
  /-- The mistyped option is an option of a subcommand. -/
  | ofSubcommand (command flag : String)
  /-- A subcommand name was written after `--`. -/
  | dropEscape (command : String)
  deriving DecidableEq, Repr

/-- **Why a command line is refused.** -/
inductive UsageError where
  /-- An argument that fits nowhere. -/
  | unexpectedArgument (arg : String)
  /-- A value given to a switch. -/
  | unexpectedValue (value arg : String)
  /-- A value not among the possible ones; an empty value is a missing one. -/
  | invalidValue (value arg : String) (possible : List String)
  /-- A value that its check refused, and the reason. -/
  | badValue (value arg reason : String)
  /-- An option given twice. -/
  | repeated (arg : String)
  /-- Required arguments that are missing. -/
  | missingArguments (args : List String)
  /-- A program that needs a subcommand got none. -/
  | missingCommand (bin : String) (names : List String)
  /-- A word that is not a subcommand where one was expected. -/
  | unknownCommand (name : String)
  deriving DecidableEq, Repr

/-- **A refusal:** the error, its tips, and the usage line to show. -/
structure Failure where
  error : UsageError
  tips : List Tip := []
  usage : Option String := none
  deriving Repr

namespace UsageError

/-- The bracketed list of possible values, on a line of its own. -/
def valuesLine (title : String) (values : List String) : String :=
  if values.isEmpty then "" else "\n  [" ++ title ++ ": " ++ ", ".intercalate values ++ "]"

/-- The reason, as written after `error: `. -/
def message : UsageError → String
  | unexpectedArgument arg => "unexpected argument '" ++ arg ++ "' found"
  | unexpectedValue value arg =>
    "unexpected value '" ++ value ++ "' for '" ++ arg ++ "' found; no more were expected"
  | invalidValue value arg possible =>
    (if value.isEmpty then "a value is required for '" ++ arg ++ "' but none was supplied"
     else "invalid value '" ++ value ++ "' for '" ++ arg ++ "'") ++ valuesLine "possible values" possible
  | badValue value arg reason => "invalid value '" ++ value ++ "' for '" ++ arg ++ "': " ++ reason
  | repeated arg => "the argument '" ++ arg ++ "' cannot be used multiple times"
  | missingArguments args =>
    "the following required arguments were not provided:" ++ String.join (args.map ("\n  " ++ ·))
  | missingCommand bin names =>
    "'" ++ bin ++ "' requires a subcommand but one was not provided" ++ valuesLine "subcommands" names
  | unknownCommand name => "unrecognized subcommand '" ++ name ++ "'"

end UsageError

namespace Tip

/-- The names quoted and separated by commas. -/
def quoted (names : List String) : String :=
  ", ".intercalate (names.map fun n => "'" ++ n ++ "'")

/-- The text of a tip. -/
def text : Tip → String
  | similar kind [name] => "a similar " ++ kind ++ " exists: '" ++ name ++ "'"
  | similar kind names => "some similar " ++ kind ++ "s exist: " ++ quoted names
  | asValue arg => "to pass '" ++ arg ++ "' as a value, use '-- " ++ arg ++ "'"
  | ofSubcommand command flag => "'" ++ command ++ " " ++ flag ++ "' exists"
  | dropEscape command =>
    "subcommand '" ++ command ++ "' exists; to use it, remove the '--' before it"

/-- Whether the tip names close names; those come first, after a blank line of their own. -/
def isSimilar : Tip → Bool
  | similar _ _ => true
  | _ => false

end Tip

/-- **The text of a refusal.** -/
def Failure.render (f : Failure) : String :=
  let similar := f.tips.filter Tip.isSimilar
  let others := f.tips.filter (!·.isSimilar)
  let similarText := match similar with
    | [] => ""
    | t :: ts => "\n\n  tip: " ++ t.text ++ String.join (ts.map fun t => "\n  tip: " ++ t.text)
  let othersText :=
    if others.isEmpty then ""
    else (if similar.isEmpty then "\n" else "") ++ String.join (others.map fun t => "\n  tip: " ++ t.text)
  let usageText := match f.usage with
    | some u => "\n\nUsage: " ++ u
    | none => ""
  "error: " ++ f.error.message ++ similarText ++ othersText ++ usageText ++
    "\n\nFor more information, try '--help'.\n"

end DoubleWord.Cli
