import DoubleWord.Cli.Grammar

/-!
# Help texts

The help of a level is its description, its usage line, then its sections: the subcommands, the
positional arguments and the options. In the short form each entry is one line, names padded to
a column and the help after them; the long form puts each option's help on the lines below it,
indented, with the facts about it (environment variable, default, possible values) on lines of
their own. The long form is used only where it says more: for the program, whose long
description differs from the short one.

Source: the help template of `clap`, as `--help` and `-h` of `apps/calc/src/main.rs:14-61` show it.
-/

set_option autoImplicit false

namespace DoubleWord.Cli

/-- `n` spaces. -/
def spaces (n : Nat) : String := String.ofList (List.replicate n ' ')

/-- Rows of a short section: names padded to the widest, two spaces, then the help. -/
def shortRows (rows : List (String × String)) : String :=
  let width := rows.foldl (fun w r => max w r.1.length) 0
  "\n".intercalate (rows.map fun r => "  " ++ r.1 ++ spaces (width - r.1.length) ++ "  " ++ r.2)

/-- Every line of `text` indented by ten spaces. -/
def indentLines (text : String) : String :=
  "\n".intercalate ((text.splitOn "\n").map (spaces 10 ++ ·))

/-- The facts shown after an option's help: its environment variable with the value it has
now, and its default. -/
def optionFacts (env : String → Option String) (o : Opt) : List String :=
  let fromEnv := match o.env with
    | some name => ["[env: " ++ name ++ "=" ++ (env name).getD "" ++ "]"]
    | none => []
  let dflt := match o.default with
    | some d => ["[default: " ++ d ++ "]"]
    | none => []
  fromEnv ++ dflt

/-- The facts shown after a positional argument's help: its possible values. -/
def positionalFacts (p : Positional) : List String :=
  match p.rule.possible with
  | [] => []
  | vs => ["[possible values: " ++ ", ".intercalate vs ++ "]"]

/-- Help followed by facts on one line. -/
def withFacts (help : String) (facts : List String) : String :=
  " ".intercalate ((if help.isEmpty then [] else [help]) ++ facts)

/-- The help switch's line, pointing to the other form when there is one. -/
def helpSwitchLine (long hasLong : Bool) : String :=
  if long then "Print help (see a summary with '-h')"
  else if hasLong then "Print help (see more with '--help')"
  else "Print help"

/-- The help switch as an option, for listing. -/
def helpSwitch (line : String) : Opt := { id := "help", short := some 'h', long := "help", help := line }

/-- A help text from its parts. -/
def helpText (about usage : String) (sections : List (String × String)) : String :=
  about ++ "\n\nUsage: " ++ usage ++ "\n\n" ++
    "\n\n".intercalate (sections.map fun s => s.1 ++ ":\n" ++ s.2) ++ "\n"

namespace Program

/-- The rows of the subcommands section. -/
def commandRows (p : Program) : List (String × String) :=
  p.subcommands.map (fun s => (s.name, s.about)) ++ [("help", helpCommandAbout)]

/-- **The program's help,** short or long. -/
def help (p : Program) (env : String → Option String) (long : Bool) : String :=
  let opts := p.options ++ [helpSwitch (helpSwitchLine long true)]
  let optionSection :=
    if long then
      "\n\n".intercalate (opts.map fun o =>
        let facts := optionFacts env o
        let body := if facts.isEmpty then o.help else o.help ++ "\n\n" ++ "\n".intercalate facts
        "  " ++ o.spec ++ "\n" ++ indentLines body)
    else shortRows (opts.map fun o => (o.spec, withFacts o.help (optionFacts env o)))
  helpText (if long then p.longAbout else p.about) p.usage
    [("Commands", shortRows p.commandRows), ("Options", optionSection)]

/-- The help of the subcommand `help`. -/
def helpCommandHelp (p : Program) : String :=
  helpCommandAbout ++ "\n\nUsage: " ++ p.name ++ " help [COMMAND]...\n\nArguments:\n" ++
    shortRows [("[COMMAND]...", "Print help for the subcommand(s)")] ++ "\n"

end Program

/-- **A subcommand's help.** -/
def Subcommand.help (p : Program) (s : Subcommand) (env : String → Option String) : String :=
  let opts := s.options ++ [helpSwitch (helpSwitchLine false false)]
  let args := if s.positionals.isEmpty then []
    else [("Arguments", shortRows (s.positionals.map fun a =>
      (a.display, withFacts a.help (positionalFacts a))))]
  helpText s.about (s.usage p)
    (args ++ [("Options", shortRows (opts.map fun o => (o.spec, withFacts o.help (optionFacts env o))))])

end DoubleWord.Cli
