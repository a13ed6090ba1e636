import DoubleWord.Cli.Grammar
import DoubleWord.Cli.Help
import DoubleWord.Cli.Failure
import DoubleWord.Cli.Similarity

/-!
# Parsing a command line

The arguments are read left to right, one level at a time: the program's level until a
subcommand is named, then the subcommand's level with the arguments after its name.

* `--name`, `--name=value`, `-c`, clustered switches `-abc` and attached values `-cvalue` or
  `-c=value` name options; `--` ends the options; other words fill the positional arguments in
  order.
* An option's value, or a positional argument's, is checked only when the next argument is taken
  or the level ends (`Scan.pending`). So a misplaced word after an invalid value is reported
  before the invalid value.
* A word that names a subcommand is the subcommand wherever an option or positional value could
  stand, except after `--`.
* A positional argument that allows hyphens takes `-x` when some letter of it is not a short
  option, and `--name` when no option has that name.
* `-h` and `--help` stop with the help, the short or the long one; the subcommand `help` shows the
  help of the subcommands named after it.
* When a level ends: the pending value is checked, absent options are taken from the
  environment, then from their defaults; then a program without a subcommand shows its help when
  nothing was given, and otherwise every required argument must be present.
* A program's level ends after its subcommand's, so the subcommand's errors come first.

Source: the argument parser of `clap` that `Args::parse` runs, `apps/calc/src/main.rs:64`.
-/

set_option autoImplicit false

namespace DoubleWord.Cli

/-- **Where a value came from.** -/
inductive Origin where
  | commandLine
  | environment
  | fallback
  deriving DecidableEq, Repr

/-- **A value of an argument,** by the argument's key, and where it came from. -/
structure Given where
  id : String
  value : String
  origin : Origin
  deriving DecidableEq, Repr

/-- Whether the user gave the value, on the command line or in the environment. -/
def Given.explicit (g : Given) : Bool := g.origin != .fallback

/-- **How parsing stops short of a match:** with a help text for standard output, or with a
refusal for standard error. -/
inductive Halt where
  | help (text : String)
  | refusal (text : String)
  deriving DecidableEq, Repr

/-- A refusal written out. -/
def refuse (f : Failure) : Halt := .refusal f.render

/-! ## Integer values -/

/-- The least value of a signed 64-bit integer. -/
def int64Min : Int := -(Int.pow 2 63)

/-- The greatest value of a signed 64-bit integer. -/
def int64Max : Int := Int.pow 2 63 - 1

/-- Reads decimal digits after `acc`, toward the negative side when `negative`; the first
character that is no digit, or the first digit that leaves 64 bits, ends it with a reason. -/
def readDecimal (negative : Bool) : Int → List Char → Except String Int
  | acc, [] => .ok acc
  | acc, c :: cs =>
    if c.isDigit then
      let d : Int := (c.toNat - '0'.toNat : Nat)
      let next := if negative then acc * 10 - d else acc * 10 + d
      if next < int64Min then .error "number too small to fit in target type"
      else if int64Max < next then .error "number too large to fit in target type"
      else readDecimal negative next cs
    else .error "invalid digit found in string"

/-- **Reads a signed 64-bit decimal integer** with an optional sign, or says why it is none. -/
def readInt64 (s : String) : Except String Int :=
  match s.toList with
  | [] => .error "cannot parse integer from empty string"
  | ['+'] => .error "invalid digit found in string"
  | ['-'] => .error "invalid digit found in string"
  | '+' :: cs => readDecimal false 0 cs
  | '-' :: cs => readDecimal true 0 cs
  | cs => readDecimal false 0 cs

/-! ## Checking values -/

/-- A value that is not among the possible ones, with the closest possible one as a tip. An empty
value reads as a missing one. -/
def notPossible (arg value : String) (possible : List String) : Failure :=
  { error := .invalidValue value arg possible,
    tips := match (closeNames value possible).getLast? with
      | some v => [.similar "value" [v]]
      | none => [] }

/-- **Checks a value** of the argument named `arg` against a rule. An integer out of range is
reported as read, without sign or leading zeros. -/
def ValueRule.check (rule : ValueRule) (arg value : String) : Except Failure Unit :=
  match rule with
  | .text => .ok ()
  | .integer lo hi =>
    match readInt64 value with
    | .error reason => .error { error := .badValue value arg reason }
    | .ok n =>
      let reason := toString n ++ " is not in " ++ toString lo ++ "..=" ++ toString hi
      if lo ≤ n ∧ n ≤ hi then .ok () else .error { error := .badValue (toString n) arg reason }
  | .boolean => if ["true", "false"].contains value then .ok () else .error (notPossible arg value ["true", "false"])
  | .choice names => if names.contains value then .ok () else .error (notPossible arg value names)

/-- **An argument that takes values:** an option or a positional argument. -/
inductive Slot where
  | option (o : Opt)
  | positional (p : Positional)
  deriving Repr

namespace Slot

/-- The key of the argument. -/
def id : Slot → String
  | option o => o.id
  | positional p => p.id

/-- The argument as messages name it. -/
def display : Slot → String
  | option o => o.display
  | positional p => p.display

/-- Whether the argument takes a value; a switch takes none. -/
def takesValue : Slot → Bool
  | option o => o.takesValue
  | positional _ => true

/-- The rule of the argument's value; a switch's value is `true` or `false`. -/
def rule : Slot → ValueRule
  | option o => if o.takesValue then o.rule else .boolean
  | positional p => p.rule

/-- Whether the argument is an option. -/
def isOption : Slot → Bool
  | option _ => true
  | positional _ => false

end Slot

/-- An argument whose values are read and not yet checked. -/
structure Pending where
  slot : Slot
  values : List String
  deriving Repr

/-- **The state of reading one level.** -/
structure Scan where
  /-- The values taken so far, in order. -/
  given : List Given := []
  /-- The argument whose values are read and not yet checked. -/
  pending : Option Pending := none
  /-- How many positional arguments are filled. -/
  position : Nat := 0
  /-- Whether `--` was read, after which every word is a positional value. -/
  escaped : Bool := false
  /-- Whether some option or positional argument of the level was matched. -/
  matched : Bool := false
  deriving Repr

/-- The keys of the arguments the user gave, in order. -/
def Scan.explicitIds (st : Scan) : List String :=
  (st.given.filter (·.explicit)).map (·.id)

/-! ## Levels -/

/-- **One level of a grammar** as the parser reads it. -/
structure Level where
  /-- The name of the level as it is called. -/
  bin : String
  /-- Its options, without the help switch. -/
  options : List Opt
  positionals : List Positional
  /-- The names of its subcommands, `help` included. -/
  commands : List String
  /-- Each subcommand with the long names of its options. -/
  commandFlags : List (String × List String)
  /-- Its full usage line. -/
  usage : String
  shortHelp : String
  longHelp : String

namespace Level

/-- The long option names of the level, `help` last. -/
def longs (lv : Level) : List String := lv.options.map (·.long) ++ ["help"]

/-- The short option letters of the level, `h` last. -/
def shorts (lv : Level) : List Char := lv.options.filterMap (·.short) ++ ['h']

/-- Whether the positional argument at `i` takes values that start with `-`. -/
def hyphenAt (lv : Level) (i : Nat) : Bool := (lv.positionals[i]?).any (·.hyphenValues)

/-- **The usage line that names what was used:** the level's name, its required options, the
used options, every positional argument, and `<COMMAND>` where a subcommand must follow. With
nothing used it is the full usage line. -/
def usageWith (lv : Level) (used : List String) : String :=
  if used.isEmpty then lv.usage
  else
    let known := lv.options ++ [helpSwitch ""]
    let named := lv.options.filter (·.required) ++ used.filterMap fun id => known.find? (·.id == id)
    let distinct := named.foldl (fun acc o => if acc.any (·.id == o.id) then acc else acc ++ [o]) []
    lv.bin ++ String.join (distinct.map (" " ++ ·.display)) ++
      String.join (lv.positionals.map (" " ++ ·.display)) ++
      if lv.commands.isEmpty then "" else " <COMMAND>"

/-- **Takes an argument's values:** a value is required where one is taken, an option is given
once, and the value passes the argument's rule. A switch from the command line takes `true`. -/
def commit (lv : Level) (st : Scan) (slot : Slot) (values : List String) (origin : Origin) :
    Except Failure Scan :=
  if origin == .commandLine && slot.takesValue && values.isEmpty then
    .error (notPossible slot.display "" slot.rule.possible)
  else if st.given.any (·.id == slot.id) then
    .error { error := .repeated slot.display, usage := some lv.usage }
  else
    let value := values.headD "true"
    match slot.rule.check slot.display value with
    | .error f => .error f
    | .ok () => .ok { st with given := st.given ++ [⟨slot.id, value, origin⟩] }

/-- **Checks the pending argument,** if there is one. -/
def resolve (lv : Level) (st : Scan) : Except Failure Scan :=
  match st.pending with
  | none => .ok st
  | some p => lv.commit { st with pending := none } p.slot p.values .commandLine

/-- The state after the pending argument is taken without a check, as a usage line after an
error sees it: an argument with a value counts as used, unless it was given twice. -/
def settle (st : Scan) : Scan :=
  match st.pending with
  | none => st
  | some p =>
    let st := { st with pending := none }
    if p.values.isEmpty then st
    else if st.given.any (·.id == p.slot.id) then
      { st with given := st.given.filter (·.id != p.slot.id) }
    else { st with given := st.given ++ [⟨p.slot.id, "", .commandLine⟩] }

/-- Checks the pending argument, then takes an argument's values from the command line. -/
def accept (lv : Level) (st : Scan) (slot : Slot) (values : List String) : Except Failure Scan :=
  match lv.resolve st with
  | .ok st => lv.commit st slot values .commandLine
  | .error f => .error f

/-- An option that waits for its value in the next argument, after the pending one is checked. -/
def await (lv : Level) (st : Scan) (o : Opt) : Except Halt Scan :=
  match lv.resolve st with
  | .ok st => .ok { st with pending := some ⟨.option o, []⟩ }
  | .error f => .error (refuse f)

/-- The help, once the pending argument is checked. -/
def showHelp (lv : Level) (st : Scan) (long : Bool) : Halt :=
  match lv.resolve st with
  | .ok _ => .help (if long then lv.longHelp else lv.shortHelp)
  | .error f => refuse f

/-- A subcommand with an option whose long name is close to `name`: of those named later on
the command line, the one named first. -/
def flagOfCommand (lv : Level) (name : String) (rest : List String) : Option (String × String) :=
  let found := lv.commandFlags.filterMap fun (cmd, longs) =>
    match (closeNames name longs).getLast?, rest.idxOf? cmd with
    | some flag, some pos => some (pos, cmd, flag)
    | _, _ => none
  let best := found.foldl (fun acc x => match acc with
    | some y => if x.1 < y.1 then some x else some y
    | none => some x) none
  best.map (·.2)

/-- **The refusal of a word that fits nowhere:** a subcommand after `--`, a word close to
subcommand names, a word where a subcommand is expected, or an unexpected argument. -/
def strayFailure (lv : Level) (st : Scan) (t : String) : Failure :=
  let usage := some lv.usage
  if st.escaped && lv.commands.contains t then
    { error := .unexpectedArgument t, tips := [.dropEscape t], usage }
  else if lv.commands.isEmpty then { error := .unexpectedArgument t, usage }
  else match closeNames t lv.commands with
    | [] =>
      if !lv.positionals.isEmpty || !st.matched then { error := .unknownCommand t, usage }
      else { error := .unexpectedArgument t, usage }
    | names => { error := .unknownCommand t, tips := [.similar "subcommand" names], usage }

/-- A word as the next positional argument's value, once the pending argument is checked. -/
def takePositional (lv : Level) (st : Scan) (t : String) : Except Halt Scan :=
  match lv.positionals[st.position]? with
  | some p =>
    match lv.resolve st with
    | .ok st => .ok { st with pending := some ⟨.positional p, [t]⟩, position := st.position + 1, matched := true }
    | .error f => .error (refuse f)
  | none => .error (refuse (lv.strayFailure st t))

/-- **Takes a plain word:** the value of an option that waits for one, else the next positional
argument's value. -/
def takePlain (lv : Level) (st : Scan) (t : String) : Except Halt Scan :=
  match st.pending with
  | some p =>
    if p.slot.isOption && p.values.isEmpty then .ok { st with pending := some { p with values := [t] } }
    else lv.takePositional st t
  | none => lv.takePositional st t

/-- A switch that was given a value: refused, with a usage line that names what was used. -/
def unneeded (lv : Level) (st : Scan) (o : Opt) (value : String) : Halt :=
  refuse { error := .unexpectedValue value o.display, usage := some (lv.usageWith (st.explicitIds ++ [o.id])) }

/-- An unknown long option: refused with the closest long name of the level, else the
subcommand that has a close one, else the way to pass it as a value. -/
def unknownLong (lv : Level) (st : Scan) (name : String) (rest : List String) : Halt :=
  let st := settle st
  let arg := "--" ++ name
  match (closeNames name lv.longs).getLast? with
  | some close =>
    let id := ((lv.options.find? (·.long == close)).map (·.id)).getD "help"
    refuse { error := .unexpectedArgument arg, tips := [.similar "argument" ["--" ++ close]],
             usage := some (lv.usageWith (st.explicitIds ++ [id])) }
  | none =>
    let tips := match lv.flagOfCommand name rest with
      | some (cmd, flag) => [Tip.ofSubcommand cmd ("--" ++ flag)]
      | none => if lv.positionals.isEmpty then [] else [Tip.asValue arg]
    refuse { error := .unexpectedArgument arg, tips, usage := some (lv.usageWith st.explicitIds) }

/-- **Takes `--body`:** a name, and a value after the first `=`. -/
def takeLong (lv : Level) (st : Scan) (body : String) (rest : List String) : Except Halt Scan :=
  let name := String.ofList (body.toList.takeWhile (· ≠ '='))
  let value := match body.toList.dropWhile (· ≠ '=') with
    | [] => none
    | _ :: v => some (String.ofList v)
  if name == "help" then
    match value with
    | some v => .error (lv.unneeded st (helpSwitch "") v)
    | none => .error (lv.showHelp st true)
  else match lv.options.find? (·.long == name) with
  | some o =>
    let st := { st with matched := true }
    match o.takesValue, value with
    | true, some v => (lv.accept st (.option o) [v]).mapError refuse
    | true, none => lv.await st o
    | false, some v => .error (lv.unneeded st o v)
    | false, none => (lv.accept st (.option o) []).mapError refuse
  | none =>
    if lv.hyphenAt st.position then lv.takePlain st ("--" ++ body)
    else .error (lv.unknownLong st name rest)

/-- **Takes a cluster of short options** letter by letter; an option that takes a value takes
the rest of the cluster, without a leading `=`, or else the next argument. -/
def shortCluster (lv : Level) : Scan → List Char → Except Halt Scan
  | st, [] => .ok st
  | st, c :: cs =>
    if c == 'h' then .error (lv.showHelp st false)
    else match lv.options.find? (·.short == some c) with
    | some o =>
      let st := { st with matched := true }
      if o.takesValue then
        match cs with
        | [] => lv.await st o
        | '=' :: v => (lv.accept st (.option o) [String.ofList v]).mapError refuse
        | v => (lv.accept st (.option o) [String.ofList v]).mapError refuse
      else match lv.accept st (.option o) [] with
        | .ok st => lv.shortCluster st cs
        | .error f => .error (refuse f)
    | none =>
      let arg := "-" ++ String.singleton c
      .error (refuse { error := .unexpectedArgument arg,
                       tips := if lv.positionals.isEmpty then [] else [.asValue arg],
                       usage := some lv.usage })

/-- **Takes `-cluster`:** a value of a positional argument that allows hyphens when some letter
is no short option, else short options. -/
def takeShort (lv : Level) (st : Scan) (cs : List Char) : Except Halt Scan :=
  if lv.hyphenAt st.position && cs.any (fun c => !lv.shorts.contains c) then
    lv.takePlain st ("-" ++ String.ofList cs)
  else lv.shortCluster st cs

/-- What reading a level's arguments ends with: all are read, or a subcommand is named, with the
arguments after it. -/
inductive Stop where
  | finished (st : Scan)
  | command (st : Scan) (name : String) (rest : List String)

/-- **Reads a level's arguments** until they end or a subcommand is named. -/
def scan (lv : Level) : Scan → List String → Except Halt Stop
  | st, [] => .ok (.finished st)
  | st, t :: rest =>
    let next : Except Halt Scan :=
      if st.escaped then lv.takePlain st t
      else if t == "--" then
        match lv.resolve st with
        | .ok st => .ok { st with escaped := true }
        | .error f => .error (refuse f)
      else if t.startsWith "--" then lv.takeLong st (String.ofList (t.toList.drop 2)) rest
      else if t.startsWith "-" && t != "-" then lv.takeShort st (t.toList.drop 1)
      else lv.takePlain st t
    if !st.escaped && lv.commands.contains t then .ok (.command st t rest)
    else match next with
      | .ok st => lv.scan st rest
      | .error h => .error h

/-- Takes the values of absent options from the environment. -/
def addEnv (lv : Level) (env : String → Option String) (st : Scan) : Except Failure Scan :=
  lv.options.foldlM (fun st o =>
    match o.env with
    | some name =>
      if st.given.any (·.id == o.id) then .ok st
      else match env name with
        | some v => lv.commit st (.option o) [v] .environment
        | none => .ok st
    | none => .ok st) st

/-- Gives absent options their defaults; a switch's default is `false`. -/
def addDefaults (lv : Level) (given : List Given) : List Given :=
  lv.options.foldl (fun acc o =>
    if acc.any (·.id == o.id) then acc
    else match o.default, o.takesValue with
      | some d, _ => acc ++ [⟨o.id, d, .fallback⟩]
      | none, false => acc ++ [⟨o.id, "false", .fallback⟩]
      | none, true => acc) given

/-- **Ends a level:** checks the pending argument, takes the environment and the defaults, then
requires a subcommand where one must follow (showing the help when nothing was given) and every
required argument. -/
def finish (lv : Level) (env : String → Option String) (st : Scan) (named : Bool) :
    Except Halt (List Given) :=
  match lv.resolve st >>= lv.addEnv env with
  | .error f => .error (refuse f)
  | .ok st =>
    let given := lv.addDefaults st.given
    if !lv.commands.isEmpty && !named then
      if given.any (·.explicit) then
        .error (refuse { error := .missingCommand lv.bin lv.commands, usage := some lv.usage })
      else .error (.refusal lv.shortHelp)
    else
      let absent (id : String) : Bool := !given.any (·.id == id)
      let opts := lv.options.filter fun o => o.required && absent o.id
      let poss := lv.positionals.filter fun p => absent p.id
      if opts.isEmpty && poss.isEmpty then .ok given
      else
        let missing := opts.map (·.display) ++ poss.map (·.display)
        let used := st.explicitIds ++ opts.map (·.id) ++ poss.map (·.id)
        .error (refuse { error := .missingArguments missing, usage := some (lv.usageWith used) })

end Level

/-! ## Programs -/

/-- **A match:** the program's values, the subcommand, and the subcommand's values. -/
structure Matches where
  top : List Given
  command : String
  args : List Given
  deriving Repr

/-- The value of the argument with key `id`. -/
def lookup (given : List Given) (id : String) : Option String :=
  (given.find? (·.id == id)).map (·.value)

namespace Program

/-- The program's level. -/
def level (p : Program) (env : String → Option String) : Level :=
  { bin := p.name, options := p.options, positionals := [], commands := p.commandNames,
    commandFlags := p.subcommands.map fun s => (s.name, s.options.map (·.long) ++ ["help"]),
    usage := p.usage, shortHelp := p.help env false, longHelp := p.help env true }

/-- **The subcommand `help`:** the help of the subcommand named after it, or of the program;
a name that is no subcommand there is refused. -/
def helpCommand (p : Program) (env : String → Option String) : List String → Halt
  | [] => .help (p.help env true)
  | t :: more =>
    if t == "help" then
      match more with
      | [] => .help p.helpCommandHelp
      | u :: _ => refuse { error := .unknownCommand u, usage := some (p.name ++ " help [COMMAND]...") }
    else match p.find? t with
      | some s =>
        match more with
        | [] => .help (s.help p env)
        | u :: _ => refuse { error := .unknownCommand u, usage := some (s.usage p) }
      | none => refuse { error := .unknownCommand t, usage := some p.usage }

end Program

/-- A subcommand's level. -/
def Subcommand.level (p : Program) (s : Subcommand) (env : String → Option String) : Level :=
  { bin := s.bin p, options := s.options, positionals := s.positionals, commands := [],
    commandFlags := [], usage := s.usage p, shortHelp := s.help p env, longHelp := s.help p env }

/-- **Parses a command line** against a program, with `env` for the environment. -/
def Program.parse (p : Program) (env : String → Option String) (args : List String) :
    Except Halt Matches :=
  let top := p.level env
  let missing := refuse { error := .missingCommand p.name p.commandNames, usage := some p.usage }
  match top.scan {} args with
  | .error h => .error h
  | .ok (.finished st) =>
    match top.finish env st false with
    | .error h => .error h
    | .ok _ => .error missing
  | .ok (.command st name rest) =>
    match p.find? name with
    | none => .error (p.helpCommand env rest)
    | some s =>
      let leaf := s.level p env
      let leafEnd := match leaf.scan {} rest with
        | .ok (.finished lst) => .ok lst
        | .ok (.command lst _ _) => .ok lst
        | .error h => .error h
      match leafEnd >>= fun lst => leaf.finish env lst true with
      | .error h => .error h
      | .ok largs =>
        match top.finish env st true with
        | .error h => .error h
        | .ok targs => .ok ⟨targs, name, largs⟩

end DoubleWord.Cli
