import DoubleWord.Calc.Args
import DoubleWord.Log.Event

/-!
# Running the calculator

A run parses the command line, then carries out the command. Its outcome is an exit status and
the texts written to standard output and standard error:

* help asked for: status `0`, the help on standard output;
* a refused command line: status `2`, the refusal (or, for an empty command line, the help) on
  standard error;
* a result: status `0`, the log lines the filter lets through and then the result on standard
  output;
* an operand that cannot be read, or a division by zero: status `1`, the log lines on standard
  output and the error with its cause on standard error.

The log filter comes from `RUST_LOG` when it is set and well formed; otherwise it lets through
everything with `-v` and warnings and errors without. Colours are used unless `NO_COLOR` is set
to a non-empty value.

Source: `main`, `apps/calc/src/main.rs:63-104`, with the `tracing-subscriber` log it installs and
the error report of `anyhow`.
-/

set_option autoImplicit false

namespace DoubleWord.Calc

open Cli Log

/-- **What a run leaves:** its exit status and what it wrote. -/
structure Outcome where
  status : Nat
  stdout : String
  stderr : String
  deriving DecidableEq, Repr

/-- The event that logs the arguments.
Source: the `tracing::debug!` of `main`, `apps/calc/src/main.rs:76`. -/
def parsedEvent (a : Args) : Event :=
  ⟨.debug, "fwnum_calc", "parsed arguments", [("args", a.text)]⟩

/-- The event that logs a text that is no numeral.
Source: the `tracing::trace!` of `reject`, `fwnum/src/bigint/text.rs:30-33`. -/
def rejectedEvent (e : Text.ParseError) : Event :=
  ⟨.trace, "fwnum::bigint::text", "rejected integer text", [("kind", e.logText)]⟩

/-- The event that logs an evaluation.
Source: the `tracing::debug!` of `evaluate`, `apps/calc/src/eval.rs:59`. -/
def evaluateEvent (op : Op) (lhs rhs : U128) : Event :=
  ⟨.debug, "fwnum_calc::eval", "evaluate", [("op", op.logName), ("lhs", lhs.toDecimal), ("rhs", rhs.toDecimal)]⟩

/-- **What a command does:** the events it logs, in order, and its result line or why there is
none. -/
structure Steps where
  events : List Event
  result : Except Failed String
  deriving Repr

/-- Reads an operand, logging why when it is no numeral. -/
def readLogged (c : Codec) (text : String) : List Event × Except Failed U128 :=
  match c.read text with
  | .ok v => ([], .ok v)
  | .error e =>
    match e with
    | .unreadable _ _ cause => ([rejectedEvent cause], .error (.calc e))
    | _ => ([], .error (.calc e))

/-- A written result, or the fault that stopped it. -/
def written (r : Except Fault String) : Except Failed String :=
  r.mapError Failed.fault

/-- **Carries out a command** in a codec.
Source: the `match args.command` of `main`, `apps/calc/src/main.rs:83-101`. -/
def Command.steps (c : Codec) : Command → Steps
  | .eval lhs op rhs =>
    match readLogged c lhs with
    | (ev, .error e) => ⟨ev, .error e⟩
    | (_, .ok l) =>
      match readLogged c rhs with
      | (ev, .error e) => ⟨ev, .error e⟩
      | (_, .ok r) =>
        ⟨[evaluateEvent op l r], match evaluate op l r with
          | .ok v => written (v.display c)
          | .error e => .error e⟩
  | .factorial n => ⟨[], written (c.write (Calc.factorial n))⟩
  | .convert value target =>
    match readLogged c value with
    | (ev, .error e) => ⟨ev, .error e⟩
    | (_, .ok v) => ⟨[], written (({ c with base := target } : Codec).write v)⟩
  | .words value =>
    match readLogged c value with
    | (ev, .error e) => ⟨ev, .error e⟩
    | (_, .ok v) => ⟨[], .ok (Calc.words v)⟩

/-- **The report of an error:** its message, then its causes, indented, numbered when there are
several. Source: the report of the error that `main` returns, as `anyhow` writes it. -/
def report (chain : List String) : String :=
  match chain with
  | [] => "Error\n"
  | [m] => "Error: " ++ m ++ "\n"
  | [m, c] => "Error: " ++ m ++ "\n\nCaused by:\n    " ++ c ++ "\n"
  | m :: cs =>
    "Error: " ++ m ++ "\n\nCaused by:" ++
      String.join ((List.range cs.length).zip cs |>.map fun (i, c) => "\n    " ++ toString i ++ ": " ++ c) ++ "\n"

/-- The filter of a run: `RUST_LOG` when it is set and well formed, else everything with `-v` and
warnings without. Source: the `EnvFilter` that `main` installs, `apps/calc/src/main.rs:65-74`. -/
def filterOf (env : String → Option String) (verbose : Bool) : Filter :=
  let fallback := Filter.upTo (if verbose then .trace else .warn)
  match env "RUST_LOG" with
  | some s => (Filter.parse? s).getD fallback
  | none => fallback

/-- Whether the log is coloured: unless `NO_COLOR` is set and not empty. -/
def colorsOf (env : String → Option String) : Bool :=
  match env "NO_COLOR" with
  | some v => v.isEmpty
  | none => true

/-- **Runs the calculator** on a command line, with `env` for the environment.
Source: `main`, `apps/calc/src/main.rs:63-104`. -/
def run (env : String → Option String) (argv : List String) : Outcome :=
  match calculator.parse env argv with
  | .error (.help text) => ⟨0, text, ""⟩
  | .error (.refusal text) => ⟨2, "", text⟩
  | .ok m =>
    let args := Args.ofMatches m
    let steps := args.command.steps args.codec
    let log := (filterOf env args.verbose).log (colorsOf env) (parsedEvent args :: steps.events)
    match steps.result with
    | .ok line => ⟨0, log ++ line ++ "\n", ""⟩
    | .error (.calc e) => ⟨1, log, report e.chain⟩
    | .error (.fault f) => ⟨101, log, f.message ++ "\n"⟩

end DoubleWord.Calc
