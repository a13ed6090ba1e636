import DoubleWord.Log.Filter

/-!
# Log events

An event is a level, a target (the module that reports it), a message and named values. It is
written on one line: the level, the target and a colon, the message, then `name=value` for each
value, separated by spaces. On a terminal that takes colours the level is coloured, the target
dimmed, and each value's name set in italics with the `=` dimmed.

Source: the compact event format of `tracing-subscriber` that `main` installs without time, file or
line, `apps/calc/src/main.rs:65-74`.
-/

set_option autoImplicit false

namespace DoubleWord.Log

/-- **An event:** its level, target, message and named values, already written out. -/
structure Event where
  level : Level
  target : String
  message : String
  values : List (String × String)
  deriving DecidableEq, Repr

/-- Text between a terminal style code and the reset code. -/
def styled (code text : String) : String := "\x1b[" ++ code ++ "m" ++ text ++ "\x1b[0m"

namespace Event

/-- The names an event carries: its message, then its values. -/
def fieldNames (e : Event) : List String := "message" :: e.values.map (·.1)

/-- **The line of an event,** with colours or without. -/
def render (e : Event) (colors : Bool) : String :=
  let level := if colors then styled e.level.color e.level.label else e.level.label
  let target := if colors then styled "2" e.target ++ styled "2" ":" else e.target ++ ":"
  let value (nv : String × String) : String :=
    if colors then " " ++ styled "3" nv.1 ++ styled "2" "=" ++ nv.2 else " " ++ nv.1 ++ "=" ++ nv.2
  level ++ " " ++ target ++ " " ++ e.message ++ String.join (e.values.map value) ++ "\n"

end Event

/-- Whether a filter lets an event through. -/
def Filter.admits (f : Filter) (e : Event) : Bool :=
  f.enables e.target e.fieldNames e.level

/-- **The log of some events:** the lines of those the filter lets through. -/
def Filter.log (f : Filter) (colors : Bool) (events : List Event) : String :=
  String.join ((events.filter f.admits).map (·.render colors))

end DoubleWord.Log
