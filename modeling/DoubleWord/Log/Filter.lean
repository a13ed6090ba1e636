/-!
# Log levels and filters

An event has a level, from `error`, the most severe, to `trace`; a threshold lets an event pass
when its level is at most as verbose as the threshold. Thresholds are ranked `0` (`off`) to `5`
(`trace`).

A filter is written as directives separated by commas:

* a level alone (`debug`, `WARN`, `3`, `off`) sets the threshold for every target;
* `target=level` sets it for targets that start with `target`; without `=level` the threshold is
  `trace`; a target that reads as a level is no target;
* `target[span{field}]=level` also names a span and fields. A directive that names a span, or a
  field with a value, matches only inside spans, so never an event here; one that names fields
  matches only events that have them.

One malformed directive makes the whole filter malformed. An event is decided by the most
specific directive that matches it: the longest target first, then the most fields; a later
directive replaces one with the same target and fields. No matching directive, no event.

Source: the `EnvFilter` of `tracing-subscriber` that `main` installs, `apps/calc/src/main.rs:65-74`.
-/

set_option autoImplicit false

namespace DoubleWord.Log

/-- **The level of an event,** from the most severe to the most verbose. -/
inductive Level where
  | error
  | warn
  | info
  | debug
  | trace
  deriving DecidableEq, Repr

namespace Level

/-- The rank of a level: `1` for `error` up to `5` for `trace`. -/
def rank : Level → Nat
  | error => 1
  | warn => 2
  | info => 3
  | debug => 4
  | trace => 5

/-- The level's label, five characters wide. -/
def label : Level → String
  | error => "ERROR"
  | warn => " WARN"
  | info => " INFO"
  | debug => "DEBUG"
  | trace => "TRACE"

/-- The terminal colour code of the level's label. -/
def color : Level → String
  | error => "31"
  | warn => "33"
  | info => "32"
  | debug => "34"
  | trace => "35"

end Level

/-- The threshold of a level name, in any letter case, or of a digit `0` to `5`. -/
def thresholdOfWord? (s : String) : Option Nat :=
  match s.toLower with
  | "off" | "0" => some 0
  | "error" | "1" => some 1
  | "warn" | "2" => some 2
  | "info" | "3" => some 3
  | "debug" | "4" => some 4
  | "trace" | "5" => some 5
  | _ => none

/-- The threshold that a text reads as: a level word, or a number up to `5` in decimal
digits with an optional `+`. -/
def thresholdOf? (s : String) : Option Nat :=
  match thresholdOfWord? s with
  | some t => some t
  | none =>
    let digits := match s.toList with
      | '+' :: ds => ds
      | ds => ds
    if !digits.isEmpty && digits.all Char.isDigit then
      let n := digits.foldl (fun n c => 10 * n + (c.toNat - '0'.toNat)) 0
      if n ≤ 5 then some n else none
    else none

/-- **A directive** that can decide an event: a target prefix, the fields an event must have,
and the threshold. -/
structure Directive where
  target : Option String
  fields : List String
  threshold : Nat
  deriving DecidableEq, Repr

/-- A directive as read: it may name a span, or fields with values, and then decides no event
outside spans. -/
structure Written where
  directive : Directive
  inSpans : Bool
  deriving DecidableEq, Repr

/-- Whether a character may stand in a target. -/
def isTargetChar (c : Char) : Bool := c.isAlphanum || c == '_' || c == ':' || c == '-'

/-- Whether a character may stand in a field name. -/
def isWordChar (c : Char) : Bool := c.isAlphanum || c == '_'

/-- One part of a directive's head: a target, or a span in brackets. -/
inductive Part where
  | target (name : String)
  | span (text : String)
  deriving DecidableEq, Repr

/-- Reads one part at the front of `cs`, with the rest. -/
def readPart (cs : List Char) : Option (Part × List Char) :=
  match cs with
  | '[' :: more =>
    match more.span (· ≠ ']') with
    | (inner, _ :: rest) => some (.span (String.ofList inner), rest)
    | (_, []) => none
  | c :: _ =>
    if isTargetChar c then
      let (name, rest) := cs.span isTargetChar
      some (.target (String.ofList name), rest)
    else none
  | [] => none

/-- The field of a span's field list, if it has one: the first place where a name starts that
runs, with an optional `=value`, to the end. The name, and whether a value is given. -/
def fieldOf (cs : List Char) : Option (String × Bool) :=
  match cs with
  | [] => none
  | c :: more =>
    let whole : Option (String × Bool) :=
      if isWordChar c then
        let (tail, rest) := more.span fun d => isWordChar d || d == '.'
        let name := String.ofList (c :: tail)
        match rest with
        | [] => some (name, false)
        | '=' :: (_ :: _) => some (name, true)
        | _ => none
      else none
    match whole with
    | some f => some f
    | none => fieldOf more

/-- What a span part names: a span name, and the fields in braces after it. -/
def spanParts (text : String) : Option String × List (String × Bool) :=
  let inner := (text.toList.dropWhile (fun c => c == '[' || c == ']')).reverse.dropWhile
    (fun c => c == '[' || c == ']') |>.reverse
  let (name, rest) := inner.span fun c => c != ']' && c != '{'
  let fields := match rest with
    | '{' :: more =>
      match more.span (· ≠ '}') with
      | (body, _ :: _) => (fieldOf body).toList
      | (_, []) => []
    | _ => []
  (if name.isEmpty then none else some (String.ofList name), fields)

/-- **Reads one directive,** or none when it is malformed. -/
def Written.parse? (s : String) : Option Written :=
  match thresholdOfWord? s with
  | some t => some ⟨⟨none, [], t⟩, false⟩
  | none =>
    match readPart s.toList with
    | none => none
    | some (first, rest) =>
      let (parts, rest) := match readPart rest with
        | some (second, rest') => ([first, second], rest')
        | none => ([first], rest)
      let threshold : Option Nat := match rest with
        | [] => some 5
        | ['='] => some 5
        | '=' :: level => thresholdOfWord? (String.ofList level)
        | _ => none
      threshold.map fun t =>
        let target := parts.foldl (fun acc p => match p with
          | .target name => if (thresholdOf? name).isSome then none else some name
          | .span _ => acc) none
        let span := parts.foldl (fun acc p => match p with
          | .span text => some text
          | .target _ => acc) none
        let (spanName, fields) := match span with
          | some text => spanParts text
          | none => (none, [])
        ⟨⟨target, fields.map (·.1), t⟩, spanName.isSome || fields.any (·.2)⟩

/-- Lexicographic order of lists of names. -/
def compareNames : List String → List String → Ordering
  | [], [] => .eq
  | [], _ :: _ => .lt
  | _ :: _, [] => .gt
  | a :: as, b :: bs => (compare a b).then (compareNames as bs)

/-- How specific a directive is beside another: by the length of its target (a target is more
specific than none), then by its number of fields, then by the target and the fields' names. -/
def Directive.specificity (a b : Directive) : Ordering :=
  (compare (a.target.map String.length) (b.target.map String.length)).then
    ((compare a.fields.length b.fields.length).then
      ((compare a.target b.target).then (compareNames a.fields b.fields)))

/-- **A filter:** its directives, the most specific first. -/
structure Filter where
  directives : List Directive
  deriving DecidableEq, Repr

namespace Filter

/-- Adds a directive at its place; it replaces one of the same target and fields. -/
def insert (d : Directive) : List Directive → List Directive
  | [] => [d]
  | e :: es =>
    match Directive.specificity d e with
    | .gt => d :: e :: es
    | .eq => d :: es
    | .lt => e :: insert d es

/-- The filter of directives, in the order they are written. -/
def ofDirectives (ds : List Directive) : Filter :=
  ⟨ds.foldl (fun acc d => insert d acc) []⟩

/-- The filter that lets events up to a level through, for every target. -/
def upTo (level : Level) : Filter := ofDirectives [⟨none, [], level.rank⟩]

/-- **Reads a filter,** or none when a directive is malformed. Empty directives are skipped;
directives that match only inside spans are dropped. -/
def parse? (s : String) : Option Filter :=
  let written := (s.splitOn ",").filter (· ≠ "") |>.map Written.parse?
  if written.all Option.isSome then
    some (ofDirectives (written.filterMap id |>.filter (!·.inSpans) |>.map (·.directive)))
  else none

/-- **Whether an event passes:** the most specific directive whose target starts the event's
target and whose fields the event has decides. -/
def enables (f : Filter) (target : String) (fields : List String) (level : Level) : Bool :=
  match f.directives.find? fun d => d.target.all (target.startsWith ·) && d.fields.all (fields.contains ·) with
  | some d => level.rank ≤ d.threshold
  | none => false

end Filter

end DoubleWord.Log
