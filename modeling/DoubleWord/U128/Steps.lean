import DoubleWord.U128.Div

/-!
# Updating a value in place

A `Step` changes a value held in place, and may read something off it: a word, an overflow
flag, or the order against another value. A step that stops with a fault leaves the value as it
was, and the steps after it go on from there. `U128.runSteps` reports the value after each step.

Source: the assignment operators and the `&mut self` methods of `U128`,
`fwnum/src/bigint/uint128.rs`.
-/

set_option autoImplicit false

namespace DoubleWord

/-- The binary operations that update a value with a second one.
Source: `AddAssign`, `SubAssign`, `MulAssign`, `DivAssign`, `RemAssign`, `BitAndAssign`,
`BitOrAssign` and `BitXorAssign` with `Self`, `fwnum/src/bigint/uint128.rs:313-371`, `:503-519`. -/
inductive UpdateOp where
  | add
  | sub
  | mul
  | div
  | rem
  | and
  | or
  | xor
  deriving DecidableEq, Repr

/-- The operations that update a value with a word.
Source: the same assignments with a `u64`, `fwnum/src/bigint/uint128.rs:319-371`. -/
inductive WordOp where
  | add
  | sub
  | mul
  | div
  | rem
  deriving DecidableEq, Repr

/-- **One update of a value in place.**
Source: the `&mut self` operations of `U128`: the assignments above, `ShlAssign`, `ShrAssign`,
`increment`, `decrement`, `set`, `get`, `overflowing_add`, `overflowing_sub` and `cmp`,
`fwnum/src/bigint/uint128.rs`. -/
inductive Step where
  /-- Combine with a second value. -/
  | withValue (op : UpdateOp) (b : U128)
  /-- Combine with a word; the remainder by a word replaces the whole value. -/
  | withWord (op : WordOp) (w : UInt64)
  /-- Shift left by `n mod 128`. -/
  | shl (n : Nat)
  /-- Shift right by `n mod 128`. -/
  | shr (n : Nat)
  /-- Add one. -/
  | increment
  /-- Subtract one. -/
  | decrement
  /-- Negate. -/
  | neg
  /-- Invert every bit. -/
  | complement
  /-- Raise to a power. -/
  | pow (exp : Nat)
  /-- Replace word `i`. -/
  | setWord (i : Nat) (w : UInt64)
  /-- Read word `i`. -/
  | getWord (i : Nat)
  /-- Add a value and read whether the sum overflowed. -/
  | overflowingAdd (b : U128)
  /-- Subtract a value and read whether the difference went below zero. -/
  | overflowingSub (b : U128)
  /-- Read the order of the value against `b`. -/
  | compare (b : U128)
  deriving DecidableEq, Repr

/-- What a step reads off the value. -/
inductive Reading where
  | word (w : UInt64)
  | flag (b : Bool)
  | order (o : Ordering)
  deriving DecidableEq, Repr

/-- **What a step did:** the value after it, what it read, and the fault that stopped it. -/
structure StepResult where
  /-- The value after the step; unchanged when the step stopped. -/
  state : U128
  /-- What the step read, if it reads anything. -/
  reading : Option Reading := none
  /-- The fault that stopped the step, if any. -/
  fault : Option Fault := none
  deriving Repr

namespace UpdateOp

/-- The new value, or the fault that stops the update. -/
def apply : UpdateOp → U128 → U128 → Except Fault U128
  | add, a, b => .ok (a + b)
  | sub, a, b => .ok (a - b)
  | mul, a, b => .ok (a * b)
  | div, a, b => a.div b
  | rem, a, b => a.rem b
  | and, a, b => .ok (a &&& b)
  | or, a, b => .ok (a ||| b)
  | xor, a, b => .ok (a ^^^ b)

end UpdateOp

namespace WordOp

/-- The new value, or the fault that stops the update. -/
def apply : WordOp → U128 → UInt64 → Except Fault U128
  | add, a, w => .ok (a.addWord w)
  | sub, a, w => .ok (a.subWord w)
  | mul, a, w => .ok (a.mulWord w)
  | div, a, w => a.divWord w
  | rem, a, w => (a.remWord w).map U128.ofWord

end WordOp

namespace Step

/-- **The effect of a step:** the new value and what it read, or the fault that stops it. -/
def apply : Step → U128 → Except Fault (U128 × Option Reading)
  | withValue op b, a => (op.apply a b).map (·, none)
  | withWord op w, a => (op.apply a w).map (·, none)
  | shl n, a => .ok (a.shl n, none)
  | shr n, a => .ok (a.shr n, none)
  | increment, a => .ok (a.increment, none)
  | decrement, a => .ok (a.decrement, none)
  | neg, a => .ok (-a, none)
  | complement, a => .ok (~~~a, none)
  | pow exp, a => .ok (a.pow exp, none)
  | setWord i w, a => (a.setWord i w).map (·, none)
  | getWord i, a => (a.getWord i).map fun w => (a, some (.word w))
  | overflowingAdd b, a => let (s, o) := a.overflowingAdd b; .ok (s, some (.flag o))
  | overflowingSub b, a => let (d, o) := a.overflowingSub b; .ok (d, some (.flag o))
  | compare b, a => .ok (a, some (.order (a.compare b)))

end Step

namespace U128

/-- **Runs the steps in order** from `start`, reporting each step's result. -/
def runSteps : U128 → List Step → List StepResult
  | _, [] => []
  | a, s :: rest =>
    match s.apply a with
    | .ok (b, r) => { state := b, reading := r } :: runSteps b rest
    | .error f => { state := a, fault := some f } :: runSteps a rest

end U128

end DoubleWord
