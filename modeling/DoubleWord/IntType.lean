/-!
# Machine integer types

The fixed-width integer types that two-word numbers convert from and to: `bool`, the unsigned
types of 8 to 128 bits, and the signed types of 8 to 64 bits. A pointer-sized type is 64 bits
wide here.

Source: the conversions of `fwnum/src/bigint/conversion.rs` and `fwnum/src/bigint/num_impls.rs`.
-/

set_option autoImplicit false

namespace DoubleWord

/-- **A machine integer type.**
Source: the types of `impl_from_unsigned!`, `impl_from_signed!` and `impl_cast_to_primitive!`,
`fwnum/src/bigint/conversion.rs:46-133`. -/
inductive IntType where
  | bool
  | u8
  | u16
  | u32
  | u64
  | usize
  | u128
  | i8
  | i16
  | i32
  | i64
  | isize
  deriving DecidableEq, Repr

namespace IntType

/-- The number of bits of a value of the type. -/
def bits : IntType → Nat
  | bool => 1
  | u8 | i8 => 8
  | u16 | i16 => 16
  | u32 | i32 => 32
  | u64 | usize | i64 | isize => 64
  | u128 => 128

/-- Whether the type holds negative values, in two's complement. -/
def signed : IntType → Bool
  | i8 | i16 | i32 | i64 | isize => true
  | _ => false

/-- The least value of the type. -/
def minValue (t : IntType) : Int :=
  if t.signed then -(Nat.pow 2 (t.bits - 1) : Nat) else 0

/-- The greatest value of the type. -/
def maxValue (t : IntType) : Int :=
  if t.signed then (Nat.pow 2 (t.bits - 1) - 1 : Nat) else (Nat.pow 2 t.bits - 1 : Nat)

/-- Whether `v` is a value of the type. -/
def holds (t : IntType) (v : Int) : Bool :=
  t.minValue ≤ v && v ≤ t.maxValue

/-- **The value of the type with the low bits of `n`,** read in two's complement when the
type is signed. -/
def wrap (t : IntType) (n : Nat) : Int :=
  let u := n % Nat.pow 2 t.bits
  if t.signed ∧ u ≥ Nat.pow 2 (t.bits - 1) then (u : Int) - (Nat.pow 2 t.bits : Nat) else u

end IntType

end DoubleWord
