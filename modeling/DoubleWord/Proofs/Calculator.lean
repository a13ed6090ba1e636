import Mathlib
import DoubleWord.Calc.Eval
import DoubleWord.Proofs.Bits
import DoubleWord.Proofs.Division

/-!
# The calculator evaluates exactly

`reference` says, from the operands' values alone, what each operation of the calculator gives:
the sum, the difference and the product modulo `2^128`, the quotient and the remainder, the
three bitwise operations, the two shifts by the right operand modulo 128, and the order of the
values; a division or a remainder by zero is the one error.

`evaluate` gives exactly that, for every operation and every pair of operands. The proof is one
case per operation, each citing the equation of `Proofs.Arith`, `Proofs.Bits` or
`Proofs.Division` for the operation the calculator calls. The one step of its own is the shift
amount: the right operand modulo 128 is found by a two-word remainder, which always answers
since 128 is not zero, so the fault it could pass on never comes; it is then narrowed to a
32-bit word, which keeps it whole since it is below 128. So the amount is the whole operand
modulo 128.
-/

set_option autoImplicit false

namespace DoubleWord

namespace U128

/-- A value is the value of its number. -/
theorem eq_ofNat_of_toNat {x : U128} {n : Nat} (h : x.toNat = n) : x = ofNat n := by
  rw [← ofNat_toNat x, h]

/-- **A narrowing cast to 32 bits keeps the low 32 bits of the low word.** -/
theorem toNat_castTo_u32 (x : U128) : (x.castTo .u32).toNat = x.lo.toNat % 2 ^ 32 := by
  -- an unsigned type: the wrap keeps the low bits and reads no sign
  simp only [castTo, IntType.wrap, IntType.signed, IntType.bits, Bool.false_eq_true, false_and,
    if_false, Nat.pow_eq, Int.natCast_emod]
  omega

/-- **The remainder by 128 always answers,** with the value modulo 128. -/
theorem rem_ofNat_128 (x : U128) : x.rem (ofNat 128) = .ok (ofNat (x.toNat % 128)) := by
  have h128 : (ofNat 128).toNat = 128 := by
    rw [toNat_ofNat]
    decide
  rw [rem_eq, h128, if_neg (by decide)]

end U128

namespace Calc

open U128

/-- **The shift amount is the whole right operand modulo 128,** and finding it never faults.
The remainder by 128 always answers and is below 128, so it is its own low word and the cast to
32 bits drops none of it. -/
theorem shiftAmount_eq (rhs : U128) : shiftAmount rhs = .ok (rhs.toNat % 128) := by
  have hr : rhs.toNat % 128 < 128 := Nat.mod_lt _ (by decide)
  have hlo : (ofNat (rhs.toNat % 128)).lo.toNat = rhs.toNat % 128 := by
    simp only [U128.ofNat, UInt64.toNat_ofNat']
    omega
  rw [shiftAmount, rem_ofNat_128]
  show Except.ok ((ofNat (rhs.toNat % 128)).castTo .u32).toNat = _
  rw [toNat_castTo_u32, hlo, Nat.mod_eq_of_lt (by omega : rhs.toNat % 128 < 2 ^ 32)]

/-! ## What each operation gives -/

/-- **What an operation of the calculator gives** on operands of values `l` and `r`: the sum,
difference and product modulo `2^128`; the quotient and remainder, refused for `r = 0`; the
bitwise `and`, `or` and `xor`; `l` shifted left (modulo `2^128`) or right by `r mod 128`; and
the order of `l` and `r`. -/
def reference (op : Op) (l r : Nat) : Except CalcError Evaluated :=
  match op with
  | .add => .ok (.number (ofNat ((l + r) % modulus)))
  | .sub => .ok (.number (ofNat (((l : Int) - r) % (modulus : Nat)).toNat))
  | .mul => .ok (.number (ofNat (l * r % modulus)))
  | .div => if r = 0 then .error .divisionByZero else .ok (.number (ofNat (l / r)))
  | .rem => if r = 0 then .error .divisionByZero else .ok (.number (ofNat (l % r)))
  | .and => .ok (.number (ofNat (l &&& r)))
  | .or => .ok (.number (ofNat (l ||| r)))
  | .xor => .ok (.number (ofNat (l ^^^ r)))
  | .shl => .ok (.number (ofNat (l * 2 ^ (r % 128) % modulus)))
  | .shr => .ok (.number (ofNat (l / 2 ^ (r % 128))))
  | .cmp => .ok (.order (Ord.compare l r))

/-- A number result is the reference's as soon as their values agree. -/
theorem ok_number_eq {x : U128} {n : Nat} (h : x.toNat = n) :
    (Except.ok (.number x) : Except Failed Evaluated) =
      (Except.ok (.number (ofNat n)) : Except CalcError Evaluated).mapError Failed.calc := by
  rw [eq_ofNat_of_toNat h]
  rfl

/-- The difference modulo `2^128` is the integer difference reduced. -/
theorem toNat_sub_eq_emod (a b : U128) :
    (a - b).toNat = (((a.toNat : Int) - b.toNat) % (modulus : Nat)).toNat := by
  rw [← toNat_sub_emod, Int.toNat_natCast]

/-- **Every operation gives what `reference` gives on the operands' values,** its errors being
the calculator's own: no fault stops an evaluation. -/
theorem evaluate_eq_reference (op : Op) (lhs rhs : U128) :
    evaluate op lhs rhs = (reference op lhs.toNat rhs.toNat).mapError Failed.calc := by
  cases op with
  | add => exact ok_number_eq (toNat_add lhs rhs)
  | sub => exact ok_number_eq (toNat_sub_eq_emod lhs rhs)
  | mul => exact ok_number_eq (toNat_mul lhs rhs)
  | div =>
    simp only [evaluate, reference, checkedDiv_eq]
    split_ifs <;> rfl
  | rem =>
    simp only [evaluate, reference, checkedRem_eq]
    split_ifs <;> rfl
  | and => exact ok_number_eq (toNat_and lhs rhs)
  | or => exact ok_number_eq (toNat_or lhs rhs)
  | xor => exact ok_number_eq (toNat_xor lhs rhs)
  | shl =>
    simp only [evaluate, shiftAmount_eq]
    exact ok_number_eq (by rw [toNat_shl, Nat.mod_mod])
  | shr =>
    simp only [evaluate, shiftAmount_eq]
    exact ok_number_eq (by rw [toNat_shr, Nat.mod_mod])
  | cmp =>
    exact congrArg (fun o => (.ok (.order o) : Except Failed Evaluated))
      (compare_eq_compare_toNat lhs rhs)

/-- **The only error is a division or a remainder by zero.** -/
theorem evaluate_eq_error_iff (op : Op) (lhs rhs : U128) (e : Failed) :
    evaluate op lhs rhs = .error e ↔
      e = .calc .divisionByZero ∧ (op = .div ∨ op = .rem) ∧ rhs.toNat = 0 := by
  rw [evaluate_eq_reference]
  cases op with
  | div | rem =>
    by_cases hr : rhs.toNat = 0
    · simp [reference, Except.mapError, hr, eq_comm]
    · simp [reference, Except.mapError, hr]
  | _ => simp [reference, Except.mapError]

/-- **The calculator evaluates exactly and never stops with a fault.** Every operation on every
pair of operands gives what `reference` gives on their values. The only error is a division or
a remainder by zero, an error of the calculator reported as "division by zero". The shift amount
is the whole right operand modulo 128: the remainder by 128 always answers, and the narrowing
cast keeps it. -/
theorem evaluate_exact (op : Op) (lhs rhs : U128) :
    evaluate op lhs rhs = (reference op lhs.toNat rhs.toNat).mapError Failed.calc ∧
    (∀ e, evaluate op lhs rhs = .error e ↔
      e = .calc .divisionByZero ∧ (op = .div ∨ op = .rem) ∧ rhs.toNat = 0) ∧
    CalcError.divisionByZero.message = "division by zero" ∧
    rhs.rem (ofNat 128) = .ok (ofNat (rhs.toNat % 128)) ∧
    shiftAmount rhs = .ok (rhs.toNat % 128) :=
  ⟨evaluate_eq_reference op lhs rhs, evaluate_eq_error_iff op lhs rhs, rfl, rem_ofNat_128 rhs,
    shiftAmount_eq rhs⟩

end Calc

end DoubleWord
