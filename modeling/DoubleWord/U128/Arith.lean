import DoubleWord.U128.Basic
import DoubleWord.Power

/-!
# Wrapping arithmetic on two words

Sums, differences and products of two-word numbers, all modulo `2^128`, computed a word at a
time:

* a sum adds the low words, carries one into the high words when the low sum came out below
  an operand, and reports whether the high words passed `2^64`;
* a difference borrows one when the low difference came out above the minuend;
* a product keeps the full product of the low words and adds into the high word only the low
  halves of the two cross products: every other term is a multiple of `2^128`.

Each operation also has a form with a single word as the other operand.

Source: `fwnum/src/bigint/algorithms.rs:19-77`, `:170-200`, and the operators of
`fwnum/src/bigint/uint128.rs` and `fwnum/src/bigint/num_impls.rs` that call them.
-/

set_option autoImplicit false

namespace DoubleWord

namespace U128

/-- **Sum with carry.** The sum modulo `2^128` and whether the exact sum reached `2^128`.
Source: `U128::overflowing_add` over `algorithms::add_assign_words`,
`fwnum/src/bigint/uint128.rs:212-215`, `fwnum/src/bigint/algorithms.rs:21-30`. -/
def overflowingAdd (a b : U128) : U128 × Bool :=
  let lo := a.lo + b.lo
  let carry : UInt64 := if lo < a.lo then 1 else 0
  let (h₁, o₁) := Word.addFlag a.hi b.hi
  let (h₂, o₂) := Word.addFlag h₁ carry
  (⟨lo, h₂⟩, o₁ || o₂)

/-- **Difference with borrow.** The difference modulo `2^128` and whether the subtrahend was
the larger.
Source: `U128::overflowing_sub` over `algorithms::sub_assign_words`,
`fwnum/src/bigint/uint128.rs:219-222`, `fwnum/src/bigint/algorithms.rs:34-42`. -/
def overflowingSub (a b : U128) : U128 × Bool :=
  let lo := a.lo - b.lo
  let borrow : UInt64 := if lo > a.lo then 1 else 0
  let (h₁, u₁) := Word.subFlag a.hi b.hi
  let (h₂, u₂) := Word.subFlag h₁ borrow
  (⟨lo, h₂⟩, u₁ || u₂)

/-- The sum modulo `2^128`.
Source: `AddAssign<Self> for U128`, `fwnum/src/bigint/uint128.rs:313-317`. -/
def add (a b : U128) : U128 := (overflowingAdd a b).1

/-- The difference modulo `2^128`.
Source: `SubAssign<Self> for U128`, `fwnum/src/bigint/uint128.rs:325-329`. -/
def sub (a b : U128) : U128 := (overflowingSub a b).1

/-- The sum, or nothing when it does not fit.
Source: `CheckedAdd for U128`, `fwnum/src/bigint/num_impls.rs:85-92`. -/
def checkedAdd (a b : U128) : Option U128 :=
  let (s, o) := overflowingAdd a b
  if o then none else some s

/-- The difference, or nothing when it is below zero.
Source: `CheckedSub for U128`, `fwnum/src/bigint/num_impls.rs:94-101`. -/
def checkedSub (a b : U128) : Option U128 :=
  let (d, o) := overflowingSub a b
  if o then none else some d

/-- The sum with a word, modulo `2^128`.
Source: `algorithms::add_assign_word`, `fwnum/src/bigint/algorithms.rs:45-49`. -/
def addWord (a : U128) (w : UInt64) : U128 :=
  let lo := a.lo + w
  ⟨lo, a.hi + (if lo < a.lo then 1 else 0)⟩

/-- The difference with a word, modulo `2^128`.
Source: `algorithms::sub_assign_word`, `fwnum/src/bigint/algorithms.rs:52-56`. -/
def subWord (a : U128) (w : UInt64) : U128 :=
  let lo := a.lo - w
  ⟨lo, a.hi - (if lo > a.lo then 1 else 0)⟩

/-- **Product modulo `2^128`.** The low words give a full two-word product; the cross products
give only their low words to the high word, and the product of the high words is dropped.
Source: `algorithms::mul_assign_words`, `fwnum/src/bigint/algorithms.rs:58-70`. -/
def mul (a b : U128) : U128 :=
  let cross := a.lo * b.hi + a.hi * b.lo
  let (lo, carry) := Word.mulWide a.lo b.lo
  ⟨lo, carry + cross⟩

/-- The product with a word, modulo `2^128`.
Source: `algorithms::mul_assign_word`, `fwnum/src/bigint/algorithms.rs:73-77`. -/
def mulWord (a : U128) (w : UInt64) : U128 :=
  let (lo, carry) := Word.mulWide a.lo w
  ⟨lo, a.hi * w + carry⟩

instance : Add U128 := ⟨add⟩
instance : Sub U128 := ⟨sub⟩
instance : Mul U128 := ⟨mul⟩

/-- Every bit inverted.
Source: `algorithms::bitnot_assign`, `fwnum/src/bigint/algorithms.rs:172-175`. -/
def complement (x : U128) : U128 := ⟨~~~x.lo, ~~~x.hi⟩

/-- Bits set in both.
Source: `algorithms::bitand_assign`, `fwnum/src/bigint/algorithms.rs:178-181`. -/
def and (a b : U128) : U128 := ⟨a.lo &&& b.lo, a.hi &&& b.hi⟩

/-- Bits set in either.
Source: `algorithms::bitor_assign`, `fwnum/src/bigint/algorithms.rs:184-187`. -/
def or (a b : U128) : U128 := ⟨a.lo ||| b.lo, a.hi ||| b.hi⟩

/-- Bits set in exactly one.
Source: `algorithms::bitxor_assign`, `fwnum/src/bigint/algorithms.rs:190-193`. -/
def xor (a b : U128) : U128 := ⟨a.lo ^^^ b.lo, a.hi ^^^ b.hi⟩

instance : Complement U128 := ⟨complement⟩
instance : AndOp U128 := ⟨and⟩
instance : OrOp U128 := ⟨or⟩
instance : XorOp U128 := ⟨xor⟩

/-- **Two's complement negation,** `2^128 - x` modulo `2^128`: invert, then add one.
Source: `algorithms::neg_assign`, `fwnum/src/bigint/algorithms.rs:195-200`. -/
def neg (x : U128) : U128 := (complement x).addWord 1

instance : Neg U128 := ⟨neg⟩

/-- The successor modulo `2^128`.
Source: `U128::increment`, `fwnum/src/bigint/uint128.rs:126-131`. -/
def increment (x : U128) : U128 := x.addWord 1

/-- The predecessor modulo `2^128`.
Source: `U128::decrement`, `fwnum/src/bigint/uint128.rs:133-138`. -/
def decrement (x : U128) : U128 := x.subWord 1

/-- **`x ^ exp` modulo `2^128`** by square and multiply with the wrapping product; `x ^ 0 = 1`
for every `x`. Source: `U128::wrapping_pow`, `fwnum/src/bigint/uint128.rs:196-208`. -/
def pow (x : U128) (exp : Nat) : U128 := squareMultiply (· * ·) one x exp

/-- The sum of a list, modulo `2^128`; zero for the empty list.
Source: `Sum for U128`, `fwnum/src/bigint/uint128.rs:521-525`. -/
def sum (xs : List U128) : U128 := xs.foldl (· + ·) zero

/-- The product of a list, modulo `2^128`; one for the empty list.
Source: `Product for U128`, `fwnum/src/bigint/uint128.rs:527-531`. -/
def prod (xs : List U128) : U128 := xs.foldl (· * ·) one

end U128

end DoubleWord
