import Mathlib
import DoubleWord.U128.Bits
import DoubleWord.Proofs.Arith

/-!
# Shifts and bitwise operations as arithmetic

A shift of a two-word value by `n` is a shift of its value by `n mod 128`: to the left it is a
product by `2 ^ (n mod 128)` reduced modulo `2^128`, to the right a quotient by
`2 ^ (n mod 128)`. Each direction has three branches, and each is checked against the value:

* an amount of 64 or more moves one word into the other's place and shifts it by the rest;
* an amount in `1..63` shifts both words, and the bits that leave one word enter the other,
  shifted the complementary way: the two parts of the new word have no bit in common, so the
  `|||` that joins them is a sum;
* an amount of zero changes nothing.

So no word is shifted by 64 or more, and the three branches agree with one formula. Computed
with the native word shifts, which stop at 64 places or more, the shifts never stop
(`shlWith_checked`, `shrWith_checked`). A left shift and back keeps the bits below
`2 ^ (128 - n mod 128)` (`shl_shr`). Main statement: `shifts_exact`.

A bitwise operation acts on the two words apart, so the `&&&`, `|||` and `^^^` of two values
are those of their numbers.
-/

set_option autoImplicit false

namespace DoubleWord

namespace Word

/-! ## Word shift amounts -/

/-- An amount below 64, passed as a word, reaches the word shift unchanged. -/
private theorem toNat_toUInt64_mod {s : Nat} (h : s < 64) : s.toUInt64.toNat % 64 = s := by
  rw [Nat.toUInt64_eq, UInt64.toNat_ofNat']
  omega

/-- A native shift by fewer than 64 places is the word shift. -/
theorem shiftChecked_of_lt (shift : UInt64 → UInt64 → UInt64) (overflow : Fault) (x : UInt64)
    {s : Nat} (h : s < 64) : shiftChecked shift overflow x s = .ok (shift x s.toUInt64) :=
  if_pos h

/-- **A word made of two words' bits.** Shifting `a` down by `s` and `b` up by `t = 64 - s`
fills the word with the top bits of `a` below the low bits of `b`; the two parts have no bit in
common, so their `|||` is their sum. Both shifts by an amount in `1..63` build their middle word
this way. -/
theorem toNat_shiftRight_or_shiftLeft (a b : UInt64) {s t : Nat} (hs : s < 64) (ht : t < 64)
    (hst : s + t = 64) :
    ((a >>> s.toUInt64) ||| (b <<< t.toUInt64)).toNat =
      a.toNat / 2 ^ s + b.toNat % 2 ^ s * 2 ^ t := by
  have hW : (2 : Nat) ^ 64 = 2 ^ s * 2 ^ t := by rw [← pow_add, hst]
  have hlow : a.toNat / 2 ^ s < 2 ^ t :=
    Nat.div_lt_of_lt_mul (by rw [← hW]; exact a.toNat_lt)
  rw [UInt64.toNat_or, UInt64.toNat_shiftRight, UInt64.toNat_shiftLeft, toNat_toUInt64_mod hs,
    toNat_toUInt64_mod ht, Nat.shiftRight_eq_div_pow, Nat.shiftLeft_eq, hW,
    Nat.mul_mod_mul_right, Nat.lor_comm, mul_two_pow_or hlow, Nat.add_comm]

end Word

namespace U128

private theorem two_pow_split {s k : Nat} (h : s ≤ k) : 2 ^ k = 2 ^ s * 2 ^ (k - s) := by
  rw [← pow_add, Nat.add_sub_cancel' h]

/-! ## Shifts -/

/-- **Right shift is a quotient by a power of two,** for every amount: the amount is taken
modulo 128 and every branch divides the value by `2 ^ (n mod 128)`. -/
@[simp, grind =]
theorem toNat_shr (x : U128) (n : Nat) : (x.shr n).toNat = x.toNat / 2 ^ (n % 128) := by
  have hlo := x.lo.toNat_lt
  have hs : n % 128 < 128 := Nat.mod_lt _ (by decide)
  rw [shr_eq]
  generalize n % 128 = s at *
  split_ifs with h64 h0
  · -- the high word moves down whole
    have hamt : (s - 64).toUInt64.toNat % 64 = s - 64 := Word.toNat_toUInt64_mod (by omega)
    rw [toNat_mk, UInt64.toNat_shiftRight, hamt, Nat.shiftRight_eq_div_pow, two_pow_split h64,
      ← Nat.div_div_eq_div_mul, show (2 : Nat) ^ 64 = wordSize from rfl, toNat_div_wordSize]
    simp
  · -- the low bits of the high word enter the top of the low word
    have hamt : s.toUInt64.toNat % 64 = s := Word.toNat_toUInt64_mod (by omega)
    have hW : (2 : Nat) ^ 64 = 2 ^ s * 2 ^ (64 - s) := two_pow_split (by omega)
    have hp : 0 < 2 ^ s := Nat.two_pow_pos s
    have hval : x.toNat / 2 ^ s = x.lo.toNat / 2 ^ s + 2 ^ (64 - s) * x.hi.toNat := by
      rw [toNat_eq, show wordSize = 2 ^ 64 from rfl, hW, Nat.mul_assoc,
        Nat.add_mul_div_left _ _ hp]
    have hsplit : 2 ^ (64 - s) * x.hi.toNat =
        x.hi.toNat % 2 ^ s * 2 ^ (64 - s) + 2 ^ s * 2 ^ (64 - s) * (x.hi.toNat / 2 ^ s) := by
      conv_lhs => rw [← Nat.mod_add_div x.hi.toNat (2 ^ s)]
      ring
    rw [hval, toNat_mk,
      Word.toNat_shiftRight_or_shiftLeft x.lo x.hi (by omega) (by omega) (by omega),
      UInt64.toNat_shiftRight, hamt, Nat.shiftRight_eq_div_pow, hsplit,
      show wordSize = 2 ^ 64 from rfl, hW]
    ring
  · have hs0 : s = 0 := by omega
    simp [hs0]

/-- **Left shift is a product by a power of two modulo `2^128`,** for every amount: the amount
is taken modulo 128, and the bits pushed past the high word are dropped. -/
@[simp, grind =]
theorem toNat_shl (x : U128) (n : Nat) :
    (x.shl n).toNat = x.toNat * 2 ^ (n % 128) % modulus := by
  have hlo := x.lo.toNat_lt
  have hs : n % 128 < 128 := Nat.mod_lt _ (by decide)
  rw [shl_eq]
  generalize n % 128 = s at *
  split_ifs with h64 h0
  · -- the low word moves up whole, and the high word leaves
    have hamt : (s - 64).toUInt64.toNat % 64 = s - 64 := Word.toNat_toUInt64_mod (by omega)
    have hval : x.toNat * 2 ^ s =
        wordSize * (x.lo.toNat * 2 ^ (s - 64) + wordSize * (x.hi.toNat * 2 ^ (s - 64))) := by
      rw [two_pow_split h64, toNat_eq, show (2 : Nat) ^ 64 = wordSize from rfl]
      ring
    rw [hval, show modulus = wordSize * wordSize from rfl, Nat.mul_mod_mul_left,
      Nat.add_mul_mod_self_left, toNat_mk, UInt64.toNat_shiftLeft, hamt, Nat.shiftLeft_eq,
      show (2 : Nat) ^ 64 = wordSize from rfl]
    simp
  · -- the high bits of the low word enter the bottom of the high word
    have hamt : s.toUInt64.toNat % 64 = s := Word.toNat_toUInt64_mod (by omega)
    have hW : (2 : Nat) ^ 64 = 2 ^ (64 - s) * 2 ^ s := by
      rw [Nat.mul_comm]
      exact two_pow_split (by omega)
    have hq : 0 < 2 ^ (64 - s) := Nat.two_pow_pos _
    have hp : 0 < 2 ^ s := Nat.two_pow_pos _
    have hlow : x.lo.toNat % 2 ^ (64 - s) * 2 ^ s < wordSize := by
      rw [show wordSize = 2 ^ 64 from rfl, hW]
      exact Nat.mul_lt_mul_of_pos_right (Nat.mod_lt _ hq) hp
    -- the new high word is a word, so its value is below `2^64`
    have hmid := Word.toNat_shiftRight_or_shiftLeft x.lo x.hi (s := 64 - s) (t := s) (by omega)
      (by omega) (by omega)
    have hhigh : x.lo.toNat / 2 ^ (64 - s) + x.hi.toNat % 2 ^ (64 - s) * 2 ^ s < wordSize := by
      rw [← hmid]
      exact UInt64.toNat_lt _
    have hval : x.toNat * 2 ^ s = x.lo.toNat % 2 ^ (64 - s) * 2 ^ s +
        wordSize * ((x.lo.toNat / 2 ^ (64 - s) + x.hi.toNat % 2 ^ (64 - s) * 2 ^ s) +
          wordSize * (x.hi.toNat / 2 ^ (64 - s))) := by
      conv_lhs => rw [toNat_eq, ← Nat.mod_add_div x.lo.toNat (2 ^ (64 - s)),
        ← Nat.mod_add_div x.hi.toNat (2 ^ (64 - s))]
      rw [show wordSize = 2 ^ 64 from rfl, hW]
      ring
    rw [hval, show modulus = wordSize * wordSize from rfl, Word.join_mod_square hlow,
      Nat.add_mul_mod_self_left, Nat.mod_eq_of_lt hhigh, toNat_mk, UInt64.or_comm, hmid,
      UInt64.toNat_shiftLeft, hamt, Nat.shiftLeft_eq, hW, Nat.mul_mod_mul_right]
  · have hs0 : s = 0 := by omega
    simp [hs0, Nat.mod_eq_of_lt (toNat_lt x)]

/-! ## Bitwise operations -/

/-- Bit `i` of `lo + 2^64 · hi` is bit `i` of the low word below 64 and a bit of the high word
above. -/
private theorem testBit_join {lo : Nat} (h : lo < 2 ^ 64) (hi i : Nat) :
    (lo + wordSize * hi).testBit i = if i < 64 then lo.testBit i else hi.testBit (i - 64) := by
  rw [Nat.add_comm, show wordSize = 2 ^ 64 from rfl, Nat.testBit_two_pow_mul_add _ h]

/-- **A bitwise operation acts on the two words apart.** -/
theorem bitwise_toNat {f : Bool → Bool → Bool} (hf : f false false = false) (a b : U128) :
    Nat.bitwise f a.toNat b.toNat =
      Nat.bitwise f a.lo.toNat b.lo.toNat + wordSize * Nat.bitwise f a.hi.toNat b.hi.toNat := by
  have hlo : Nat.bitwise f a.lo.toNat b.lo.toNat < 2 ^ 64 :=
    Nat.bitwise_lt_two_pow a.lo.toNat_lt b.lo.toNat_lt
  apply Nat.eq_of_testBit_eq
  intro i
  rw [toNat_eq, toNat_eq, Nat.testBit_bitwise hf, testBit_join a.lo.toNat_lt,
    testBit_join b.lo.toNat_lt, testBit_join hlo, Nat.testBit_bitwise hf, Nat.testBit_bitwise hf]
  split_ifs <;> rfl

@[simp, grind =]
theorem toNat_and (a b : U128) : (a &&& b).toNat = a.toNat &&& b.toNat := by
  show (U128.and a b).toNat = Nat.bitwise Bool.and a.toNat b.toNat
  rw [bitwise_toNat rfl, U128.and, toNat_mk, UInt64.toNat_and, UInt64.toNat_and]
  rfl

@[simp, grind =]
theorem toNat_or (a b : U128) : (a ||| b).toNat = a.toNat ||| b.toNat := by
  show (U128.or a b).toNat = Nat.bitwise Bool.or a.toNat b.toNat
  rw [bitwise_toNat rfl, U128.or, toNat_mk, UInt64.toNat_or, UInt64.toNat_or]
  rfl

@[simp, grind =]
theorem toNat_xor (a b : U128) : (a ^^^ b).toNat = a.toNat ^^^ b.toNat := by
  show (U128.xor a b).toNat = Nat.bitwise bne a.toNat b.toNat
  rw [bitwise_toNat rfl, U128.xor, toNat_mk, UInt64.toNat_xor, UInt64.toNat_xor]
  rfl

/-! ## Native word shifts and the round trip -/

/-- **The left shift never overflows a word.** Computed with the native word shifts, which stop
at 64 places or more, it never stops: each branch passes its words amounts below 64. -/
theorem shlWith_checked (x : U128) (n : Nat) :
    x.shlWith Word.shlChecked Word.shrChecked n = .ok (x.shl n) := by
  have hs : n % 128 < 128 := Nat.mod_lt _ (by decide)
  simp only [shl_eq, shlWith, Word.shlChecked, Word.shrChecked]
  split_ifs with h64 h0
  · rw [Word.shiftChecked_of_lt _ _ _ (by omega)]
    rfl
  · rw [Word.shiftChecked_of_lt _ _ _ (by omega), Word.shiftChecked_of_lt _ _ _ (by omega),
      Word.shiftChecked_of_lt _ _ _ (by omega)]
    rfl
  · rfl

/-- **The right shift never overflows a word**, for the same reason. -/
theorem shrWith_checked (x : U128) (n : Nat) :
    x.shrWith Word.shlChecked Word.shrChecked n = .ok (x.shr n) := by
  have hs : n % 128 < 128 := Nat.mod_lt _ (by decide)
  simp only [shr_eq, shrWith, Word.shlChecked, Word.shrChecked]
  split_ifs with h64 h0
  · rw [Word.shiftChecked_of_lt _ _ _ (by omega)]
    rfl
  · rw [Word.shiftChecked_of_lt _ _ _ (by omega), Word.shiftChecked_of_lt _ _ _ (by omega),
      Word.shiftChecked_of_lt _ _ _ (by omega)]
    rfl
  · rfl

/-- Shifting the greatest value right by `k ≤ 128` places leaves `128 - k` ones. -/
private theorem max_div_two_pow {k : Nat} (hk : k ≤ 128) :
    (modulus - 1) / 2 ^ k = 2 ^ (128 - k) - 1 := by
  have hsplit : modulus = 2 ^ (128 - k) * 2 ^ k := by
    rw [← pow_add, Nat.sub_add_cancel hk]
    rfl
  have hp : 0 < 2 ^ k := Nat.two_pow_pos k
  have hq : 0 < 2 ^ (128 - k) := Nat.two_pow_pos _
  apply Nat.div_eq_of_lt_le
  · rw [hsplit, Nat.sub_one_mul]
    omega
  · rw [hsplit, Nat.sub_add_cancel hq]
    exact Nat.sub_lt (Nat.mul_pos hq hp) Nat.one_pos

/-- **A left shift and back clears the top bits:** the bits pushed past `2^128` are lost and
the others come back in place, so the result keeps the bits of `x` that the greatest value,
shifted right, keeps. -/
theorem shl_shr (x : U128) (n : Nat) : (x.shl n).shr n = x &&& max.shr n := by
  have hk : n % 128 ≤ 128 := (Nat.mod_lt _ (by decide)).le
  have hsplit : modulus = 2 ^ (128 - n % 128) * 2 ^ (n % 128) := by
    rw [← pow_add, Nat.sub_add_cancel hk]
    rfl
  apply ext_toNat
  -- both sides are `x` modulo `2 ^ (128 - n mod 128)`
  rw [toNat_shr, toNat_shl, toNat_and, toNat_shr, toNat_max, max_div_two_pow hk,
    Nat.and_two_pow_sub_one_eq_mod, hsplit, Nat.mul_mod_mul_right,
    Nat.mul_div_cancel _ (Nat.two_pow_pos _)]

/-- **Shifts of a two-word value, whole.** For every amount `n`: computed with the native word
shifts, both shifts never stop at an overflow and give `shl` and `shr`; the left shift is the
product by `2 ^ (n mod 128)` modulo `2^128` and the right shift the quotient by it; an amount
and its remainder modulo 128 shift alike; and a left shift followed by the right shift by the
same amount is the `&&&` with the greatest value shifted right. -/
theorem shifts_exact (x : U128) (n : Nat) :
    x.shlWith Word.shlChecked Word.shrChecked n = .ok (x.shl n) ∧
    x.shrWith Word.shlChecked Word.shrChecked n = .ok (x.shr n) ∧
    (x.shl n).toNat = x.toNat * 2 ^ (n % 128) % modulus ∧
    (x.shr n).toNat = x.toNat / 2 ^ (n % 128) ∧
    x.shl (n % 128) = x.shl n ∧ x.shr (n % 128) = x.shr n ∧
    (x.shl n).shr n = x &&& max.shr n := by
  refine ⟨shlWith_checked x n, shrWith_checked x n, toNat_shl x n, toNat_shr x n, ?_, ?_,
    shl_shr x n⟩
  · rw [shl_eq, shl_eq, Nat.mod_mod]
  · rw [shr_eq, shr_eq, Nat.mod_mod]

end U128

end DoubleWord
