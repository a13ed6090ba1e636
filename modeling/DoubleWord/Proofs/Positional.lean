import Mathlib
import DoubleWord.Proofs.Order
import DoubleWord.Proofs.BitCounts

/-!
# Positional forms

A value can be given by its digits in several radices, least significant first: sixteen bytes
(or sixteen bytes most significant first), eight 16-bit words, four 32-bit words, or 128 bits.
Each form stands for the positional sum of its digits, and the bytes can be read back.

The loops that build a value OR each digit into place; `foldl_or_limbs` says once that such a
loop adds the digits at their places, since each digit lands above every bit set before it.
Reading a digit back from a sum (`sum_limbs_div_mod`) and writing a number as the sum of its
digits (`sum_mod_limbs`) are the other two facts about sums of digits that the round trips use.

Main statement: `positional_forms_exact`.
-/

set_option autoImplicit false

namespace DoubleWord

/-! ## Sums of digits -/

section Limbs

variable {n w : Nat}

/-- Digits below `2^w`, at places `w · i`, sum to less than `2^(w · n)`. -/
theorem sum_limbs_lt (d : Fin n → Nat) (hd : ∀ i, d i < 2 ^ w) :
    ∑ i, d i * 2 ^ (w * i.val) < 2 ^ (w * n) := by
  induction n with
  | zero => simp
  | succ n ih =>
    rw [Fin.sum_univ_castSucc]
    have hlow := ih (fun i => d i.castSucc) (fun i => hd _)
    have htop : d (Fin.last n) + 1 ≤ 2 ^ w := hd _
    simp only [Fin.val_castSucc, Fin.val_last] at hlow ⊢
    calc ∑ i : Fin n, d i.castSucc * 2 ^ (w * i.val) + d (Fin.last n) * 2 ^ (w * n)
        < (d (Fin.last n) + 1) * 2 ^ (w * n) := by
          rw [Nat.succ_mul]
          exact Nat.add_lt_add_right hlow _ |>.trans_eq (Nat.add_comm _ _)
      _ ≤ 2 ^ w * 2 ^ (w * n) := Nat.mul_le_mul_right _ htop
      _ = 2 ^ (w * (n + 1)) := by rw [← Nat.pow_add, Nat.mul_succ, Nat.add_comm]

/-- **ORing digits into place adds them.** A loop that ORs digit `i` in at place `w · i`, for
`i` from `0` up, ends with the positional sum: each digit lands above every bit set before it,
so no OR ever meets a set bit. -/
theorem foldl_or_limbs {σ : Type} (view : σ → Nat) (d : Fin n → Nat) (hd : ∀ i, d i < 2 ^ w)
    (step : σ → Fin n → σ) (init : σ) (hinit : view init = 0)
    (hstep : ∀ acc i, view (step acc i) = view acc ||| d i * 2 ^ (w * i.val)) :
    view (Fin.foldl n step init) = ∑ i, d i * 2 ^ (w * i.val) := by
  induction n with
  | zero => simp [hinit]
  | succ n ih =>
    -- the last digit is ORed onto the loop over the first `n`
    rw [Fin.foldl_succ_last, hstep, Fin.sum_univ_castSucc,
      ih (fun i => d i.castSucc) (fun i => hd _) (fun acc i => step acc i.castSucc)
        (fun acc i => hstep acc i.castSucc)]
    simp only [Fin.val_castSucc, Fin.val_last]
    rw [Nat.or_comm, mul_two_pow_or (sum_limbs_lt _ fun i => hd _), Nat.add_comm]

/-- **A digit can be read back from the sum:** divided by its place and reduced modulo `2^w`,
the sum leaves it. The digits below it divide away, and those above it are multiples of
`2^w` after the division. -/
theorem sum_limbs_div_mod (d : Fin n → Nat) (hd : ∀ i, d i < 2 ^ w) (i : Fin n) :
    (∑ j, d j * 2 ^ (w * j.val)) / 2 ^ (w * i.val) % 2 ^ w = d i := by
  induction n with
  | zero => exact i.elim0
  | succ n ih =>
    rw [Fin.sum_univ_castSucc]
    have hlow := sum_limbs_lt (fun j => d j.castSucc) (fun j => hd _)
    simp only [Fin.val_castSucc, Fin.val_last] at hlow ⊢
    by_cases hi : i.val < n
    · -- below the top digit: the top digit is `2^w` times a whole number after the division
      have hsplit : 2 ^ (w * n) = 2 ^ (w * i.val) * (2 ^ w * 2 ^ (w * (n - i.val - 1))) := by
        have hn : n = i.val + 1 + (n - i.val - 1) := by omega
        rw [← Nat.pow_add, ← Nat.pow_add]
        congr 1
        nth_rewrite 1 [hn]
        ring
      rw [hsplit, ← Nat.mul_assoc, Nat.mul_comm _ (2 ^ (w * i.val)), Nat.mul_assoc,
        Nat.add_mul_div_left _ _ (Nat.two_pow_pos _), ← Nat.mul_assoc, Nat.mul_comm _ (2 ^ w),
        Nat.mul_assoc, Nat.add_mul_mod_self_left]
      exact ih (fun j => d j.castSucc) (fun j => hd _) ⟨i.val, hi⟩
    · -- the top digit: the digits below it sum to less than its place
      have hin : i = Fin.last n := Fin.ext (by simp only [Fin.val_last]; omega)
      subst hin
      simp only [Fin.val_last]
      rw [Nat.add_mul_div_right _ _ (Nat.two_pow_pos _), Nat.div_eq_of_lt hlow, Nat.zero_add,
        Nat.mod_eq_of_lt (hd _)]

/-- **A number is the sum of its digits:** its digits in base `2^w`, each at its place, sum to
the number modulo `2^(w · n)`. -/
theorem sum_mod_limbs (x : Nat) :
    ∑ i : Fin n, x / 2 ^ (w * i.val) % 2 ^ w * 2 ^ (w * i.val) = x % 2 ^ (w * n) := by
  induction n with
  | zero => simp [Nat.mod_one]
  | succ n ih =>
    rw [Fin.sum_univ_castSucc]
    simp only [Fin.val_castSucc, Fin.val_last]
    rw [ih, Nat.mul_succ, Nat.pow_add, Nat.mod_mul, Nat.mul_comm (2 ^ (w * n))]

end Limbs

/-! ## Words of bytes -/

namespace Word

/-- A shift amount below 64 is taken as it is. -/
theorem toNat_toUInt64_mod_64 {s : Nat} (h : s < 64) : s.toUInt64.toNat % 64 = s := by
  rw [Nat.toUInt64_eq, UInt64.toNat_ofNat']
  omega

/-- A digit of `w > 0` bits moved up `s` places, with `s + w ≤ 64`, still fits in a word. -/
theorem toNat_shiftLeft_limb {a : UInt64} {w s : Nat} (ha : a.toNat < 2 ^ w) (hs : s + w ≤ 64)
    (hw : 0 < w) :
    (a <<< s.toUInt64).toNat = a.toNat * 2 ^ s := by
  have hfit : a.toNat * 2 ^ s < 2 ^ 64 :=
    calc a.toNat * 2 ^ s < 2 ^ w * 2 ^ s := Nat.mul_lt_mul_of_pos_right ha (Nat.two_pow_pos s)
      _ = 2 ^ (w + s) := (Nat.pow_add 2 w s).symm
      _ ≤ 2 ^ 64 := Nat.pow_le_pow_right (by decide) (by omega)
  rw [UInt64.toNat_shiftLeft, toNat_toUInt64_mod_64 (by omega), Nat.shiftLeft_eq,
    Nat.mod_eq_of_lt hfit]

/-- **The word of eight bytes** is their positional sum. -/
theorem toNat_ofLeBytes (b : Vector UInt8 8) :
    (ofLeBytes b).toNat = ∑ i : Fin 8, (b.get i).toNat * 2 ^ (8 * i.val) :=
  foldl_or_limbs UInt64.toNat (fun i => (b.get i).toNat) (fun i => (b.get i).toNat_lt) _ 0 rfl
    fun acc i => by
      rw [UInt64.toNat_or, toNat_shiftLeft_limb (w := 8) (by simpa using b[i].toNat_lt)
        (by have := i.isLt; omega) (by decide), UInt8.toNat_toUInt64, Vector.get_eq_getElem,
        Fin.getElem_fin]

/-- Byte `i` of a word is its number's digit `i` in base `2^8`. -/
theorem toNat_leBytes_getElem (v : UInt64) {i : Nat} (hi : i < 8) :
    (leBytes v)[i].toNat = v.toNat / 2 ^ (8 * i) % 2 ^ 8 := by
  simp only [leBytes, Vector.getElem_ofFn, UInt64.toNat_toUInt8, UInt64.toNat_shiftRight,
    toNat_toUInt64_mod_64 (by omega : 8 * i < 64), Nat.shiftRight_eq_div_pow]

end Word

namespace U128

/-! ## Building a value from digits -/

/-- **ORing a word into one of the two words** ORs it into the number at that word's place. -/
theorem toNat_orWord (x : U128) (k : Fin 2) (v : UInt64) :
    (x.orWord k v).toNat = x.toNat ||| v.toNat * 2 ^ (64 * k.val) := by
  have hws : wordSize = 2 ^ 64 := rfl
  have hlo := x.lo.toNat_lt
  -- the number is the high word above the low word, with no bit in common
  have hx : x.toNat = x.hi.toNat * 2 ^ 64 ||| x.lo.toNat := by
    rw [mul_two_pow_or hlo, toNat_eq, hws, Nat.add_comm, Nat.mul_comm]
  unfold orWord
  split
  · rename_i hk
    subst hk
    have hor := (x.lo ||| v).toNat_lt
    rw [UInt64.toNat_or] at hor
    simp only [Fin.val_zero, Nat.mul_zero, Nat.pow_zero, Nat.mul_one]
    rw [toNat_mk, hws, hx, UInt64.toNat_or, Nat.or_assoc, mul_two_pow_or hor]
    ring
  · rename_i hk
    have hk1 : k.val = 1 := by omega
    rw [toNat_mk, hws, hx, hk1, Nat.mul_one, UInt64.toNat_or, Nat.or_assoc,
      Nat.or_comm x.lo.toNat, ← Nat.or_assoc, ← Nat.shiftLeft_eq, ← Nat.shiftLeft_eq,
      ← Nat.shiftLeft_or_distrib, Nat.shiftLeft_eq, mul_two_pow_or hlo]
    ring

/-- **Packing digits into the two words** gives their positional sum, when `per` digits of
`width` bits fill a word: digit `i` goes into word `i / per` at place `width · (i % per)`,
which is place `width · i` of the number. -/
theorem toNat_packLimbs {n per width : Nat} (limbs : Vector UInt64 n) (h : n ≤ 2 * per)
    (hw : width * per = 64) (hd : ∀ i : Fin n, (limbs.get i).toNat < 2 ^ width) :
    (packLimbs per width limbs h).toNat =
      ∑ i : Fin n, (limbs.get i).toNat * 2 ^ (width * i.val) :=
  foldl_or_limbs toNat (fun i => (limbs.get i).toNat) hd _ zero toNat_zero fun acc i => by
    have hmod : i.val % per + 1 ≤ per := Nat.mod_lt _ (by have := i.isLt; omega)
    have hfit : width * (i.val % per) + width ≤ 64 :=
      calc width * (i.val % per) + width = width * (i.val % per + 1) := by rw [Nat.mul_succ]
        _ ≤ width * per := Nat.mul_le_mul_left _ hmod
        _ = 64 := hw
    have hpos : 0 < width := Nat.pos_of_ne_zero (by rintro rfl; simp at hw)
    have hdi : limbs[i].toNat < 2 ^ width := by
      simpa only [Vector.get_eq_getElem, Fin.getElem_fin] using hd i
    rw [toNat_orWord, Word.toNat_shiftLeft_limb hdi hfit hpos, Nat.mul_assoc, ← Nat.pow_add,
      Vector.get_eq_getElem, Fin.getElem_fin]
    -- the place within the word and the word's place add up to the digit's place
    rw [← hw, Nat.mul_assoc, ← Nat.mul_add, Nat.mod_add_div]

theorem toNat_ofU16Words (words : Vector UInt16 8) :
    (ofU16Words words).toNat = ∑ i : Fin 8, (words.get i).toNat * 2 ^ (16 * i.val) := by
  unfold ofU16Words
  rw [toNat_packLimbs _ _ (by decide)
    fun i => by simpa [Vector.get_eq_getElem, Vector.getElem_map] using (words.get i).toNat_lt]
  simp only [Vector.get_eq_getElem, Vector.getElem_map, UInt16.toNat_toUInt64]

theorem toNat_ofBits (bits : Vector Bool 128) :
    (ofBits bits).toNat = ∑ i : Fin 128, (bits.get i).toNat * 2 ^ i.val := by
  have hbit (b : Bool) : b.toUInt64.toNat = b.toNat := by cases b <;> rfl
  unfold ofBits
  rw [toNat_packLimbs _ _ (by decide)
    fun i => by
      simpa [Vector.get_eq_getElem, Vector.getElem_map, hbit] using Bool.toNat_lt (bits.get i)]
  simp only [Vector.get_eq_getElem, Vector.getElem_map, hbit, Nat.one_mul]

/-- Two 32-bit words side by side in one word. -/
theorem toNat_or_shiftLeft_32 (a b : UInt32) :
    (a.toUInt64 ||| b.toUInt64 <<< (32 : UInt64)).toNat = a.toNat + b.toNat * 2 ^ 32 := by
  have ha : a.toUInt64.toNat < 2 ^ 32 := by simpa using a.toNat_lt
  have hb : b.toUInt64.toNat < 2 ^ 32 := by simpa using b.toNat_lt
  rw [UInt64.toNat_or, show (32 : UInt64) = (32 : Nat).toUInt64 from rfl,
    Word.toNat_shiftLeft_limb hb (by decide) (by decide), Nat.or_comm, mul_two_pow_or ha,
    Nat.add_comm, UInt32.toNat_toUInt64, UInt32.toNat_toUInt64]

theorem toNat_ofU32Words (words : Vector UInt32 4) :
    (ofU32Words words).toNat = ∑ i : Fin 4, (words.get i).toNat * 2 ^ (32 * i.val) := by
  have h3 : ((3 : Fin 4) : Nat) = 3 := rfl
  rw [ofU32Words, toNat_mk, toNat_or_shiftLeft_32, toNat_or_shiftLeft_32, Fin.sum_univ_four,
    wordSize]
  simp only [Vector.get_eq_getElem, Fin.isValue, Fin.val_zero, Fin.val_one, Fin.val_two, h3]
  ring

/-! ## Bytes -/

theorem toNat_ofLeBytes (bytes : Vector UInt8 16) :
    (ofLeBytes bytes).toNat = ∑ i : Fin 16, (bytes.get i).toNat * 2 ^ (8 * i.val) := by
  have hws : wordSize = 2 ^ 64 := rfl
  rw [ofLeBytes, toNat_mk, Word.toNat_ofLeBytes, Word.toNat_ofLeBytes,
    Fin.sum_univ_add (a := 8) (b := 8), hws, Finset.mul_sum]
  simp only [Vector.get_eq_getElem, Vector.getElem_ofFn, Fin.val_castAdd, Fin.val_natAdd,
    Nat.add_comm 8]
  refine congrArg (_ + ·) (Finset.sum_congr rfl fun i _ => ?_)
  rw [Nat.mul_add, Nat.pow_add]
  ring

/-- Byte `i` of a value is its number's digit `i` in base `2^8`. -/
theorem toNat_toLeBytes_getElem (x : U128) {i : Nat} (hi : i < 16) :
    x.toLeBytes[i].toNat = x.toNat / 2 ^ (8 * i) % 2 ^ 8 := by
  unfold toLeBytes
  rw [Vector.getElem_ofFn]
  split
  · rename_i h8
    -- a byte of the low word: the high word lies above the byte
    rw [Word.toNat_leBytes_getElem _ h8, ← Nat.mod_mul_right_div_self,
      ← Nat.mod_mul_right_div_self, ← Nat.pow_add, toNat_mod_two_pow_of_le x (by omega)]
  · rename_i h8
    have h8' : 8 ≤ i := Nat.le_of_not_lt h8
    -- a byte of the high word: its place is the word size times a place within the word
    have hplace : 2 ^ (8 * i) = wordSize * 2 ^ (8 * (i - 8)) := by
      rw [show wordSize = 2 ^ 64 from rfl, ← Nat.pow_add]
      congr 1
      omega
    rw [Word.toNat_leBytes_getElem _ (by omega), hplace, ← Nat.div_div_eq_div_mul,
      toNat_div_wordSize]

/-- **Bytes read back give the value.** -/
theorem ofLeBytes_toLeBytes (x : U128) : ofLeBytes x.toLeBytes = x :=
  ext_toNat <|
    calc (ofLeBytes x.toLeBytes).toNat
        = ∑ i : Fin 16, x.toNat / 2 ^ (8 * i.val) % 2 ^ 8 * 2 ^ (8 * i.val) := by
          rw [toNat_ofLeBytes]
          exact Finset.sum_congr rfl fun i _ => by
            rw [Vector.get_eq_getElem, toNat_toLeBytes_getElem x i.isLt]
      _ = x.toNat % 2 ^ (8 * 16) := sum_mod_limbs x.toNat
      _ = x.toNat := Nat.mod_eq_of_lt x.toNat_lt

/-- **A value's bytes are the bytes it was built from.** -/
theorem toLeBytes_ofLeBytes (bytes : Vector UInt8 16) : (ofLeBytes bytes).toLeBytes = bytes := by
  apply Vector.ext
  intro i hi
  rw [← UInt8.toNat_inj, toNat_toLeBytes_getElem _ hi, toNat_ofLeBytes]
  exact sum_limbs_div_mod (fun j : Fin 16 => (bytes.get j).toNat) (fun j => (bytes.get j).toNat_lt)
    ⟨i, hi⟩

theorem toBeBytes_eq_reverse (x : U128) : x.toBeBytes = x.toLeBytes.reverse := by
  apply Vector.ext
  intro i hi
  simp only [toBeBytes, Vector.getElem_ofFn, Vector.getElem_reverse]

theorem ofBeBytes_eq_ofLeBytes_reverse (bytes : Vector UInt8 16) :
    ofBeBytes bytes = ofLeBytes bytes.reverse := by
  rw [ofBeBytes]
  congr 1
  apply Vector.ext
  intro i hi
  simp only [Vector.getElem_ofFn, Vector.getElem_reverse]

theorem ofBeBytes_toBeBytes (x : U128) : ofBeBytes x.toBeBytes = x := by
  rw [ofBeBytes_eq_ofLeBytes_reverse, toBeBytes_eq_reverse, Vector.reverse_reverse,
    ofLeBytes_toLeBytes]

theorem toBeBytes_ofBeBytes (bytes : Vector UInt8 16) : (ofBeBytes bytes).toBeBytes = bytes := by
  rw [toBeBytes_eq_reverse, ofBeBytes_eq_ofLeBytes_reverse, toLeBytes_ofLeBytes,
    Vector.reverse_reverse]

/-- **Bit `i` of a value built from bits is bit `i` of the array.** -/
theorem bit_ofBits (bits : Vector Bool 128) (i : Fin 128) :
    (ofBits bits).bit i = .ok (bits.get i) := by
  have hdigit := sum_limbs_div_mod (w := 1) (fun j : Fin 128 => (bits.get j).toNat)
    (fun j => Bool.toNat_lt _) i
  simp only [Nat.one_mul, Nat.pow_one] at hdigit
  rw [bit_eq, if_pos i.isLt, Nat.testBit_eq_decide_div_mod_eq, toNat_ofBits, hdigit]
  cases (bits.get i) <;> rfl

/-! ## Values given by their digits -/

/-- A value given by its digits in one of the positional forms. -/
inductive Positional
  | leBytes (bytes : Vector UInt8 16)
  | beBytes (bytes : Vector UInt8 16)
  | u16Words (words : Vector UInt16 8)
  | u32Words (words : Vector UInt32 4)
  | bits (bits : Vector Bool 128)

namespace Positional

/-- The value a form builds. -/
def build : Positional → U128
  | leBytes b => ofLeBytes b
  | beBytes b => ofBeBytes b
  | u16Words w => ofU16Words w
  | u32Words w => ofU32Words w
  | bits b => ofBits b

/-- The positional sum of a form's digits; big-endian bytes put the first at the top. -/
def sum : Positional → Nat
  | leBytes b => ∑ i : Fin 16, (b.get i).toNat * 2 ^ (8 * i.val)
  | beBytes b => ∑ i : Fin 16, (b.get i).toNat * 2 ^ (8 * (15 - i.val))
  | u16Words w => ∑ i : Fin 8, (w.get i).toNat * 2 ^ (16 * i.val)
  | u32Words w => ∑ i : Fin 4, (w.get i).toNat * 2 ^ (32 * i.val)
  | bits b => ∑ i : Fin 128, (b.get i).toNat * 2 ^ i.val

/-- **Each form builds the value of its sum.** -/
theorem toNat_build (p : Positional) : p.build.toNat = p.sum := by
  cases p with
  | leBytes b => exact toNat_ofLeBytes b
  | beBytes b =>
    -- reading the bytes in reverse turns place `i` into place `15 - i`
    rw [build, sum, ofBeBytes_eq_ofLeBytes_reverse, toNat_ofLeBytes]
    exact Fintype.sum_equiv Fin.revPerm _ _ fun i => by
      have hrev : 16 - 1 - i.val = 16 - (i.val + 1) := by omega
      have hplace : 15 - (16 - (i.val + 1)) = i.val := by omega
      simp only [Vector.get_eq_getElem, Vector.getElem_reverse, Fin.revPerm_apply, Fin.val_rev,
        hrev, hplace]
  | u16Words w => exact toNat_ofU16Words w
  | u32Words w => exact toNat_ofU32Words w
  | bits b => exact toNat_ofBits b

/-- **Values built from digits compare as their sums**, whichever forms they come from. -/
theorem compare_build (p q : Positional) : compare p.build q.build = Ord.compare p.sum q.sum := by
  rw [compare_eq_compare_toNat, toNat_build, toNat_build]

end Positional

/-- **The positional forms are exact.** Bytes written out and read back, little- or
big-endian, give the value back, and a value built from bytes writes out those bytes; the
big-endian bytes are the little-endian ones reversed. Bytes, 16-bit words, 32-bit words and
bits, least significant first, build the value of their positional sum, so bit `i` of a value
built from bits is bit `i` of the array, and values built from digits in any of the forms
compare as their sums. -/
theorem positional_forms_exact :
    (∀ x : U128, ofLeBytes x.toLeBytes = x ∧ ofBeBytes x.toBeBytes = x ∧
      x.toBeBytes = x.toLeBytes.reverse) ∧
    (∀ bytes : Vector UInt8 16, (ofLeBytes bytes).toLeBytes = bytes ∧
      (ofBeBytes bytes).toBeBytes = bytes ∧ ofU8Words bytes = ofLeBytes bytes ∧
      (ofLeBytes bytes).toNat = ∑ i : Fin 16, (bytes.get i).toNat * 2 ^ (8 * i.val)) ∧
    (∀ words : Vector UInt16 8,
      (ofU16Words words).toNat = ∑ i : Fin 8, (words.get i).toNat * 2 ^ (16 * i.val)) ∧
    (∀ words : Vector UInt32 4,
      (ofU32Words words).toNat = ∑ i : Fin 4, (words.get i).toNat * 2 ^ (32 * i.val)) ∧
    (∀ bits : Vector Bool 128,
      (ofBits bits).toNat = ∑ i : Fin 128, (bits.get i).toNat * 2 ^ i.val ∧
      ∀ i : Fin 128, (ofBits bits).bit i = .ok (bits.get i)) ∧
    (∀ p q : Positional, compare p.build q.build = Ord.compare p.sum q.sum) :=
  ⟨fun x => ⟨ofLeBytes_toLeBytes x, ofBeBytes_toBeBytes x, toBeBytes_eq_reverse x⟩,
    fun bytes => ⟨toLeBytes_ofLeBytes bytes, toBeBytes_ofBeBytes bytes, rfl,
      toNat_ofLeBytes bytes⟩,
    toNat_ofU16Words, toNat_ofU32Words, fun bits => ⟨toNat_ofBits bits, bit_ofBits bits⟩,
    Positional.compare_build⟩

end U128

end DoubleWord
