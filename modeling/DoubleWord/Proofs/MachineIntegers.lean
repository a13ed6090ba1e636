import Mathlib
import DoubleWord.U128.Convert
import DoubleWord.Proofs.Arith

/-!
# Machine integers in and out

Every conversion between two-word numbers and the machine integer types is the expected ring
map, checked against the number each side stands for.

* In: an unsigned integer or a truth value keeps its number; a signed integer of any width
  stands for itself modulo `2^128`. The signed case rests on two facts about a signed word:
  its bit pattern is its value modulo `2^64` (`Int64.toNat_toUInt64_eq_emod`), and an
  arithmetic shift by 63 leaves `-1` or `0` as it is negative or not
  (`Int64.toInt_shiftRight_63`). So a negative integer becomes `2^128 + v`, with a high word
  of all ones (`SignExtends`).
* 128-bit integers: splitting into words and joining them back are inverse bijections, both
  keeping the number.
* Out: a narrowing cast to `N ≤ 64` bits is the number modulo `2^N`, read in two's complement
  (`Int.bmod`) for a signed type, although it reads only the low word. The checked
  conversions answer exactly below `2^64`, `2^63` and `2^127`, and the 128-bit one always;
  the checked conversions from signed integers answer exactly for a nonnegative integer.

Main statement: `machine_conversions_exact`.
-/

set_option autoImplicit false

/-! ## Signed words -/

/-- **The bit pattern of a signed word is its value modulo `2^64`.** -/
theorem Int64.toNat_toUInt64_eq_emod (v : Int64) :
    (v.toUInt64.toNat : Int) = v.toInt % 2 ^ 64 := by
  have h := v.toBitVec.isLt
  rw [Int64.toInt, BitVec.toInt_eq_toNat_cond, ← Int64.toNat_toBitVec]
  split <;> omega

/-- **An arithmetic shift by 63 leaves the sign:** `-1` for a negative word, `0` otherwise. -/
theorem Int64.toInt_shiftRight_63 (v : Int64) :
    (v >>> 63).toInt = if v.toInt < 0 then -1 else 0 := by
  have h1 := v.toInt_lt
  have h2 := v.le_toInt
  have hv : v.toInt = v.toBitVec.toInt := rfl
  have h63 : ((63 : Int64).toBitVec.smod 64).toNat = 63 := by decide
  rw [Int64.toInt, Int64.toBitVec_shiftRight, BitVec.toInt_sshiftRight', h63,
    Int.shiftRight_eq_div_pow]
  split <;> omega

namespace DoubleWord

namespace U128

/-! ## Integers in -/

/-- **A value stands for a signed integer:** its number is the integer modulo `2^128`, and its
high word is all ones for a negative integer and zero otherwise. -/
def SignExtends (x : U128) (v : Int) : Prop :=
  (x.toNat : Int) = v % 2 ^ 128 ∧ x.hi.toNat = if v < 0 then 2 ^ 64 - 1 else 0

/-- The high word of a signed integer is its sign, copied into every bit. -/
theorem toNat_hi_ofInt64 (v : Int64) :
    (ofInt64 v).hi.toNat = if v.toInt < 0 then 2 ^ 64 - 1 else 0 := by
  have h := Int64.toNat_toUInt64_eq_emod (v >>> 63)
  rw [Int64.toInt_shiftRight_63] at h
  show (v >>> 63).toUInt64.toNat = _
  split <;> split at h <;> omega

/-- **A signed integer widened to 64 bits becomes itself modulo `2^128`.** The low word is
its pattern, the value modulo `2^64`; for a negative value the high word of ones adds the
missing `2^128 - 2^64`. -/
theorem signExtends_ofInt64 (v : Int64) : (ofInt64 v).SignExtends v.toInt := by
  have hlo := Int64.toNat_toUInt64_eq_emod v
  have hhi := toNat_hi_ofInt64 v
  have h1 := v.toInt_lt
  have h2 := v.le_toInt
  refine ⟨?_, hhi⟩
  rw [toNat_eq]
  show ((v.toUInt64.toNat + wordSize * (ofInt64 v).hi.toNat : Nat) : Int) = _
  by_cases hv : v.toInt < 0
  · rw [hhi, if_pos hv]
    push_cast [wordSize]
    omega
  · rw [hhi, if_neg hv]
    push_cast
    omega

/-! ## 128-bit integers -/

/-- Joining the words gives the number. -/
@[simp]
theorem toNat_toU128 (x : U128) : x.toU128.toNat = x.toNat := by
  have hlo := x.lo.toNat_lt
  have hhi := x.hi.toNat_lt
  have hsh : x.hi.toNat <<< 64 < 2 ^ 128 := by
    rw [Nat.shiftLeft_eq]
    omega
  simp only [toU128, BitVec.toNat_or, BitVec.toNat_shiftLeft, BitVec.toNat_setWidth,
    UInt64.toNat_toBitVec]
  rw [Nat.mod_eq_of_lt (by omega : x.lo.toNat < 2 ^ 128),
    Nat.mod_eq_of_lt (by omega : x.hi.toNat < 2 ^ 128), Nat.mod_eq_of_lt hsh, Nat.or_comm,
    ← Nat.shiftLeft_add_eq_or_of_lt hlo, Nat.shiftLeft_eq, toNat_eq, wordSize]
  omega

/-- Splitting into words keeps the number. -/
@[simp]
theorem toNat_ofU128 (v : BitVec 128) : (ofU128 v).toNat = v.toNat := by
  have h := v.isLt
  simp only [ofU128, toNat_mk, UInt64.toNat_ofBitVec, BitVec.toNat_setWidth,
    BitVec.toNat_ushiftRight, Nat.shiftRight_eq_div_pow, wordSize]
  omega

theorem ofU128_toU128 (x : U128) : ofU128 x.toU128 = x :=
  ext_toNat (by rw [toNat_ofU128, toNat_toU128])

theorem toU128_ofU128 (v : BitVec 128) : (ofU128 v).toU128 = v :=
  BitVec.eq_of_toNat_eq (by rw [toNat_toU128, toNat_ofU128])

/-! ## Integers out -/

/-- The low `b ≤ 64` bits of a value are those of its low word. -/
theorem toNat_mod_two_pow_of_le (x : U128) {b : Nat} (hb : b ≤ 64) :
    x.toNat % 2 ^ b = x.lo.toNat % 2 ^ b := by
  have h : wordSize = 2 ^ b * 2 ^ (64 - b) := by
    rw [← Nat.pow_add, Nat.add_sub_cancel' hb]
  rw [toNat_eq, h, Nat.mul_assoc, Nat.add_mul_mod_self_left]

/-- A narrowing cast reads only the low bits of its number. -/
theorem IntType.wrap_congr {t : IntType} {m n : Nat} (h : m % 2 ^ t.bits = n % 2 ^ t.bits) :
    t.wrap m = t.wrap n := by
  simp only [IntType.wrap, Nat.pow_eq, h]

/-- **The low bits of a number read as a machine type:** the number modulo `2^N`, and for a
signed type its two's complement reading, the balanced residue `Int.bmod`. -/
theorem IntType.wrap_eq (t : IntType) (n : Nat) :
    t.wrap n = if t.signed then Int.bmod n (2 ^ t.bits) else ((n % 2 ^ t.bits : Nat) : Int) := by
  have hpos : 1 ≤ t.bits := by cases t <;> decide
  have hm : 2 ^ t.bits = 2 * 2 ^ (t.bits - 1) := by
    rw [← Nat.pow_succ']
    congr 1
    omega
  have hk : 0 < 2 ^ (t.bits - 1) := Nat.two_pow_pos _
  unfold IntType.wrap Int.bmod
  simp only [Nat.pow_eq, hm, ge_iff_le]
  -- half the modulus is the sign bit's weight, and both readings compare the residue with it
  generalize 2 ^ (t.bits - 1) = k at *
  have hr0 : (0 : Int) ≤ (n : Int) % (2 * k : Nat) := Int.emod_nonneg _ (by omega)
  have hr1 : (n : Int) % (2 * k : Nat) < (2 * k : Nat) := Int.emod_lt_of_pos _ (by omega)
  by_cases hs : t.signed
  · simp only [hs, true_and, if_true, Int.natCast_mod]
    split <;> split <;> omega
  · simp [hs]

/-- **A narrowing cast is the value modulo `2^N`,** read in two's complement for a signed type:
for every machine type of at most 64 bits but `bool`. The cast reads the low word only, which
holds all the bits it keeps. -/
theorem castTo_eq (x : U128) {t : IntType} (hb : t ≠ .bool) (hu : t ≠ .u128) :
    x.castTo t = if t.signed then Int.bmod x.toNat (2 ^ t.bits)
      else ((x.toNat % 2 ^ t.bits : Nat) : Int) := by
  have hbits : t.bits ≤ 64 := by cases t <;> simp_all [IntType.bits]
  have hlow : x.castTo t = t.wrap x.lo.toNat := by
    unfold castTo
    split
    · exact absurd rfl hb
    · exact absurd rfl hu
    · rfl
  rw [hlow, IntType.wrap_congr (toNat_mod_two_pow_of_le x hbits).symm, IntType.wrap_eq]

/-- A value is below `2^64` exactly when its high word is zero. -/
theorem toNat_lt_two_pow_64_iff (x : U128) : x.toNat < 2 ^ 64 ↔ x.hi = 0 := by
  have hlo := x.lo.toNat_lt
  rw [toNat_eq, wordSize, ← UInt64.toNat_inj, UInt64.toNat_zero]
  omega

theorem toWord?_map (x : U128) :
    x.toWord?.map UInt64.toNat = if x.toNat < 2 ^ 64 then some x.toNat else none := by
  simp only [toWord?, toNat_lt_two_pow_64_iff]
  split
  · rename_i h
    rw [Option.map_some, toNat_of_hi_eq_zero h]
  · rfl

/-- A word below `2^63` keeps its value as a signed word. -/
theorem Word.toInt64?_map (w : UInt64) :
    (Word.toInt64? w).map Int64.toInt = if w.toNat < 2 ^ 63 then some (w.toNat : Int) else none := by
  unfold Word.toInt64?
  simp only [Nat.pow_eq]
  split
  · rename_i h
    have hv : w.toInt64.toInt = w.toBitVec.toInt := rfl
    rw [Option.map_some, hv, BitVec.toInt_eq_toNat_cond, UInt64.toNat_toBitVec, if_pos (by omega)]
  · rfl

theorem toInt64?_map (x : U128) :
    x.toInt64?.map Int64.toInt = if x.toNat < 2 ^ 63 then some (x.toNat : Int) else none := by
  unfold toInt64? toWord?
  split
  · rename_i h
    rw [Option.bind_some, Word.toInt64?_map, toNat_of_hi_eq_zero h]
  · rename_i h
    -- a nonzero high word puts the value at `2^64` or more
    have hbig : ¬ x.toNat < 2 ^ 63 := fun hlt => h ((toNat_lt_two_pow_64_iff x).1 (by omega))
    rw [Option.bind_none, Option.map_none, if_neg hbig]

theorem toInt128?_map (x : U128) :
    x.toInt128?.map BitVec.toInt = if x.toNat < 2 ^ 127 then some (x.toNat : Int) else none := by
  unfold toInt128?
  simp only [toNat_toU128, Nat.pow_eq]
  split
  · rename_i h
    rw [Option.map_some, BitVec.toInt_eq_toNat_cond, toNat_toU128, if_pos (by omega)]
  · rfl

theorem toU128?_map (x : U128) : x.toU128?.map BitVec.toNat = some x.toNat := by
  simp [toU128?]

theorem ofInt64?_map (v : Int64) :
    (ofInt64? v).map toNat = if 0 ≤ v.toInt then some v.toInt.toNat else none := by
  have hp := Int64.toNat_toUInt64_eq_emod v
  have h1 := v.toInt_lt
  have hle : 0 ≤ v ↔ 0 ≤ v.toInt := by rw [Int64.le_iff_toInt_le, Int64.toInt_zero]
  unfold ofInt64?
  by_cases h : 0 ≤ v.toInt
  · rw [if_pos (hle.2 h), if_pos h, Option.map_some, toNat_ofWord]
    congr 1
    omega
  · rw [if_neg (fun h' => h (hle.1 h')), if_neg h, Option.map_none]

theorem ofInt128?_map (v : BitVec 128) :
    (ofInt128? v).map toNat = if 0 ≤ v.toInt then some v.toInt.toNat else none := by
  unfold ofInt128?
  split
  · rename_i h
    have hv := v.isLt
    have hnn : 2 * v.toNat < 2 ^ 128 := by
      rw [BitVec.toInt_eq_toNat_cond] at h
      split at h <;> omega
    rw [Option.map_some, toNat_ofU128, BitVec.toInt_eq_toNat_cond, if_pos hnn, Int.toNat_natCast]
  · rfl

/-! ## The conversions together -/

/-- **Every conversion with machine integers is the expected ring map.** Out: a narrowing cast
to any machine type of at most 64 bits but `bool` is the number modulo `2^N`, two's complement
for a signed type; the checked conversions to a word, a signed 64-bit and a signed 128-bit
integer answer the number exactly when it is below `2^64`, `2^63` and `2^127`, and the one to a
128-bit integer always answers it. In: a signed integer of 8 to 64 bits, widened to 64 bits by
its own sign extension, stands for itself modulo `2^128`, with a high word of all ones exactly
when it is negative; an unsigned integer or a truth value stands for its number; a signed
64-bit or 128-bit integer converts in exactly when it is not negative. The two 128-bit
conversions are inverse bijections that keep the number. -/
theorem machine_conversions_exact :
    (∀ (x : U128) (t : IntType), t ≠ .bool → t ≠ .u128 →
      x.castTo t = if t.signed then Int.bmod x.toNat (2 ^ t.bits)
        else ((x.toNat % 2 ^ t.bits : Nat) : Int)) ∧
    (∀ x : U128, x.toWord?.map UInt64.toNat = if x.toNat < 2 ^ 64 then some x.toNat else none) ∧
    (∀ x : U128, x.toInt64?.map Int64.toInt =
      if x.toNat < 2 ^ 63 then some (x.toNat : Int) else none) ∧
    (∀ x : U128, x.toInt128?.map BitVec.toInt =
      if x.toNat < 2 ^ 127 then some (x.toNat : Int) else none) ∧
    (∀ x : U128, x.toU128?.map BitVec.toNat = some x.toNat) ∧
    (∀ v : Int8, (ofInt64 v.toInt64).SignExtends v.toInt) ∧
    (∀ v : Int16, (ofInt64 v.toInt64).SignExtends v.toInt) ∧
    (∀ v : Int32, (ofInt64 v.toInt64).SignExtends v.toInt) ∧
    (∀ v : Int64, (ofInt64 v).SignExtends v.toInt) ∧
    (∀ v : UInt8, (ofWord v.toUInt64).toNat = v.toNat) ∧
    (∀ v : UInt16, (ofWord v.toUInt64).toNat = v.toNat) ∧
    (∀ v : UInt32, (ofWord v.toUInt64).toNat = v.toNat) ∧
    (∀ v : UInt64, (ofWord v).toNat = v.toNat) ∧
    (∀ b : Bool, (ofWord b.toUInt64).toNat = b.toNat) ∧
    (∀ v : Int64, (ofInt64? v).map toNat = if 0 ≤ v.toInt then some v.toInt.toNat else none) ∧
    (∀ v : BitVec 128,
      (ofInt128? v).map toNat = if 0 ≤ v.toInt then some v.toInt.toNat else none) ∧
    (∀ x : U128, ofU128 x.toU128 = x ∧ x.toU128.toNat = x.toNat) ∧
    (∀ v : BitVec 128, (ofU128 v).toU128 = v ∧ (ofU128 v).toNat = v.toNat) := by
  refine ⟨fun x t hb hu => castTo_eq x hb hu, toWord?_map, toInt64?_map, toInt128?_map,
    toU128?_map, fun v => ?_, fun v => ?_, fun v => ?_, signExtends_ofInt64, fun v => ?_,
    fun v => ?_, fun v => ?_, toNat_ofWord, fun b => ?_, ofInt64?_map, ofInt128?_map,
    fun x => ⟨ofU128_toU128 x, toNat_toU128 x⟩, fun v => ⟨toU128_ofU128 v, toNat_ofU128 v⟩⟩
  -- the narrower signed types reach 64 bits by their own sign extension, which keeps the value
  · rw [← Int8.toInt_toInt64]
    exact signExtends_ofInt64 _
  · rw [← Int16.toInt_toInt64]
    exact signExtends_ofInt64 _
  · rw [← Int32.toInt_toInt64]
    exact signExtends_ofInt64 _
  -- the narrower unsigned types and the truth values widen with their number
  · rw [toNat_ofWord, UInt8.toNat_toUInt64]
  · rw [toNat_ofWord, UInt16.toNat_toUInt64]
  · rw [toNat_ofWord, UInt32.toNat_toUInt64]
  · cases b <;> rfl

/-- The largest value cast to a signed byte is `-1`: its low eight bits are all set. -/
theorem machine_conversions_exact_max_i8 :
    IntType.i8 ≠ .bool ∧ IntType.i8 ≠ .u128 ∧ U128.max.castTo .i8 = -1 := by
  refine ⟨by decide, by decide, ?_⟩
  rw [machine_conversions_exact.1 U128.max .i8 (by decide) (by decide), toNat_max]
  decide

end U128

end DoubleWord
