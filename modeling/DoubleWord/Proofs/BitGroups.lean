import Mathlib
import DoubleWord.Unsigned.Native
import DoubleWord.Unsigned.Wide
import DoubleWord.Proofs.Formatting

/-!
# Grouped binary numerals

The grouped numeral of a word of `W` bits, in blocks of `k`, is its `W`-digit binary numeral with
a space after every `k` digits, `W / k - 1` times, so that the last group keeps the rest: between
`k` and `2k - 1` digits when `k ≤ W`, all `W` when `k > W`. A block length of zero is refused
with the division fault.

The spaces are inserted from the highest place down (`Text.insertSpaces`). Cutting the digits
from the front (`spaceEvery`) is the same text: the last cut of the front cuts is the highest
place, and inserting there only lengthens the part that the lower cuts never reach
(`insertSpaces_append`). From the front cuts, the text read without its spaces is the numeral
and its groups have the stated lengths (`grouped_spaceEvery`).

The numeral itself is the zero-padded `Nat.toDigits 2` of the word, which is the bits of the
word written from the highest down (`binaryNumeral`). A two-word value writes its own binary
digits, and they are those of the native 128-bit word of the same number.

Main statement: `bit_groups_exact`.
-/

set_option autoImplicit false

namespace DoubleWord

namespace Text

/-! ## Inserting into a list -/

section Insert

variable {α : Type} {a : α}

/-- Inserting at a place within the list cuts it there. -/
theorem insertIdx_eq_take_drop {i : Nat} {l : List α} (h : i ≤ l.length) :
    l.insertIdx i a = l.take i ++ a :: l.drop i := by
  induction l generalizing i with
  | nil =>
    have hi : i = 0 := by simpa using h
    subst hi
    rfl
  | cons b t ih =>
    cases i with
    | zero => rfl
    | succ i =>
      rw [List.insertIdx_succ_cons, ih (by simpa using h)]
      rfl

/-- Inserting into the front part of a list leaves the back part after it. -/
theorem insertIdx_append_of_le {i : Nat} {xs : List α} (ys : List α) (h : i ≤ xs.length) :
    (xs ++ ys).insertIdx i a = xs.insertIdx i a ++ ys := by
  rw [insertIdx_eq_take_drop (by simp; omega), insertIdx_eq_take_drop h,
    List.take_append_of_le_length h, List.drop_append_of_le_length h]
  simp

end Insert

/-! ## A space every `k` characters -/

/-- **Cuts `m` groups of `k` off the front**, with a space after each; the rest is the last
group. -/
def spaceEvery (k : Nat) : Nat → List Char → List Char
  | 0, cs => cs
  | m + 1, cs => cs.take k ++ ' ' :: spaceEvery k m (cs.drop k)

variable {k : Nat}

/-- **The last of the front cuts is the highest place.** Cutting `m + 1` groups off the front
is cutting `m` groups off the first `(m + 1) · k` characters, then a space and the rest. -/
theorem spaceEvery_succ_eq_append (m : Nat) (cs : List Char) :
    spaceEvery k (m + 1) cs =
      spaceEvery k m (cs.take ((m + 1) * k)) ++ ' ' :: cs.drop ((m + 1) * k) := by
  induction m generalizing cs with
  | zero => simp [spaceEvery]
  | succ m ih =>
    have hk : (m + 1 + 1) * k = k + (m + 1) * k := by rw [Nat.succ_mul, Nat.add_comm]
    rw [spaceEvery, ih, spaceEvery, hk, List.take_take, Nat.min_eq_left (Nat.le_add_right _ _),
      List.drop_take, Nat.add_sub_cancel_left, List.drop_drop, List.append_assoc, List.cons_append]

/-- Spaces inserted at places within the front part of a text leave the back part after it. -/
theorem insertSpaces_append (m : Nat) (xs ys : List Char) (h : m * k ≤ xs.length) :
    insertSpaces k m (xs ++ ys) = insertSpaces k m xs ++ ys := by
  induction m generalizing xs with
  | zero => rfl
  | succ m ih =>
    have hlen : m * k ≤ (xs.insertIdx ((m + 1) * k) ' ').length := by
      rw [List.length_insertIdx_of_le_length h]
      rw [Nat.succ_mul] at h
      omega
    rw [insertSpaces, insertSpaces, insertIdx_append_of_le ys h, ih _ hlen]

/-- **Inserting from the highest place down is cutting from the front**, as long as every place
is within the text. Induction on the number of spaces: the first insertion is the last cut, and
the rest all fall within the part before it. -/
theorem insertSpaces_eq_spaceEvery (m : Nat) (cs : List Char) (h : m * k ≤ cs.length) :
    insertSpaces k m cs = spaceEvery k m cs := by
  induction m generalizing cs with
  | zero => rfl
  | succ m ih =>
    have hm : m * k ≤ (cs.take ((m + 1) * k)).length := by
      rw [List.length_take, Nat.min_eq_left h]
      exact Nat.mul_le_mul_right _ (Nat.le_succ m)
    rw [insertSpaces, insertIdx_eq_take_drop h, insertSpaces_append _ _ _ hm, ih _ hm,
      spaceEvery_succ_eq_append]

/-! ## The groups -/

/-- **`cs` is `digits` in groups:** with its spaces taken out it is `digits`, and the groups
between its spaces are `m` of `k` characters and a last one of the rest. -/
structure Grouped (k m : Nat) (digits cs : List Char) : Prop where
  digits_eq : cs.filter (· != ' ') = digits
  group_lengths : (cs.splitOn ' ').map List.length = List.replicate m k ++ [digits.length - m * k]

section Groups

variable {ds : List Char}

theorem filter_spaceEvery (m : Nat) (hds : ∀ c ∈ ds, c ≠ ' ') :
    (spaceEvery k m ds).filter (· != ' ') = ds := by
  induction m generalizing ds with
  | zero => exact List.filter_eq_self.2 fun c hc => by simpa using hds c hc
  | succ m ih =>
    have hfront : (ds.take k).filter (· != ' ') = ds.take k :=
      List.filter_eq_self.2 fun c hc => by simpa using hds c (List.mem_of_mem_take hc)
    rw [spaceEvery, List.filter_append, List.filter_cons_of_neg (by simp), hfront,
      ih fun c hc => hds c (List.mem_of_mem_drop hc), List.take_append_drop]

theorem splitOn_spaceEvery (m : Nat) (hds : ∀ c ∈ ds, c ≠ ' ') (h : m * k ≤ ds.length) :
    ((spaceEvery k m ds).splitOn ' ').map List.length =
      List.replicate m k ++ [ds.length - m * k] := by
  induction m generalizing ds with
  | zero =>
    rw [spaceEvery, List.splitOn, List.splitOnP_eq_singleton fun c hc => by simpa using hds c hc]
    simp
  | succ m ih =>
    have hk : k ≤ ds.length := by rw [Nat.succ_mul] at h; omega
    have hrest : m * k ≤ (ds.drop k).length := by rw [List.length_drop, Nat.succ_mul] at *; omega
    rw [spaceEvery, List.splitOn, List.splitOnP_append_cons_of_forall_mem
      (fun c hc => by simpa using hds c (List.mem_of_mem_take hc)) _ (by simp), ← List.splitOn,
      List.map_cons, ih (fun c hc => hds c (List.mem_of_mem_drop hc)) hrest, List.length_take,
      Nat.min_eq_left hk, List.length_drop, List.replicate_succ, List.cons_append, Nat.succ_mul,
      Nat.sub_sub, Nat.add_comm k]

/-- **Cutting from the front groups the digits.** -/
theorem grouped_spaceEvery (m : Nat) (hds : ∀ c ∈ ds, c ≠ ' ') (h : m * k ≤ ds.length) :
    Grouped k m ds (spaceEvery k m ds) :=
  ⟨filter_spaceEvery m hds, splitOn_spaceEvery m hds h⟩

end Groups

/-- The cuts all fall within the text: `width / k - 1` groups of `k` fit in `width`. -/
theorem groupCount_mul_le (width k : Nat) : (width / k - 1) * k ≤ width := by
  rw [Nat.sub_one_mul]
  exact Nat.le_trans (Nat.sub_le _ _) (Nat.div_mul_le_self width k)

/-- **Grouping splits a text of `width` characters** into `width / k - 1` groups of `k` and the
rest, for every positive block length. -/
theorem splitBits_eq (s : String) {width : Nat} (hk : 0 < k) (hlen : s.toList.length = width) :
    splitBits s width k = .ok (String.ofList (spaceEvery k (width / k - 1) s.toList)) := by
  rw [splitBits, if_neg (by omega),
    insertSpaces_eq_spaceEvery _ _ (hlen ▸ groupCount_mul_le width k)]

/-- A zero block length is refused with the division fault. -/
theorem splitBits_zero (s : String) (width : Nat) : splitBits s width 0 = .error .divideByZero :=
  if_pos rfl

/-- The last group keeps `k` to `2k - 1` characters when there is room for a group. -/
theorem lastGroup_bounds {width : Nat} (hk : 0 < k) (h : k ≤ width) :
    k ≤ width - (width / k - 1) * k ∧ width - (width / k - 1) * k ≤ 2 * k - 1 := by
  have hq : k ≤ width / k * k := by
    have : 1 ≤ width / k := (Nat.one_le_div_iff hk).2 h
    simpa using Nat.mul_le_mul_right k this
  have hsplit := Nat.div_add_mod' width k
  have hmod := Nat.mod_lt width hk
  rw [Nat.sub_one_mul]
  omega

/-- **Every group of a grouped text of `width` digits has `k` to `2k - 1` of them**, when there
is room for a group: the first groups have `k`, and the last one the rest. -/
theorem Grouped.length_mem_of_mem {ds cs : List Char} {width : Nat}
    (hg : Grouped k (width / k - 1) ds cs) (hlen : ds.length = width) (hk : 0 < k)
    (h : k ≤ width) {g : List Char} (hmem : g ∈ cs.splitOn ' ') :
    k ≤ g.length ∧ g.length ≤ 2 * k - 1 := by
  have hlens := List.mem_map_of_mem (f := List.length) hmem
  rw [hg.group_lengths, hlen] at hlens
  have hlast := lastGroup_bounds hk h
  simp only [List.mem_append, List.mem_replicate, List.mem_singleton] at hlens
  rcases hlens with ⟨-, hg⟩ | hg
  · omega
  · rw [hg]
    exact hlast

/-- **Zero padding to a width** puts as many zeros before the digits as they fall short of it. -/
theorem toList_apply_zeroPad (width : Nat) (mark digits : String) :
    (({ zeroPad := true, width := width } : Layout).apply mark digits).toList =
      List.replicate (width - digits.length) '0' ++ digits.toList := by
  unfold Layout.apply
  simp only [Bool.false_eq_true, ↓reduceIte, String.length_empty, Nat.zero_add]
  split
  · rename_i hle
    have hpad : width - digits.length = 0 := by omega
    simp [hpad]
  · simp [padding]

end Text

/-! ## The binary numeral of a word -/

/-- The binary digit of a bit. -/
def bitChar (b : Bool) : Char := if b then '1' else '0'

/-- **The `width`-digit binary numeral of `n`:** the character at place `j` is bit
`width - 1 - j` of `n`, most significant first. -/
def binaryNumeral (width n : Nat) : List Char :=
  List.ofFn fun j : Fin width => bitChar (n.testBit (width - 1 - j))

theorem length_binaryNumeral (width n : Nat) : (binaryNumeral width n).length = width :=
  List.length_ofFn

theorem ne_space_of_mem_binaryNumeral {width n : Nat} {c : Char} (h : c ∈ binaryNumeral width n) :
    c ≠ ' ' := by
  obtain ⟨j, rfl⟩ := List.mem_ofFn.1 h
  unfold bitChar
  split <;> decide

/-- **The last digit is the lowest bit**; the digits before it are those of the number halved. -/
theorem binaryNumeral_succ (width n : Nat) :
    binaryNumeral (width + 1) n = binaryNumeral width (n / 2) ++ [bitChar (n.testBit 0)] := by
  rw [binaryNumeral, List.ofFn_succ_last, binaryNumeral]
  congr 2
  · funext j
    have hj : width + 1 - 1 - j.val = (width - 1 - j.val) + 1 := by omega
    simp only [Fin.val_castSucc, hj, Nat.testBit_succ]
  · simp

theorem binaryNumeral_zero (width : Nat) : binaryNumeral width 0 = List.replicate width '0' := by
  simp [binaryNumeral, bitChar, List.ofFn_const]

/-- **The zero-padded binary digits are the numeral**, for a number that fits in `width > 0`
bits. Induction on the width, following `Nat.toDigits` as it takes the last digit off. -/
theorem replicate_toDigits_eq_binaryNumeral (width : Nat) {n : Nat} (h : n < 2 ^ (width + 1)) :
    List.replicate (width + 1 - (Nat.toDigits 2 n).length) '0' ++ Nat.toDigits 2 n =
      binaryNumeral (width + 1) n := by
  by_cases hn : n < 2
  · -- a single digit, after `width` zeros
    have hbit : Nat.digitChar n = bitChar (n.testBit 0) := by
      rcases (by omega : n = 0 ∨ n = 1) with rfl | rfl <;> rfl
    rw [Nat.toDigits_of_lt_base hn, binaryNumeral_succ, Nat.div_eq_of_lt hn, binaryNumeral_zero,
      hbit]
    simp
  · -- the digits of the half, then the lowest bit
    cases width with
    | zero => omega
    | succ width =>
      have hhalf : n / 2 < 2 ^ (width + 1) := by
        rw [Nat.div_lt_iff_lt_mul (by decide), ← Nat.pow_succ]
        exact h
      have hbit : Nat.digitChar (n % 2) = bitChar (n.testBit 0) := by
        rw [Nat.testBit_zero]
        rcases Nat.mod_two_eq_zero_or_one n with h2 | h2 <;> simp [h2, bitChar]
      rw [Nat.toDigits_of_base_le (by decide) (Nat.le_of_not_lt hn), binaryNumeral_succ,
        ← replicate_toDigits_eq_binaryNumeral width hhalf, hbit, List.length_append,
        List.length_singleton, List.append_assoc]
      congr 2
      omega

namespace Native

variable {w : Nat}

/-- **A native word's padded binary is its numeral.** -/
theorem toList_paddedBinary (a : BitVec w) (hw : 0 < w) :
    (paddedBinary a).toList = binaryNumeral w a.toNat := by
  obtain ⟨v, rfl⟩ : ∃ v, w = v + 1 := ⟨w - 1, by omega⟩
  rw [← replicate_toDigits_eq_binaryNumeral v a.isLt, paddedBinary, Text.toList_apply_zeroPad,
    String.length_ofList, String.toList_ofList]

variable {k : Nat}

/-- **A native word's grouped numeral** is its numeral cut every `k` digits, `w / k - 1` times. -/
theorem toBitsText_eq (a : BitVec w) (hw : 0 < w) (hk : 0 < k) :
    Unsigned.toBitsText a k =
      .ok (String.ofList (Text.spaceEvery k (w / k - 1) (binaryNumeral w a.toNat))) := by
  show Text.splitBits (paddedBinary a) w k = _
  rw [Text.splitBits_eq _ hk (by rw [toList_paddedBinary a hw, length_binaryNumeral]),
    toList_paddedBinary a hw]

theorem toBitsText_zero (a : BitVec w) : Unsigned.toBitsText a 0 = .error .divideByZero :=
  Text.splitBits_zero _ _

end Native

/-! ## Two-word values -/

namespace U128

/-- The zero-padded 128-digit binary of a value is that of the native 128-bit word of its
number, and writing it never faults. -/
theorem format_binary_eq_paddedBinary (x : U128) :
    x.format .binary { zeroPad := true, width := 128 } =
      .ok (Native.paddedBinary (BitVec.ofNat 128 x.toNat)) := by
  rw [format_of_digitsInto (n := .binary) (digitsInto_lower_eq_toDigits x (by decide) (by decide))]
  unfold Native.paddedBinary
  rw [BitVec.toNat_ofNat, Nat.mod_eq_of_lt (toNat_lt x)]
  rfl

/-- **A two-word value groups the binary of the native 128-bit word of its number.** -/
theorem toBitsText_eq_native (x : U128) (k : Nat) :
    x.toBitsText k = Unsigned.toBitsText (BitVec.ofNat 128 x.toNat) k := by
  rw [toBitsText, format_binary_eq_paddedBinary]
  rfl

/-- **Grouped binary numerals.** For a native word of every width `w > 0` and every block length
`k > 0`, the grouped numeral is the `w`-digit binary numeral of the word in `w / k - 1` groups of
`k` digits and a last group of the rest, one space between groups; so every group has `k` to
`2k - 1` digits when `k ≤ w`, and when `k > w` the numeral stands alone. A zero block length is
refused with the division fault. A two-word value's grouped numeral is that of the native 128-bit
word of its number. -/
theorem bit_groups_exact :
    (∀ (w : Nat) (a : BitVec w) (k : Nat), 0 < w → 0 < k →
      ∃ cs, Unsigned.toBitsText a k = .ok (String.ofList cs) ∧
        Text.Grouped k (w / k - 1) (binaryNumeral w a.toNat) cs ∧
        (k ≤ w → ∀ g ∈ cs.splitOn ' ', k ≤ g.length ∧ g.length ≤ 2 * k - 1) ∧
        (w < k → cs = binaryNumeral w a.toNat)) ∧
    (∀ (w : Nat) (a : BitVec w), Unsigned.toBitsText a 0 = .error .divideByZero) ∧
    Fault.divideByZero.message = "attempt to divide by zero" ∧
    (∀ (x : U128) (k : Nat),
      x.toBitsText k = Unsigned.toBitsText (BitVec.ofNat 128 x.toNat) k) := by
  refine ⟨fun w a k hw hk => ?_, fun w a => Native.toBitsText_zero a, rfl, toBitsText_eq_native⟩
  have hfit : (w / k - 1) * k ≤ (binaryNumeral w a.toNat).length := by
    rw [length_binaryNumeral]
    exact Text.groupCount_mul_le w k
  have hgrouped := Text.grouped_spaceEvery _ (fun c hc => ne_space_of_mem_binaryNumeral hc) hfit
  refine ⟨_, Native.toBitsText_eq a hw hk, hgrouped, fun h g hg =>
    hgrouped.length_mem_of_mem (length_binaryNumeral _ _) hk h hg, fun h => ?_⟩
  -- no room for a group: no cut at all
  rw [Nat.div_eq_of_lt h]
  rfl

/-- The grouped numeral of the byte `100` in blocks of three. -/
theorem bit_groups_exact_byte :
    0 < 8 ∧ 0 < 3 ∧
    ∃ cs, Unsigned.toBitsText (BitVec.ofNat 8 100) 3 = .ok (String.ofList cs) ∧
      Text.Grouped 3 (8 / 3 - 1) (binaryNumeral 8 100) cs ∧
      (3 ≤ 8 → ∀ g ∈ cs.splitOn ' ', 3 ≤ g.length ∧ g.length ≤ 2 * 3 - 1) ∧
      (8 < 3 → cs = binaryNumeral 8 100) :=
  ⟨by decide, by decide, bit_groups_exact.1 8 (BitVec.ofNat 8 100) 3 (by decide) (by decide)⟩

end U128

end DoubleWord
