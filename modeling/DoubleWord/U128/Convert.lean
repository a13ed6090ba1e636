import DoubleWord.U128.Bits
import DoubleWord.IntType

/-!
# Conversions of two-word numbers

Integers in. An unsigned integer, or a truth value, is widened to a word, which becomes the low
word. A signed integer is first widened to 64 bits, which keeps its value; its bit pattern is
then the low word, and an arithmetic shift by 63, which copies the sign bit into every place,
gives the high word. A 128-bit integer is split into its low and high 64 bits, and put back
together the other way.

Integers out. A narrowing cast keeps the low bits of the low word, read in two's complement for
a signed type; a cast to `bool` asks whether the value is nonzero. The checked conversions chain
their range checks: a value reaches a signed 64-bit integer through an unsigned word, and a
signed 128-bit integer through the unsigned one. A signed 128-bit integer is a `BitVec 128`
read in two's complement.

Positional forms, least significant first. Bytes go eight to a word, in the order of each
word's own little-endian bytes; 16-bit words and single bits are ORed into the word and place
their index gives; 32-bit words go two to a word. The big-endian forms read the array from its
end. Last, the text `[lo,hi]` of the two words as a JSON array.

Source: `fwnum/src/bigint/conversion.rs:1-133`, `ToPrimitive` and `FromPrimitive` of
`fwnum/src/bigint/num_impls.rs:115-159`, the byte orders of `fwnum/src/bigint/uint128.rs:245-289`,
and the derived `Serialize` and `Deserialize` of `U128`.
-/

set_option autoImplicit false

namespace DoubleWord

namespace Word

/-- **The eight bytes of a word,** least significant first.
Source: `u64::to_le_bytes`, as `U128::to_le_bytes` calls it, `fwnum/src/bigint/uint128.rs:245-256`.
-/
def leBytes (w : UInt64) : Vector UInt8 8 :=
  Vector.ofFn fun i => (w >>> (8 * i.val).toUInt64).toUInt8

/-- **The word of eight bytes,** least significant first: byte `i` is ORed in `8 · i` places
up.
Source: `u64::from_le_bytes`, as `U128::from_le_bytes` calls it,
`fwnum/src/bigint/uint128.rs:269-279`. -/
def ofLeBytes (b : Vector UInt8 8) : UInt64 :=
  Fin.foldl 8 (fun acc i => acc ||| (b[i].toUInt64 <<< (8 * i.val).toUInt64)) 0

/-- A word as a signed 64-bit integer, when it is below `2^63`.
Source: `i64::try_from(u64)`, as `ToPrimitive::to_i64` calls it,
`fwnum/src/bigint/num_impls.rs:116-118`. -/
def toInt64? (w : UInt64) : Option Int64 :=
  if w.toNat < Nat.pow 2 63 then some w.toInt64 else none

end Word

namespace U128

/-! ## Integers in and out -/

/-- **A signed integer widened to 64 bits, as a value:** its bit pattern is the low word, and its
sign bit, copied into every place by an arithmetic shift by 63, fills the high word.
Source: `From<i64> for U128` and the other signed types, `fwnum/src/bigint/conversion.rs:59-76`. -/
def ofInt64 (v : Int64) : U128 :=
  ⟨v.toUInt64, (v >>> 63).toUInt64⟩

/-- **A 128-bit integer as a value:** its low 64 bits and, shifted down, its high 64 bits.
Source: `From<u128> for U128`, `fwnum/src/bigint/conversion.rs:78-83`. -/
def ofU128 (v : BitVec 128) : U128 :=
  ⟨UInt64.ofBitVec (v.setWidth 64), UInt64.ofBitVec ((v >>> 64).setWidth 64)⟩

/-- **The value as a 128-bit integer:** the low word, ORed with the high word moved up 64
places. Source: `From<U128> for u128`, `fwnum/src/bigint/conversion.rs:85-90`. -/
def toU128 (x : U128) : BitVec 128 :=
  x.lo.toBitVec.setWidth 128 ||| (x.hi.toBitVec.setWidth 128 <<< 64)

/-- **A cast to a machine type:** the low bits of the low word, two's complement for a signed
type, and for `bool` whether the value is nonzero.
Source: `CastFrom<U128> for bool` and for the narrower types,
`fwnum/src/bigint/conversion.rs:114-133`. -/
def castTo (t : IntType) (x : U128) : Int :=
  match t with
  | .bool => if x.isZero then 0 else 1
  | .u128 => x.toU128.toNat
  | t => t.wrap x.lo.toNat

/-- The value as a word, when its high word is zero.
Source: `ToPrimitive::to_u64`, `fwnum/src/bigint/num_impls.rs:120-122`. -/
def toWord? (x : U128) : Option UInt64 :=
  if x.hi = 0 then some x.lo else none

/-- **The value as a signed 64-bit integer,** through a word: nothing when the high word is set
or the word is `2^63` or more.
Source: `ToPrimitive::to_i64`, `fwnum/src/bigint/num_impls.rs:116-118`. -/
def toInt64? (x : U128) : Option Int64 :=
  x.toWord?.bind Word.toInt64?

/-- **The value as a signed 128-bit integer,** through the 128-bit integer: nothing when that is
`2^127` or more. Source: `ToPrimitive::to_i128`, `fwnum/src/bigint/num_impls.rs:124-126`. -/
def toInt128? (x : U128) : Option (BitVec 128) :=
  let v := x.toU128
  if v.toNat < Nat.pow 2 127 then some v else none

/-- The value as a 128-bit integer, which it always has.
Source: `ToPrimitive::to_u128`, `fwnum/src/bigint/num_impls.rs:128-130`. -/
def toU128? (x : U128) : Option (BitVec 128) :=
  some x.toU128

/-- A signed 64-bit integer as a value, when it is not negative.
Source: `FromPrimitive::from_i64`, `fwnum/src/bigint/num_impls.rs:145-147`. -/
def ofInt64? (v : Int64) : Option U128 :=
  if 0 ≤ v then some (ofWord v.toUInt64) else none

/-- A signed 128-bit integer as a value, when it is not negative.
Source: `FromPrimitive::from_i128`, `fwnum/src/bigint/num_impls.rs:153-155`. -/
def ofInt128? (v : BitVec 128) : Option U128 :=
  if 0 ≤ v.toInt then some (ofU128 v) else none

/-! ## Positional forms -/

/-- ORs a word into the low word (`0`) or the high word (`1`).
Source: the `result.0[i / 64] |= ...` of `U128::from_bits`, `fwnum/src/bigint/conversion.rs:34`. -/
def orWord (x : U128) (k : Fin 2) (w : UInt64) : U128 :=
  if k = 0 then { x with lo := x.lo ||| w } else { x with hi := x.hi ||| w }

/-- **Packs `n` limbs of `width` bits,** least significant first, `per` to a word: limb `i` is
ORed into word `i / per`, `width · (i % per)` places up.
Source: the loops of `U128::from_u16_words` and `U128::from_bits`,
`fwnum/src/bigint/conversion.rs:15-37`. -/
def packLimbs {n : Nat} (per width : Nat) (limbs : Vector UInt64 n) (h : n ≤ 2 * per) : U128 :=
  Fin.foldl n (fun acc i =>
    acc.orWord ⟨i / per, Nat.div_lt_of_lt_mul (by have := i.isLt; omega)⟩
      (limbs[i] <<< (width * (i.val % per)).toUInt64)) zero

/-- The value of four 32-bit words, least significant first, two to a word.
Source: `U128::from_u32_words`, `fwnum/src/bigint/conversion.rs:6-12`. -/
def ofU32Words (words : Vector UInt32 4) : U128 :=
  ⟨words[0].toUInt64 ||| (words[1].toUInt64 <<< 32),
    words[2].toUInt64 ||| (words[3].toUInt64 <<< 32)⟩

/-- The value of eight 16-bit words, least significant first: word `i` goes to word `i / 4`,
`16 · (i % 4)` places up. Source: `U128::from_u16_words`, `fwnum/src/bigint/conversion.rs:14-23`. -/
def ofU16Words (words : Vector UInt16 8) : U128 :=
  packLimbs 4 16 (words.map UInt16.toUInt64) (by decide)

/-- The value of 128 bits, least significant first: bit `i` goes to word `i / 64`, `i % 64`
places up. Source: `U128::from_bits`, `fwnum/src/bigint/conversion.rs:30-37`. -/
def ofBits (bits : Vector Bool 128) : U128 :=
  packLimbs 64 1 (bits.map Bool.toUInt64) (by decide)

/-- **The value of sixteen bytes,** least significant first: bytes `0` to `7` are the low word's,
bytes `8` to `15` the high word's.
Source: `U128::from_le_bytes`, `fwnum/src/bigint/uint128.rs:269-279`. -/
def ofLeBytes (bytes : Vector UInt8 16) : U128 :=
  ⟨Word.ofLeBytes (Vector.ofFn fun i => bytes[i.val]),
    Word.ofLeBytes (Vector.ofFn fun i => bytes[i.val + 8])⟩

/-- The value of sixteen bytes taken as 8-bit words, least significant first.
Source: `U128::from_u8_words`, `fwnum/src/bigint/conversion.rs:25-28`. -/
def ofU8Words (bytes : Vector UInt8 16) : U128 :=
  ofLeBytes bytes

/-- The value of sixteen bytes, most significant first: byte `i` stands where the little-endian
byte `15 - i` would. Source: `U128::from_be_bytes`, `fwnum/src/bigint/uint128.rs:281-289`. -/
def ofBeBytes (bytes : Vector UInt8 16) : U128 :=
  ofLeBytes (Vector.ofFn fun i => bytes[15 - i.val])

/-- **The sixteen bytes of the value,** least significant first: the low word's bytes, then the
high word's. Source: `U128::to_le_bytes`, `fwnum/src/bigint/uint128.rs:245-256`. -/
def toLeBytes (x : U128) : Vector UInt8 16 :=
  Vector.ofFn fun i =>
    if h : i.val < 8 then (Word.leBytes x.lo)[i.val] else (Word.leBytes x.hi)[i.val - 8]

/-- The sixteen bytes of the value, most significant first: byte `i` is the little-endian byte
`15 - i`. Source: `U128::to_be_bytes`, `fwnum/src/bigint/uint128.rs:258-267`. -/
def toBeBytes (x : U128) : Vector UInt8 16 :=
  Vector.ofFn fun i => x.toLeBytes[15 - i.val]

/-- **The two words as a JSON array,** `[lo,hi]` in decimal.
Source: the derived `Serialize` of `U128`, a sequence of its two words,
`fwnum/src/bigint/uint128.rs:15-17`. -/
def toWordsJson (x : U128) : String :=
  "[" ++ toString x.lo.toNat ++ "," ++ toString x.hi.toNat ++ "]"

/-- The blanks of JSON text: space, tab, line feed and carriage return. -/
def isJsonBlank (c : Char) : Bool :=
  c = ' ' || c = '\t' || c = '\n' || c = '\r'

/-- The text after its leading JSON blanks. -/
def skipJsonBlanks (cs : List Char) : List Char :=
  cs.dropWhile isJsonBlank

/-- The rest of the text after the character `c`, if it starts with it. -/
def expectChar (c : Char) : List Char → Option (List Char)
  | d :: rest => if d = c then some rest else none
  | [] => none

/-- A JSON integer without sign, fraction or exponent at the start of the text: `0`, or
digits not starting with `0`. -/
def readJsonNat : List Char → Option (Nat × List Char)
  | '0' :: rest => some (0, rest)
  | cs@(c :: _) =>
    if c.isDigit then
      some ((cs.takeWhile Char.isDigit).foldl (fun n d => 10 * n + (d.toNat - 48)) 0,
        cs.dropWhile Char.isDigit)
    else none
  | [] => none

/-- **Reads the JSON array `[lo,hi]`** of two words; nothing for any other text.
Source: the derived `Deserialize` of `U128`, `fwnum/src/bigint/uint128.rs:15-17`. -/
def ofWordsJson? (s : String) : Option U128 := do
  let cs ← expectChar '[' (skipJsonBlanks s.toList)
  let (lo, cs) ← readJsonNat (skipJsonBlanks cs)
  let cs ← expectChar ',' (skipJsonBlanks cs)
  let (hi, cs) ← readJsonNat (skipJsonBlanks cs)
  let cs ← expectChar ']' (skipJsonBlanks cs)
  if (skipJsonBlanks cs).isEmpty ∧ lo < wordSize ∧ hi < wordSize then
    some ⟨UInt64.ofNat lo, UInt64.ofNat hi⟩
  else none

end U128

end DoubleWord
