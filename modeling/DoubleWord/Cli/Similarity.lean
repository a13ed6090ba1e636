/-!
# Similar names

When a user mistypes a name, the names close to it are suggested. Closeness is the Jaro
similarity: with `m` characters of one word matching equal characters of the other within half
the longer length less one, and `t` half the number of matched characters out of order, it is
`(m / |a| + m / |b| + (m - t) / m) / 3`. A name is suggested when its similarity passes `0.7`.

The similarity is computed in binary floating point with 53 significant bits, each quotient and
sum rounded to the nearest such number (ties to the even one), and the threshold is the number
of that kind nearest to `7 / 10`. This decides the scores that are `0.7` exactly in rational
arithmetic: `frobnicate` and `factorial` score `0.7`, rounded up to just above the threshold.

Source: the suggestions of `clap` (`did_you_mean`), which rank names by `strsim::jaro` with the
threshold `0.7`.
-/

set_option autoImplicit false

namespace DoubleWord.Cli

/-- **A non-negative binary number** `mant · 2 ^ exp`, with at most 53 significant bits once
rounded. -/
structure Binary where
  mant : Nat
  exp : Int
  deriving DecidableEq, Repr

namespace Binary

/-- The number as a fraction `num / den`. -/
def fraction (x : Binary) : Nat × Nat :=
  if 0 ≤ x.exp then (x.mant * Nat.pow 2 x.exp.toNat, 1) else (x.mant, Nat.pow 2 (-x.exp).toNat)

/-- `⌊n · 2 ^ s / d⌋`, and how twice the remainder compares with the divisor. -/
def scaled (n d : Nat) (s : Int) : Nat × Ordering :=
  let num := if 0 ≤ s then n * Nat.pow 2 s.toNat else n
  let den := if 0 ≤ s then d else d * Nat.pow 2 (-s).toNat
  (num / den, compare (2 * (num % den)) den)

/-- **Rounds `n / d` to 53 significant bits,** to the nearest, ties to an even significand. The
scale `s` puts `n · 2 ^ s / d` in `[2 ^ 52, 2 ^ 53)`. -/
def ofRatio (n d : Nat) : Binary :=
  if n = 0 ∨ d = 0 then ⟨0, 0⟩
  else
    let s₀ : Int := 52 - ((Nat.log2 n : Int) - Nat.log2 d)
    let s := if (scaled n d s₀).1 < Nat.pow 2 52 then s₀ + 1 else s₀
    let (q, half) := scaled n d s
    let q := match half with
      | .gt => q + 1
      | .eq => if q % 2 = 1 then q + 1 else q
      | .lt => q
    if q = Nat.pow 2 53 then ⟨Nat.pow 2 52, 1 - s⟩ else ⟨q, -s⟩

/-- The rounded sum. -/
def add (x y : Binary) : Binary :=
  ofRatio (x.fraction.1 * y.fraction.2 + y.fraction.1 * x.fraction.2) (x.fraction.2 * y.fraction.2)

/-- The rounded quotient. -/
def div (x y : Binary) : Binary :=
  ofRatio (x.fraction.1 * y.fraction.2) (x.fraction.2 * y.fraction.1)

/-- Whether `x` is below `y`. -/
def lt (x y : Binary) : Bool :=
  x.fraction.1 * y.fraction.2 < y.fraction.1 * x.fraction.2

end Binary

/-- The positions of `b` that match the characters of `a`, in the order of `a`, each position
taken once: the character at `i` matches an unused equal character of `b` within `range` of
`i`, the first one. -/
def matchPositions (a b : Array Char) (range : Nat) : List (Nat × Nat) :=
  let step (acc : List (Nat × Nat)) (i : Nat) : List (Nat × Nat) :=
    let lo := i - range
    let hi := min b.size (i + range + 1)
    let free := (List.range hi).filter fun j =>
      lo ≤ j && b[j]? == a[i]? && !(acc.any fun p => p.2 == j)
    match free with
    | j :: _ => acc ++ [(i, j)]
    | [] => acc
  (List.range a.size).foldl step []

/-- **The Jaro similarity** of two words. -/
def jaro (a b : String) : Binary :=
  let a := a.toList.toArray
  let b := b.toList.toArray
  if a.size = 0 ∧ b.size = 0 then ⟨1, 0⟩
  else if a.size = 0 ∨ b.size = 0 then ⟨0, 0⟩
  else
    let range := max a.size b.size / 2 - 1
    let pairs := matchPositions a b range
    let m := pairs.length
    if m = 0 then ⟨0, 0⟩
    else
      let fromA := pairs.map fun p => a[p.1]?
      let fromB := ((pairs.map (·.2)).mergeSort (· ≤ ·)).map fun j => b[j]?
      let t := ((fromA.zip fromB).filter fun p => p.1 != p.2).length / 2
      let sum := (Binary.ofRatio m a.size).add (Binary.ofRatio m b.size) |>.add (Binary.ofRatio (m - t) m)
      sum.div (Binary.ofRatio 3 1)

/-- Whether a similarity passes the threshold, the binary number nearest to `7 / 10`. -/
def close (s : Binary) : Bool := (Binary.ofRatio 7 10).lt s

/-- Inserts a scored name after every name of no greater score. -/
def insertByScore (x : Binary × String) : List (Binary × String) → List (Binary × String)
  | [] => [x]
  | y :: ys => if x.1.lt y.1 then x :: y :: ys else y :: insertByScore x ys

/-- **The names close to `word`,** the closest last; names of equal similarity keep their
order. -/
def closeNames (word : String) (names : List String) : List String :=
  let scored := (names.map fun n => (jaro word n, n)).filter (close ·.1)
  (scored.foldl (fun acc x => insertByScore x acc) []).map (·.2)

end DoubleWord.Cli
