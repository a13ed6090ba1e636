/-!
# Code point ranges

A character class given by a table of inclusive code point ranges, sorted and disjoint, and
the test of a character against it.

Source: the range tables of `core::unicode` of the standard library.
-/

set_option autoImplicit false

namespace DoubleWord.Text

/-- **Whether a character lies in one of the ranges.** Each range is an inclusive pair of code
points. -/
def inRanges (ranges : Array (Nat × Nat)) (c : Char) : Bool :=
  ranges.any fun (lo, hi) => lo ≤ c.toNat && c.toNat ≤ hi

end DoubleWord.Text
