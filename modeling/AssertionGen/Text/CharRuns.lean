/-!
# Sets of code points as runs

A set of code points is given by ascending edges: the entry at an even position begins a run, the
one at an odd position is the first code point after that run. `inRuns` reads such a list.
-/

namespace AssertionGen.Text

/-- Whether a code point lies in one of the runs between the edges. -/
def inRuns : List Nat → Nat → Bool
  | [], _ => false
  | [first], n => first ≤ n
  | first :: past :: rest, n =>
    if n < first then false else if n < past then true else inRuns rest n

end AssertionGen.Text
