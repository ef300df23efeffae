import AssertionGen.Ordered.Entries
/-!
# Pairwise distinct names

A list of names with their owners is checked from the front; the first name that comes again is
reported with the owner that had it last and the owner that takes it.
-/

namespace AssertionGen

/-- A name that two owners take. -/
structure Clash where
  name : String
  first : String
  second : String
  deriving DecidableEq, Repr

/-- The first repetition after the names seen so far. -/
def clashAfter? (seen : Entries String String) : List (String × String) → Option Clash
  | [] => none
  | (name, owner) :: rest =>
    match seen.get? name with
    | some first => some ⟨name, first, owner⟩
    | none => clashAfter? (seen.insert name owner) rest

/-- The first repetition of a name, if there is one. -/
def clash? (entries : List (String × String)) : Option Clash := clashAfter? [] entries

end AssertionGen
