/-!
# Places in a JSON document

A place is the way from the root to a value: the index of an item, the key of a field, or a field
whose key could not be read. A place is written with a dot between its steps, except before an
index; the root is a single dot.
-/

namespace AssertionGen.Json

/-- One step into a JSON value. -/
inductive Step where
  | index (position : Nat)
  | key (name : String)
  /-- A field whose key is missing or broken. -/
  | unknown
  deriving DecidableEq, Repr

/-- The way from the root to a value, outermost step first. -/
abbrev Place := List Step

namespace Place

/-- The text of a step. -/
def stepText : Step → String
  | .index i => "[" ++ toString i ++ "]"
  | .key k => k
  | .unknown => "?"

/-- The steps after the first: a dot stands before all but indices. -/
def restText : Place → String
  | [] => ""
  | .index i :: rest => stepText (.index i) ++ restText rest
  | s :: rest => "." ++ stepText s ++ restText rest

/-- The text of a place. -/
def write : Place → String
  | [] => "."
  | s :: rest => stepText s ++ restText rest

end Place

end AssertionGen.Json
