import AssertionGen.Descriptor.ValueType
import AssertionGen.Text.Casing
import AssertionGen.Text.Letter
import AssertionGen.Text.Pieces
/-!
# Names of properties and constants

The base name of a property is its accessor without the verb of the getter convention: `get`, or
`is` for truth values, before an upper-case letter. What follows the verb must be one line. Its
first letter becomes small. Every other accessor is its own base name.

The base name of a constant joins its words, which underscores separate: all in lower case, and
capitalized from the second on.
-/

namespace AssertionGen

open Text

/-- What follows a verb: the rest of the accessor, if it begins with an upper-case letter and has no
line feed. -/
def afterVerb? (verb accessor : List Char) : Option (List Char) :=
  if verb.isPrefixOf accessor then
    match accessor.drop verb.length with
    | [] => none
    | c :: more => if isUpperLetter c ∧ '\n' ∉ more then some (c :: more) else none
  else none

/-- The base name of an accessor; `truth` says that the property is a truth value. -/
def baseName (accessor : String) (truth : Bool) : String :=
  let cs := accessor.toList
  let byIs := if truth then afterVerb? ['i', 's'] cs else none
  match byIs.orElse fun _ => afterVerb? ['g', 'e', 't'] cs with
  | some rest => String.ofList (decapitalizeChars rest)
  | none => accessor

/-- The text that reads the property: a call of the getter, or the name of the field. -/
def accessText (accessor : String) : AccessorKind → String
  | .getter => accessor ++ "()"
  | .field => accessor

/-- A base name and the text that reads the property. -/
structure PropertyName where
  base : String
  access : String
  deriving DecidableEq, Repr, Inhabited

/-- The names of a property; `truth` says that it is a truth value. -/
def PropertyName.of (accessor : String) (kind : AccessorKind) (truth : Bool) : PropertyName :=
  ⟨baseName accessor truth, accessText accessor kind⟩

/-! ## Constants -/

/-- The words of a constant, between underscores; empty ones do not count. -/
def constantWords (constant : List Char) : List (List Char) :=
  (pieces '_' constant).filter (· ≠ [])

/-- Words in lower case, all but the first capitalized, run together. -/
def joinWords : List (List Char) → List Char
  | [] => []
  | w :: ws => lowercase w ++ ws.flatMap fun w => capitalizeChars (lowercase w)

/-- The base name of a constant. -/
def constantBaseName (constant : String) : String :=
  String.ofList (joinWords (constantWords constant.toList))

end AssertionGen
