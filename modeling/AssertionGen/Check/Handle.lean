import AssertionGen.Check.Equality
import AssertionGen.Check.Outcome
/-!
# Assertions of handles

Each assertion first asks whether the handle's kind has it, then looks at the value. A value that does not
have the shape the assertion needs is reported as if it were null.
-/

namespace AssertionGen.Handle

/-! ## Reports -/

/-- Reports one sentence. -/
def failFact (h : Handle) (sentence : String) : Outcome := .fail (.fact sentence h.actual)

/-- Reports that there is no value of the needed shape. -/
def failNull (h : Handle) : Outcome := h.failFact "expected not to be null"

/-- Passes if nothing is missing and nothing unexpected. -/
def containment (h : Handle) (op : Operation) (missing unexpected : List Value) : Outcome :=
  if missing.isEmpty && unexpected.isEmpty then .pass
  else .fail (.containment h.displayName op missing unexpected)

/-- Compares two counts; a count that does not fit 64 bits with sign wraps in the report. -/
def compareCounts (displayName : String) (expected actual : Nat) : Outcome :=
  if expected = actual then .pass
  else .fail (.comparison displayName (.int (.ofNat expected)) (.int (.ofNat actual)))

/-- The handle does not have the assertion. -/
def notApplicable {α : Type} (h : Handle) (op : Operation) : Except Misuse α :=
  .error (.notApplicable op h.kind.simpleName)

/-! ## What a kind gives access to -/

/-- Kinds with elements. -/
def isIterable : HandleKind → Bool
  | .iterable | .multiset | .stream _ | .objectArray _ | .primitiveArray _ => true
  | _ => false

/-- Kinds of arrays. -/
def isArray : HandleKind → Bool
  | .objectArray _ | .primitiveArray _ => true
  | _ => false

/-- Kinds whose entries can be asserted. -/
def isMapLike : HandleKind → Bool
  | .map | .multimap => true
  | _ => false

/-- Kinds of optionals. -/
def isOptional : HandleKind → Bool
  | .optional _ => true
  | _ => false

/-- The elements, if the kind has them and the value too. -/
def elements (h : Handle) (op : Operation) : Except Misuse (Option (List Value)) :=
  if isIterable h.kind then .ok h.actual.elements? else h.notApplicable op

/-- The entries, if the kind has them and the value too. -/
def entries (h : Handle) (op : Operation) : Except Misuse (Option (List (Value × Value))) :=
  if isMapLike h.kind then
    match h.actual with
    | .map es => .ok (some es)
    | _ => .ok none
  else h.notApplicable op

/-- The content, if the kind has one and the value too. -/
def content (h : Handle) (op : Operation) : Except Misuse (Option Value) :=
  if isOptional h.kind then
    match h.actual with
    | .optional v => .ok v
    | _ => .ok none
  else h.notApplicable op

/-! ## Assertions -/

/-- The value equals the expected one; every handle has this. -/
def isEqualTo (h : Handle) (expected : Value) : Outcome :=
  if h.actual.eqv expected then .pass else .fail (.comparison h.displayName expected h.actual)

/-- The elements are the expected ones, in any order. -/
def containsExactly (h : Handle) (expected : List Value) : Verdict := do
  match ← h.elements .containsExactly with
  | none => return h.failNull
  | some vs =>
    let d := Value.difference vs expected
    return h.containment .containsExactly d.1 d.2

/-- The expected elements are there, each as often as expected. -/
def containsAtLeast (h : Handle) (expected : List Value) : Verdict := do
  match ← h.elements .containsAtLeast with
  | none => return h.failNull
  | some vs => return h.containment .containsAtLeast (Value.difference vs expected).1 []

/-- None of the excluded elements is there. -/
def containsNoneOf (h : Handle) (excluded : List Value) : Verdict := do
  match ← h.elements .containsNoneOf with
  | none => return h.failNull
  | some vs => return h.containment .containsNoneOf [] (Value.hits vs [] excluded)

/-- A bag holds an element so often. -/
def hasCount (h : Handle) (element : Value) (count : Nat) : Verdict :=
  if h.kind = .multiset then
    match h.actual.elements? with
    | none => .ok h.failNull
    | some vs =>
      .ok (compareCounts (h.displayName ++ ".count(" ++ element.text ++ ")") count
        (element.countEqv vs))
  else h.notApplicable .hasCount

/-- An array is so long. -/
def hasLength (h : Handle) (length : Nat) : Verdict :=
  if isArray h.kind then
    match h.actual.elements? with
    | none => .ok h.failNull
    | some vs => .ok (compareCounts (h.displayName ++ ".length") length vs.length)
  else h.notApplicable .hasLength

/-- Whether what is held under a key is, or on a multimap contains, a value. -/
def holds (h : Handle) (found value : Value) : Bool :=
  match h.kind, found with
  | .multimap, .list vs => vs.any fun v => v.eqv value
  | _, _ => found.eqv value

/-- The map has this key with this value. -/
def containsEntry (h : Handle) (key value : Value) : Verdict := do
  match ← h.entries .containsEntry with
  | none => return h.failNull
  | some es =>
    match es.find? fun e => e.1.eqv key with
    | none => return h.containment .containsEntry [key] []
    | some (_, found) =>
      if h.holds found value then return .pass
      else
        return .fail (.comparison (h.displayName ++ ".get(" ++ key.text ++ ")") value found)

/-- The map has this key. -/
def containsKey (h : Handle) (key : Value) : Verdict := do
  match ← h.entries .containsKey with
  | none => return h.failNull
  | some es =>
    if es.any fun e => e.1.eqv key then return .pass
    else return h.containment .containsKey [key] []

/-- The optional is not empty. -/
def isPresent (h : Handle) : Verdict := do
  match ← h.content .isPresent with
  | some _ => return .pass
  | none => return h.failFact "expected to be present"

/-- The optional has this content. -/
def hasValue (h : Handle) (expected : Value) : Verdict := do
  match ← h.content .hasValue with
  | some v =>
    if v.eqv expected then return .pass
    else return .fail (.comparison (h.displayName ++ ".get()") expected v)
  | none => return h.failFact ("expected to have value " ++ expected.text)

/-- Whether a value is empty, as its kind of handle sees it; nothing if it has no such notion. -/
def emptiness? : HandleKind → Value → Option Bool
  | .optional _, .optional v => some v.isNone
  | .map, .map es | .multimap, .map es | .table, .map es => some es.isEmpty
  | .iterable, .list vs | .multiset, .list vs | .stream _, .list vs => some vs.isEmpty
  | .objectArray _, .array vs | .primitiveArray _, .array vs => some vs.isEmpty
  | _, _ => none

/-- The optional, iterable or map is empty. -/
def isEmpty (h : Handle) : Verdict :=
  if h.actual.isNull then .ok h.failNull
  else
    match emptiness? h.kind h.actual with
    | some true => .ok .pass
    | some false => .ok (h.failFact "expected to be empty")
    | none => h.notApplicable .isEmpty

/-- The class is, or inherits from, the target. -/
def isAssignableTo (h : Handle) (target : String) : Verdict :=
  if h.kind = .classRef then
    match h.actual with
    | .classRef name supertypes =>
      if name = target ∨ target ∈ supertypes then .ok .pass
      else .ok (h.failFact ("expected to be assignable to " ++ target))
    | .null => .ok h.failNull
    | _ => .ok (h.failFact ("expected to be assignable to " ++ target))
  else h.notApplicable .isAssignableTo

end AssertionGen.Handle
