import AssertionGen.Json.Place
import AssertionGen.Json.Tree
/-!
# Refused documents

Why a well-formed document is refused as a description of something: a field is missing or has the
wrong type, a name is not among the known ones, or a list has the wrong length. A `Refusal` adds the
place; readers of parts report places within their part, and `under` puts the step into the part in
front.
-/

namespace AssertionGen.Json

/-- Why a document is refused. -/
inductive Cause where
  | missingField (name : String)
  | wrongType (got : Json) (expected : String)
  | unknownVariant (name : String) (known : List String)
  | unknownField (name : String) (known : List String)
  | duplicateField (name : String)
  /-- A variant given as an object must be its only field. -/
  | notSingleField
  | noSuchIndex (got count : Nat)
  | wrongLength (got : Nat) (expected : String)
  deriving Repr

namespace Cause

/-- A name between grave accents. -/
def named (s : String) : String := "`" ++ s ++ "`"

/-- The known names, as one of them is expected. -/
def choice : List String → String
  | [] => ""
  | [a] => named a
  | [a, b] => named a ++ " or " ++ named b
  | names => "one of " ++ ", ".intercalate (names.map named)

/-- The words for a cause. -/
def message : Cause → String
  | missingField name => "missing field " ++ named name
  | wrongType got expected => "invalid type: " ++ got.describe ++ ", expected " ++ expected
  | unknownVariant name known => "unknown variant " ++ named name ++ ", expected " ++ choice known
  | unknownField name known => "unknown field " ++ named name ++ ", expected " ++ choice known
  | duplicateField name => "duplicate field " ++ named name
  | notSingleField => "invalid value: map, expected map with a single key"
  | noSuchIndex got count =>
    "invalid value: integer " ++ named (toString got) ++ ", expected variant index 0 <= i < " ++
      toString count
  | wrongLength got expected => "invalid length " ++ toString got ++ ", expected " ++ expected

end Cause

/-- A cause and the place to which it applies. -/
structure Refusal where
  place : Place
  cause : Cause
  deriving Repr

/-- Reading a part that is reached by a step. -/
def under {α : Type} (step : Step) (part : Except Refusal α) : Except Refusal α :=
  part.mapError fun r => { r with place := step :: r.place }

/-- Reading that does not tell places apart. -/
def anywhere {α : Type} (part : Except Cause α) : Except Refusal α :=
  part.mapError fun c => ⟨[], c⟩

@[simp] theorem under_ok {α : Type} (step : Step) (a : α) :
    under step (.ok a) = (.ok a : Except Refusal α) := rfl

@[simp] theorem anywhere_ok {α : Type} (a : α) : anywhere (.ok a) = (.ok a : Except Refusal α) := rfl

/-! ## Readers of simple values -/

/-- A string. -/
def asText : Json → Except Cause String
  | text s => .ok s
  | v => .error (.wrongType v "a string")

/-- A truth value. -/
def asBool : Json → Except Cause Bool
  | bool b => .ok b
  | v => .error (.wrongType v "a boolean")

/-- A name among the known ones: as a string, or as the only key of an object whose value satisfies
`blank`. -/
def asVariant (known : List String) (blank : Json → Bool) : Json → Except Refusal String
  | text s => if s ∈ known then .ok s else .error ⟨[], .unknownVariant s known⟩
  | object [(k, v)] =>
    if k ∈ known then
      if blank v then .ok k else .error ⟨[.key k], .wrongType v "unit"⟩
    else .error ⟨[], .unknownVariant k known⟩
  | object _ => .error ⟨[], .notSingleField⟩
  | v => .error ⟨[], .wrongType v "string or map"⟩

/-- Only null is blank. -/
def isNull : Json → Bool
  | null => true
  | _ => false

/-- Null and the empty object are blank. -/
def isNullOrEmpty : Json → Bool
  | null | object [] => true
  | _ => false

/-- The items read one by one, each under its index; the first refusal ends it. -/
def readItemsFrom {α : Type} (item : Json → Except Refusal α) : Nat → List Json →
    Except Refusal (List α)
  | _, [] => .ok []
  | i, v :: vs => do
    let a ← under (.index i) (item v)
    let as ← readItemsFrom item (i + 1) vs
    return a :: as

/-- A list of items. -/
def asList {α : Type} (item : Json → Except Refusal α) : Json → Except Refusal (List α)
  | array vs => readItemsFrom item 0 vs
  | v => .error ⟨[], .wrongType v "a sequence"⟩

/-! ## Readers of records -/

/-- A record: its name in messages, and its fields in order with their readers. A part is one field
read. -/
structure RecordFormat (α : Type) where
  name : String
  fields : List (String × (Json → Except Refusal α))

/-- The parts of a record that was read, and how a missing field is reported. -/
structure RecordParts (α : Type) where
  parts : List (String × α)
  missing : String → Cause

namespace RecordFormat

variable {α : Type}

/-- The known fields of an object, read in the order of the text; others are passed over. -/
def readFields (format : RecordFormat α) : List (String × Json) → Except Refusal (List (String × α))
  | [] => .ok []
  | (k, v) :: rest =>
    match format.fields.lookup k with
    | none => readFields format rest
    | some reader => do
      let part ← under (.key k) (reader v)
      let parts ← readFields format rest
      return (k, part) :: parts

/-- The items of a list, read as the fields in order. -/
def readPositional (i : Nat) : List (String × (Json → Except Refusal α)) → List Json →
    Except Refusal (List (String × α))
  | (k, reader) :: fields, v :: vs => do
    let part ← under (.index i) (reader v)
    let parts ← readPositional (i + 1) fields vs
    return (k, part) :: parts
  | _, _ => .ok []

/-- The position of a field. -/
def position (format : RecordFormat α) (field : String) : Nat :=
  (format.fields.map Prod.fst).idxOf field

/-- The length that a list form must have. -/
def lengthText (format : RecordFormat α) : String :=
  "struct " ++ format.name ++ " with " ++ toString format.fields.length ++
    (if format.fields.length = 1 then " element" else " elements")

/-- A record, written as an object or as the list of its fields. -/
def read (format : RecordFormat α) : Json → Except Refusal (RecordParts α)
  | object fields => do
    let parts ← format.readFields fields
    return ⟨parts, .missingField⟩
  | array items => do
    let parts ← readPositional 0 format.fields items
    return ⟨parts, fun f => .wrongLength (format.position f) format.lengthText⟩
  | v => .error ⟨[], .wrongType v ("struct " ++ format.name)⟩

/-- The list form must not have more items than there are fields. -/
def checkLength (format : RecordFormat α) : Json → Except Refusal Unit
  | array items =>
    if format.fields.length < items.length then
      .error ⟨[], .wrongLength items.length "fewer elements in array"⟩
    else .ok ()
  | _ => .ok ()

end RecordFormat

/-- The value of a required field, picked from the parts. -/
def RecordParts.required {α β : Type} (r : RecordParts α) (field : String) (pick : α → Option β) :
    Except Refusal β :=
  match (r.parts.lookup field).bind pick with
  | some b => .ok b
  | none => .error ⟨[], r.missing field⟩

/-- The value of a field that has a default, picked from the parts. -/
def RecordParts.optional {α β : Type} (r : RecordParts α) (field : String) (pick : α → Option β)
    (fallback : β) : β :=
  ((r.parts.lookup field).bind pick).getD fallback

end AssertionGen.Json
