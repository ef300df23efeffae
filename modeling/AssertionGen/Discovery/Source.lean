import AssertionGen.Descriptor.ValueTypeDocument
import AssertionGen.Json.Reader
/-!
# Value types from text

A source text holds one value type or a list of them, as JSON. The whole text is read as a tree
first; a fault of the text has its position behind it. Then each value type is read from its tree.
A refusal names the place in the document.
-/

namespace AssertionGen

/-- Why a source text is refused: the place in the document, and the words. -/
structure SourceRefusal where
  place : String
  message : String
  deriving DecidableEq, Repr

namespace SourceRefusal

/-- A text without the dots at its end. -/
def withoutFinalDots (s : String) : String :=
  String.ofList (s.toList.reverse.dropWhile (· = '.')).reverse

/-- A fault of the text. -/
def ofSyntax (source : String) (e : Json.ReadError) : SourceRefusal :=
  ⟨e.place.write, (Json.Position.of source.toList e.error.offset).mark e.error.fault.message⟩

/-- The refusal of the only value of a document. -/
def ofRefusal (r : Json.Refusal) : SourceRefusal := ⟨r.place.write, r.cause.message⟩

/-- The refusal of an item of a list. -/
def ofItem (i : Nat) (r : Json.Refusal) : SourceRefusal :=
  ⟨withoutFinalDots ("[" ++ toString i ++ "]." ++ r.place.write), r.cause.message⟩

end SourceRefusal

namespace ValueType

/-- The value types in the items of a list, from a position on; the first refusal ends it. -/
def readAllFrom (i : Nat) : List Json → Except SourceRefusal (List ValueType)
  | [] => .ok []
  | v :: rest =>
    match ValueType.read v with
    | .error r => .error (.ofItem i r)
    | .ok t => (readAllFrom (i + 1) rest).map (t :: ·)

/-- The value types in a tree: the items of a list, or the only value. -/
def ofTree : Json → Except SourceRefusal (List ValueType)
  | .array items => readAllFrom 0 items
  | v =>
    match ValueType.read v with
    | .error r => .error (.ofRefusal r)
    | .ok t => .ok [t]

/-- The value types in a source text. -/
def ofText (source : String) : Except SourceRefusal (List ValueType) :=
  match Json.read Json.depthLimit source with
  | .error e => .error (.ofSyntax source e)
  | .ok v => ofTree v

end ValueType

end AssertionGen
