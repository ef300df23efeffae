import AssertionGen.Descriptor.JavaType
import AssertionGen.Json.Refusal
/-!
# Serialized type descriptions

A type description is written as an object whose field `kind` names the shape, followed by the
fields of that shape; a missing component and an empty list are left out. `JavaType.write` writes
this form and `JavaType.read` reads it back.

Reading accepts more: fields in any order, fields that no shape has, and the list form, the kind
followed by the field values in order. Inside another description the kind may also be given by its
position among the kinds. Places are told apart only up to the kind of the outermost description.
-/

namespace AssertionGen

open Json (Cause Refusal)

/-! ## The shapes and their fields -/

/-- The shapes of type descriptions, in tag order. -/
inductive TypeTag where
  | primitive | boxed | array | collection | map | optional | stream | container | classRef | path
  | typeVariable | wildcard | declared | verbatim
  deriving DecidableEq, Repr, Inhabited

/-- What the value of a field is. -/
inductive PartSort where
  | primitive | collection | map | optional | stream | container | type | typeOption | types | text
  deriving DecidableEq, Repr

namespace TypeTag

/-- The value of the field `kind`. -/
def tag : TypeTag → String
  | primitive => "primitive"
  | boxed => "boxed"
  | array => "array"
  | collection => "collection"
  | map => "map"
  | optional => "optional"
  | stream => "stream"
  | container => "container"
  | classRef => "class_ref"
  | path => "path"
  | typeVariable => "type_variable"
  | wildcard => "wildcard"
  | declared => "declared"
  | verbatim => "opaque"

/-- The shape as messages about lengths name it. -/
def title : TypeTag → String
  | primitive => "struct variant TypeDescriptor::Primitive"
  | boxed => "struct variant TypeDescriptor::Boxed"
  | array => "struct variant TypeDescriptor::Array"
  | collection => "struct variant TypeDescriptor::Collection"
  | map => "struct variant TypeDescriptor::Map"
  | optional => "struct variant TypeDescriptor::Optional"
  | stream => "struct variant TypeDescriptor::Stream"
  | container => "struct variant TypeDescriptor::Container"
  | classRef => "struct variant TypeDescriptor::ClassRef"
  | path => "unit variant TypeDescriptor::Path"
  | typeVariable => "struct variant TypeDescriptor::TypeVariable"
  | wildcard => "struct variant TypeDescriptor::Wildcard"
  | declared => "struct DeclaredType"
  | verbatim => "struct variant TypeDescriptor::Opaque"

/-- Every shape, in tag order. -/
def all : List TypeTag :=
  [primitive, boxed, array, collection, map, optional, stream, container, classRef, path,
    typeVariable, wildcard, declared, verbatim]

/-- The names of all shapes. -/
def known : List String := all.map tag

/-- The shape of a name. -/
def ofName? (s : String) : Option TypeTag := all.find? fun t => t.tag = s

/-- The fields of a shape, in order. -/
def fields : TypeTag → List (String × PartSort)
  | primitive | boxed => [("primitive", .primitive)]
  | array => [("element", .type)]
  | collection => [("collection", .collection), ("element", .typeOption)]
  | map => [("map", .map), ("key", .typeOption), ("value", .typeOption)]
  | optional => [("optional", .optional), ("element", .typeOption)]
  | stream => [("stream", .stream), ("element", .typeOption)]
  | container => [("container", .container), ("arguments", .types)]
  | classRef => [("target", .typeOption)]
  | path => []
  | typeVariable | verbatim => [("name", .text)]
  | wildcard => [("upper", .typeOption)]
  | declared =>
    [("package", .text), ("name", .text), ("type_arguments", .types), ("supertypes", .types)]

end TypeTag

/-! ## Writing -/

namespace JavaType

mutual

/-- The serialized form. -/
def write : JavaType → Json
  | primitive k => .object [("kind", .text "primitive"), ("primitive", .text k.keyword)]
  | boxed k => .object [("kind", .text "boxed"), ("primitive", .text k.keyword)]
  | array e => .object [("kind", .text "array"), ("element", write e)]
  | collection k e =>
    .object (("kind", .text "collection") :: ("collection", .text k.tag) :: writeOption "element" e)
  | map k key value =>
    .object (("kind", .text "map") :: ("map", .text k.tag) ::
      (writeOption "key" key ++ writeOption "value" value))
  | optional k e =>
    .object (("kind", .text "optional") :: ("optional", .text k.tag) :: writeOption "element" e)
  | stream k e =>
    .object (("kind", .text "stream") :: ("stream", .text k.tag) :: writeOption "element" e)
  | container k as =>
    .object (("kind", .text "container") :: ("container", .text k.tag) :: writeList "arguments" as)
  | classRef t => .object (("kind", .text "class_ref") :: writeOption "target" t)
  | path => .object [("kind", .text "path")]
  | typeVariable n => .object [("kind", .text "type_variable"), ("name", .text n)]
  | wildcard u => .object (("kind", .text "wildcard") :: writeOption "upper" u)
  | declared p n as ss =>
    .object (("kind", .text "declared") :: ("package", .text p) :: ("name", .text n) ::
      (writeList "type_arguments" as ++ writeList "supertypes" ss))
  | verbatim n => .object [("kind", .text "opaque"), ("name", .text n)]

/-- The field of a component, left out if it is missing. -/
def writeOption (field : String) : Option JavaType → List (String × Json)
  | none => []
  | some t => [(field, write t)]

/-- The field of a list, left out if it is empty. -/
def writeList (field : String) : List JavaType → List (String × Json)
  | [] => []
  | t :: ts => [(field, .array (write t :: writeItems ts))]

/-- The items of a list. -/
def writeItems : List JavaType → List Json
  | [] => []
  | t :: ts => write t :: writeItems ts

end

end JavaType

/-! ## Reading -/

/-- A field that was read. -/
inductive TypePart where
  | primitive (kind : Primitive)
  | collection (kind : CollectionKind)
  | map (kind : MapKind)
  | optional (kind : OptionalKind)
  | stream (kind : StreamKind)
  | container (kind : ContainerKind)
  | type (t : Option JavaType)
  | types (ts : List JavaType)
  | text (s : String)

/-- A name out of a closed vocabulary, inside a description. -/
def readKind {α : Type} (all : List α) (tag : α → String) (v : Json) : Except Cause α :=
  match Json.asVariant (all.map tag) Json.isNullOrEmpty v with
  | .error r => .error r.cause
  | .ok s =>
    match all.find? fun a => tag a = s with
    | some a => .ok a
    | none => .error (.unknownVariant s (all.map tag))

/-- The value of a field by its sort; `type` and `types` are the readings of the value as a
description and as a list of descriptions. -/
def TypePart.read (sort : PartSort) (v : Json) (type : Except Cause JavaType)
    (types : Except Cause (List JavaType)) : Except Cause TypePart :=
  match sort with
  | .primitive => (readKind Primitive.all Primitive.keyword v).map .primitive
  | .collection => (readKind CollectionKind.all CollectionKind.tag v).map .collection
  | .map => (readKind MapKind.all MapKind.tag v).map .map
  | .optional => (readKind OptionalKind.all OptionalKind.tag v).map .optional
  | .stream => (readKind StreamKind.all StreamKind.tag v).map .stream
  | .container => (readKind ContainerKind.all ContainerKind.tag v).map .container
  | .type => type.map fun t => .type (some t)
  | .typeOption => if Json.isNull v then .ok (.type none) else type.map fun t => .type (some t)
  | .types => types.map .types
  | .text => (Json.asText v).map .text

/-- The fields that were read, by name, and how a missing one is reported. -/
structure TypeParts where
  parts : List (String × TypePart)
  missing : String → Cause

namespace TypeParts

/-- The value of a field that must be there. -/
def required {α : Type} (p : TypeParts) (field : String) (pick : TypePart → Option α) :
    Except Cause α :=
  match (p.parts.lookup field).bind pick with
  | some a => .ok a
  | none => .error (p.missing field)

/-- The component in a field, which may be missing. -/
def component (p : TypeParts) (field : String) : Option JavaType :=
  match p.parts.lookup field with
  | some (.type t) => t
  | _ => none

/-- The list in a field, empty if it is missing. -/
def list (p : TypeParts) (field : String) : List JavaType :=
  match p.parts.lookup field with
  | some (.types ts) => ts
  | _ => []

/-- The text in a field that must be there. -/
def text (p : TypeParts) (field : String) : Except Cause String :=
  p.required field fun | .text s => some s | _ => none

/-- The description of a shape made of its fields. -/
def build (p : TypeParts) : TypeTag → Except Cause JavaType
  | .primitive => do
    return .primitive (← p.required "primitive" fun | .primitive k => some k | _ => none)
  | .boxed => do
    return .boxed (← p.required "primitive" fun | .primitive k => some k | _ => none)
  | .array => do
    return .array (← p.required "element" fun | .type t => t | _ => none)
  | .collection => do
    let k ← p.required "collection" fun | .collection k => some k | _ => none
    return .collection k (p.component "element")
  | .map => do
    let k ← p.required "map" fun | .map k => some k | _ => none
    return .map k (p.component "key") (p.component "value")
  | .optional => do
    let k ← p.required "optional" fun | .optional k => some k | _ => none
    return .optional k (p.component "element")
  | .stream => do
    let k ← p.required "stream" fun | .stream k => some k | _ => none
    return .stream k (p.component "element")
  | .container => do
    let k ← p.required "container" fun | .container k => some k | _ => none
    return .container k (p.list "arguments")
  | .classRef => return .classRef (p.component "target")
  | .path => return .path
  | .typeVariable => do return .typeVariable (← p.text "name")
  | .wildcard => return .wildcard (p.component "upper")
  | .declared => do
    let package :=
      match p.parts.lookup "package" with
      | some (.text s) => s
      | _ => ""
    return .declared package (← p.text "name") (p.list "type_arguments") (p.list "supertypes")
  | .verbatim => do return .verbatim (← p.text "name")

end TypeParts

namespace TypeTag

/-- The kind of a description inside another one: a name, or a position among the kinds. -/
def readInner : Json → Except Cause TypeTag
  | .text s =>
    match ofName? s with
    | some t => .ok t
    | none => .error (.unknownVariant s known)
  | .number (.natural n) =>
    match all[n]? with
    | some t => .ok t
    | none => .error (.noSuchIndex n all.length)
  | v => .error (.wrongType v "variant identifier")

/-- The kind of an outermost description: a name. -/
def readOuter : Json → Except Cause TypeTag
  | .text s =>
    match ofName? s with
    | some t => .ok t
    | none => .error (.unknownVariant s known)
  | v => .error (.wrongType v "variant identifier")

/-- A count of things, in words. -/
def counted (n : Nat) (suffix : String) : String :=
  toString n ++ (if n = 1 then " element" else " elements") ++ suffix

/-- How a missing field of the list form is reported: by its position. -/
def missingItem (t : TypeTag) (field : String) : Cause :=
  .wrongLength ((t.fields.map Prod.fst).idxOf field)
    (t.title ++ " with " ++ counted t.fields.length "")

/-- The list form has no more items than the shape has fields. -/
def checkLength (t : TypeTag) (items : Nat) : Except Cause Unit :=
  if t.fields.length < items then
    .error (.wrongLength items (counted t.fields.length " in sequence"))
  else .ok ()

end TypeTag

namespace JavaType

mutual

/-- A description inside another one. -/
def readInner : Json → Except Cause JavaType
  | .object fields =>
    match fields.lookup "kind" with
    | none => .error (.missingField "kind")
    | some v => do
      let t ← TypeTag.readInner v
      let parts ← readFields t fields
      TypeParts.build ⟨parts, .missingField⟩ t
  | .array [] => .error (.missingField "kind")
  | .array (v :: items) => do
    let t ← TypeTag.readInner v
    let parts ← readPositional t.fields items
    let result ← TypeParts.build ⟨parts, t.missingItem⟩ t
    t.checkLength items.length
    return result
  | v => .error (.wrongType v "internally tagged enum TypeDescriptor")

/-- The fields of a shape, in the order of the text; others are passed over. -/
def readFields (t : TypeTag) : List (String × Json) → Except Cause (List (String × TypePart))
  | [] => .ok []
  | (k, v) :: rest =>
    match t.fields.lookup k with
    | none => readFields t rest
    | some sort => do
      let part ← TypePart.read sort v (readInner v) (readItems v)
      let parts ← readFields t rest
      return (k, part) :: parts

/-- The fields of a shape from the items of a list. -/
def readPositional (fields : List (String × PartSort)) :
    List Json → Except Cause (List (String × TypePart))
  | [] => .ok []
  | v :: rest =>
    match fields with
    | [] => .ok []
    | (k, sort) :: fields => do
      let part ← TypePart.read sort v (readInner v) (readItems v)
      let parts ← readPositional fields rest
      return (k, part) :: parts

/-- A list of descriptions. -/
def readItems : Json → Except Cause (List JavaType)
  | .array items => readAll items
  | v => .error (.wrongType v "a sequence")

/-- Descriptions, one after the other. -/
def readAll : List Json → Except Cause (List JavaType)
  | [] => .ok []
  | v :: rest => do
    let t ← readInner v
    let ts ← readAll rest
    return t :: ts

end

/-- An outermost description: only a name is accepted as its kind, and a refused kind is reported at
its own place. -/
def read : Json → Except Refusal JavaType
  | .object fields =>
    match fields.lookup "kind" with
    | none => .error ⟨[], .missingField "kind"⟩
    | some v => do
      let t ← Json.under (.key "kind") (Json.anywhere (TypeTag.readOuter v))
      Json.anywhere do
        let parts ← readFields t fields
        TypeParts.build ⟨parts, .missingField⟩ t
  | .array [] => .error ⟨[], .missingField "kind"⟩
  | .array (v :: items) => do
    let t ← Json.under (.index 0) (Json.anywhere (TypeTag.readOuter v))
    Json.anywhere do
      let parts ← readPositional t.fields items
      let result ← TypeParts.build ⟨parts, t.missingItem⟩ t
      t.checkLength items.length
      return result
  | v => .error ⟨[], .wrongType v "internally tagged enum TypeDescriptor"⟩

end JavaType

end AssertionGen
