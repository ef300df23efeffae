import AssertionGen.Descriptor.TypeDocument
import AssertionGen.Descriptor.ValueType
/-!
# Serialized value types

A value type is written as an object with its fields in order; enclosing types, type parameters,
enumeration constants and bounds are left out when there are none. Reading also accepts the list
form of each record, in which missing fields at the end take their defaults.
-/

namespace AssertionGen

open Json (Refusal RecordFormat RecordParts anywhere asText asBool asList asVariant)

/-- A field of a list, left out if the list is empty. -/
def Json.nonemptyField (name : String) : List Json → List (String × Json)
  | [] => []
  | items => [(name, .array items)]

/-! ## Type parameters -/

namespace TypeParameter

/-- The serialized form. -/
def write (p : TypeParameter) : Json :=
  .object (("name", .text p.name) :: Json.nonemptyField "bounds" (p.bounds.map JavaType.write))

/-- A field that was read. -/
inductive Part where
  | text (s : String)
  | types (ts : List JavaType)

/-- The fields and their readers. -/
def format : RecordFormat Part :=
  { name := "TypeParameter"
    fields :=
      [("name", fun v => (anywhere (asText v)).map .text),
       ("bounds", fun v => (asList JavaType.read v).map .types)] }

/-- Reads the serialized form. -/
def read (v : Json) : Except Refusal TypeParameter := do
  let r ← format.read v
  let name ← r.required "name" fun | .text s => some s | _ => none
  let result : TypeParameter :=
    ⟨name, r.optional "bounds" (fun | .types ts => some ts | _ => none) []⟩
  format.checkLength v
  return result

end TypeParameter

/-! ## Properties -/

namespace AccessorKind

/-- The serialized tag. -/
def tag : AccessorKind → String
  | getter => "getter"
  | field => "field"

/-- Every kind, in tag order. -/
def all : List AccessorKind := [getter, field]

/-- Reads the serialized tag. -/
def read (v : Json) : Except Refusal AccessorKind := do
  let s ← asVariant (all.map tag) Json.isNull v
  return if s = "field" then field else getter

end AccessorKind

namespace Property

/-- The serialized form. -/
def write (p : Property) : Json :=
  .object
    [("name", .text p.name), ("accessor", .text p.accessor), ("kind", .text p.kind.tag),
     ("type", p.type.write), ("nullable", .bool p.nullable)]

/-- A field that was read. -/
inductive Part where
  | text (s : String)
  | kind (k : AccessorKind)
  | type (t : JavaType)
  | flag (b : Bool)

/-- The fields and their readers. -/
def format : RecordFormat Part :=
  { name := "Property"
    fields :=
      [("name", fun v => (anywhere (asText v)).map .text),
       ("accessor", fun v => (anywhere (asText v)).map .text),
       ("kind", fun v => (AccessorKind.read v).map .kind),
       ("type", fun v => (JavaType.read v).map .type),
       ("nullable", fun v => (anywhere (asBool v)).map .flag)] }

/-- Reads the serialized form. -/
def read (v : Json) : Except Refusal Property := do
  let r ← format.read v
  let name ← r.required "name" fun | .text s => some s | _ => none
  let accessor ← r.required "accessor" fun | .text s => some s | _ => none
  let type ← r.required "type" fun | .type t => some t | _ => none
  let result : Property :=
    { name, accessor, type
      kind := r.optional "kind" (fun | .kind k => some k | _ => none) .getter
      nullable := r.optional "nullable" (fun | .flag b => some b | _ => none) false }
  format.checkLength v
  return result

end Property

/-! ## Value types -/

namespace ValueType

/-- The serialized form. -/
def write (v : ValueType) : Json :=
  .object
    (("name", .text v.name) :: ("package", .text v.package) ::
      (Json.nonemptyField "enclosing" (v.enclosing.map .text) ++
        ("properties", .array (v.properties.map Property.write)) ::
          (Json.nonemptyField "type_parameters" (v.typeParameters.map TypeParameter.write) ++
            Json.nonemptyField "enum_constants" (v.enumConstants.map .text))))

/-- A field that was read. -/
inductive Part where
  | text (s : String)
  | texts (ss : List String)
  | properties (ps : List Property)
  | typeParameters (ps : List TypeParameter)

/-- The fields and their readers. -/
def format : RecordFormat Part :=
  { name := "ValueType"
    fields :=
      [("name", fun v => (anywhere (asText v)).map .text),
       ("package", fun v => (anywhere (asText v)).map .text),
       ("enclosing", fun v => (asList (fun v => anywhere (asText v)) v).map .texts),
       ("properties", fun v => (asList Property.read v).map .properties),
       ("type_parameters", fun v => (asList TypeParameter.read v).map .typeParameters),
       ("enum_constants", fun v => (asList (fun v => anywhere (asText v)) v).map .texts)] }

/-- Reads the serialized form. -/
def read (v : Json) : Except Refusal ValueType := do
  let r ← format.read v
  let texts : Part → Option (List String) := fun | .texts ss => some ss | _ => none
  let name ← r.required "name" fun | .text s => some s | _ => none
  let result : ValueType :=
    { name
      package := r.optional "package" (fun | .text s => some s | _ => none) ""
      enclosing := r.optional "enclosing" texts []
      properties := r.optional "properties" (fun | .properties ps => some ps | _ => none) []
      typeParameters :=
        r.optional "type_parameters" (fun | .typeParameters ps => some ps | _ => none) []
      enumConstants := r.optional "enum_constants" texts [] }
  format.checkLength v
  return result

end ValueType

end AssertionGen
