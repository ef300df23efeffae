import AssertionGen.Batch.Inspection
import AssertionGen.Descriptor.ValueTypeDocument
/-!
# Serialized categories, subjects and views

Categories, methods and subjects are written as JSON objects, each variant under the tag that names
it. The views of an inspection put the fields of the category among those of the property.
-/

namespace AssertionGen

/-- Null, or the serialized form of what is there. -/
def Json.ofOption {α : Type} (write : α → Json) : Option α → Json
  | none => .null
  | some a => write a

/-! ## Categories and handles -/

/-- The fields of a category; the first names its rule. -/
def Category.writeFields (c : Category) : List (String × Json) :=
  ("category", .text c.rule.tag) ::
    match c with
    | .primitive k | .boxed k | .primitiveArray k => [("primitive", .text k.keyword)]
    | .objectArray e => [("element", e.write)]
    | .iterable e => [("element", Json.ofOption JavaType.write e)]
    | .optional k => [("optional", .text k.tag)]
    | .stream k => [("stream", .text k.tag)]
    | .container k e => [("container", .text k.tag), ("element", Json.ofOption JavaType.write e)]
    | .typeVariable n => [("name", .text n)]
    | .boolean | .boxedBoolean | .map | .classRef | .path | .object => []

/-- The serialized form of a category. -/
def Category.write (c : Category) : Json := .object c.writeFields

/-- The serialized form of a handle. -/
def HandleKind.write : HandleKind → Json
  | primitiveArray k => .object [("handle", .text "primitive_array"), ("primitive", .text k.keyword)]
  | objectArray e => .object [("handle", .text "object_array"), ("element", e.write)]
  | map => .object [("handle", .text "map")]
  | iterable => .object [("handle", .text "iterable")]
  | optional k => .object [("handle", .text "optional"), ("optional", .text k.tag)]
  | stream k => .object [("handle", .text "stream"), ("stream", .text k.tag)]
  | multiset => .object [("handle", .text "multiset")]
  | multimap => .object [("handle", .text "multimap")]
  | table => .object [("handle", .text "table")]
  | classRef => .object [("handle", .text "class")]
  | path => .object [("handle", .text "path")]
  | subject p n f =>
    .object [("handle", .text "subject"), ("package", .text p), ("subject_name", .text n),
      ("factory", .text f)]

/-! ## Methods -/

/-- The serialized form of an access. -/
def Access.write (a : Access) : Json :=
  .object [("accessor", .text a.accessor), ("expression", .text a.expression)]

/-- The serialized form of a parameter. -/
def Parameter.write (p : Parameter) : Json :=
  .object [("name", .text p.name), ("type", p.type.write), ("varargs", .bool p.varargs),
    ("nullable", .bool p.nullable)]

/-- The serialized form of what a method hands out. -/
def Returns.write : Returns → Json
  | nothing => .object [("kind", .text "void")]
  | handle h => .object [("kind", .text "handle"), ("handle", h.write)]

/-- The tag of a containment. -/
def Containment.tag : Containment → String
  | atLeast => "at_least"
  | noneOf => "none_of"

/-- The serialized form of a body. -/
def Body.write : Body → Json
  | truthy a negated boxed =>
    .object [("body", .text "truthy"), ("access", a.write), ("negated", .bool negated),
      ("boxed", .bool boxed)]
  | equals a t nullSensitive =>
    .object [("body", .text "equals"), ("access", a.write), ("ty", t.write),
      ("null_sensitive", .bool nullSensitive)]
  | delegate a t h =>
    .object [("body", .text "delegate"), ("access", a.write), ("ty", t.write), ("handle", h.write)]
  | contains a h mode =>
    .object [("body", .text "contains"), ("access", a.write), ("handle", h.write),
      ("mode", .text mode.tag)]
  | constant c negated =>
    .object [("body", .text "enum_constant"), ("constant", .text c), ("negated", .bool negated)]

/-- The serialized form of how a failure reads. -/
def FailureText.write : FailureText → Json
  | comparison d => .object [("failure", .text "comparison"), ("display_name", .text d)]
  | fact s => .object [("failure", .text "fact"), ("fact", .text s)]
  | delegated d => .object [("failure", .text "delegated"), ("display_name", .text d)]

/-- The serialized form of a method. -/
def Method.write (m : Method) : Json :=
  .object [("name", .text m.name), ("params", .array (m.parameters.map Parameter.write)),
    ("returns", m.returns.write), ("body", m.body.write), ("failure", m.failure.write)]

/-! ## Subjects -/

/-- The serialized form of an origin. -/
def Origin.write : Origin → Json
  | property a => .object [("origin", .text "property"), ("accessor", .text a)]
  | constant c => .object [("origin", .text "enum_constant"), ("constant", .text c)]

/-- The serialized form of a group. -/
def MethodGroup.write (g : MethodGroup) : Json :=
  .object [("origin", g.origin.write), ("methods", .array (g.methods.map Method.write))]

/-- The serialized form of a type parameter. -/
def Binding.write (b : Binding) : Json :=
  .object [("name", .text b.name), ("bounds", .array (b.bounds.map JavaType.write)),
    ("inferred", .bool b.inferred)]

/-- The serialized form of a warning. -/
def Warning.write (w : Warning) : Json :=
  .object [("kind", .text "unsupported_type_parameter_usage"), ("value_type", .text w.valueType),
    ("accessor", .text w.accessor), ("message", .text w.message)]

/-- The serialized form of a subject. -/
def Subject.write (s : Subject) : Json :=
  .object [("value_type", s.valueType.write), ("subject_name", .text s.name),
    ("groups", .array (s.groups.map MethodGroup.write)),
    ("type_parameters", .array (s.typeParameters.map Binding.write)),
    ("warnings", .array (s.warnings.map Warning.write))]

/-! ## Views -/

/-- The serialized form of the view of a property. -/
def PropertyView.write (p : PropertyView) : Json :=
  .object (("accessor", .text p.accessor) :: (p.category.writeFields ++
    [("base_name", .text p.baseName), ("access_expression", .text p.accessExpression),
      ("methods", .array (p.methods.map .text))]))

/-- The serialized form of the view of a value type; the error is left out if there is none. -/
def SubjectView.write (v : SubjectView) : Json :=
  .object (("value_type", .text v.valueType) :: ("subject_name", .text v.subjectName) ::
    ("properties", .array (v.properties.map PropertyView.write)) ::
    match v.error with
    | none => []
    | some e => [("error", .text e)])

end AssertionGen
