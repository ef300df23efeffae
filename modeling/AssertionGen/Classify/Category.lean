import AssertionGen.Descriptor.JavaType
/-!
# Categories of properties

The category of a property's type decides which assertions it gets. There is one rule for each
category but the last, in order of priority; a type that no rule matches is an object.

Two categories of one rule `conflict` if no type can have both shapes, and otherwise the later may
`refine` the earlier by an element type that the earlier left open.
-/

namespace AssertionGen

/-- What a property's type amounts to. -/
inductive Category where
  | boolean
  | primitive (kind : Primitive)
  | boxedBoolean
  | boxed (kind : Primitive)
  | primitiveArray (kind : Primitive)
  | objectArray (element : JavaType)
  | map
  | iterable (element : Option JavaType)
  | optional (kind : OptionalKind)
  | stream (kind : StreamKind)
  | container (kind : ContainerKind) (element : Option JavaType)
  | classRef
  | path
  | typeVariable (name : String)
  | object
  deriving DecidableEq, Repr, Inhabited

/-- The rules in order of priority; `object` is the rule of what no other rule matches. -/
inductive Rule where
  | boolean | primitive | boxedBoolean | boxed | primitiveArray | objectArray | map | iterable
  | optional | stream | container | classRef | path | typeVariable | object
  deriving DecidableEq, Repr, Inhabited

namespace Rule

/-- The serialized name. -/
def tag : Rule → String
  | boolean => "boolean"
  | primitive => "primitive"
  | boxedBoolean => "boxed_boolean"
  | boxed => "boxed"
  | primitiveArray => "primitive_array"
  | objectArray => "object_array"
  | map => "map"
  | iterable => "iterable"
  | optional => "optional"
  | stream => "stream"
  | container => "container"
  | classRef => "class_ref"
  | path => "path"
  | typeVariable => "type_variable"
  | object => "object"

/-- The rules that match some shape, first the ones that win. -/
def matching : List Rule :=
  [boolean, primitive, boxedBoolean, boxed, primitiveArray, objectArray, map, iterable, optional,
    stream, container, classRef, path, typeVariable]

/-- The place in the order of priority, counted from one. -/
def priority (r : Rule) : Nat := matching.idxOf r + 1

end Rule

namespace Category

/-- The rule of a category. -/
def rule : Category → Rule
  | boolean => .boolean
  | primitive _ => .primitive
  | boxedBoolean => .boxedBoolean
  | boxed _ => .boxed
  | primitiveArray _ => .primitiveArray
  | objectArray _ => .objectArray
  | map => .map
  | iterable _ => .iterable
  | optional _ => .optional
  | stream _ => .stream
  | container _ _ => .container
  | classRef => .classRef
  | path => .path
  | typeVariable _ => .typeVariable
  | object => .object

/-- Truth values, boxed or not. -/
def isBoolean : Category → Bool
  | boolean | boxedBoolean => true
  | _ => false

/-- The words for a category. -/
def text : Category → String
  | boolean => "boolean"
  | primitive k => "primitive " ++ k.keyword
  | boxedBoolean => "boxed boolean"
  | boxed k => "boxed " ++ k.boxName
  | primitiveArray k => k.keyword ++ "[]"
  | objectArray _ => "object array"
  | map => "map"
  | iterable (some _) => "iterable"
  | iterable none => "raw iterable"
  | optional k => "optional (" ++ k.title ++ ")"
  | stream k => "stream (" ++ k.title ++ ")"
  | container k _ => k.title
  | classRef => "class reference"
  | path => "path"
  | typeVariable n => "type variable " ++ n
  | object => "object"

/-! ## Matching one type -/

/-- The category that a rule gives to a type by its own shape, supertypes aside. -/
def ofShape? : Rule → JavaType → Option Category
  | .boolean, .primitive .boolean => some boolean
  | .primitive, .primitive k => if k = .boolean then none else some (primitive k)
  | .boxedBoolean, .boxed .boolean => some boxedBoolean
  | .boxed, .boxed k => if k = .boolean then none else some (boxed k)
  | .primitiveArray, .array (.primitive k) => some (primitiveArray k)
  | .objectArray, .array (.primitive _) => none
  | .objectArray, .array e => some (objectArray e)
  | .map, .map _ _ _ => some map
  | .iterable, .collection _ e => some (iterable e)
  | .optional, .optional k _ => some (optional k)
  | .stream, .stream k _ => some (stream k)
  | .container, .container .multiset as => some (container .multiset as.head?)
  | .container, .container k _ => some (container k none)
  | .classRef, .classRef _ => some classRef
  | .path, .path => some path
  | .typeVariable, .typeVariable n => some (typeVariable n)
  | _, _ => none

/-! ## Two matches of one rule -/

/-- Whether both elements are known and differ. -/
def differ (a b : Option JavaType) : Bool :=
  match a, b with
  | some x, some y => x ≠ y
  | _, _ => false

/-- Whether no type can have both shapes. -/
def conflicts : Category → Category → Bool
  | optional k, optional l => k ≠ l
  | stream k, stream l => k ≠ l
  | iterable a, iterable b => differ a b
  | container k a, container l b => k ≠ l || differ a b
  | _, _ => false

/-- The first category, with an element type that it left open taken from the later one. -/
def refine : Category → Category → Category
  | iterable none, iterable (some e) => iterable (some e)
  | container k none, container l (some e) => container k (if k = l then some e else none)
  | first, _ => first

end Category

end AssertionGen
