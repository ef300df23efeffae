import AssertionGen.Classify.Category
import AssertionGen.Naming.PropertyName
import AssertionGen.Naming.ReservedWord
import AssertionGen.Subject.Method
/-!
# Assertion methods of a property

The category of a property decides its methods: a pair for truth values, an equality for plain
values, and a handle for everything with a shape of its own. Iterables and multisets whose element type is
known, no wildcard and free of type variables also get two methods that assert containment
directly; if type variables stand in the way, a warning says so.
-/

namespace AssertionGen

/-- The methods of a property and the warnings about it. -/
structure Synthesis where
  methods : List Method
  warnings : List Warning
  deriving DecidableEq, Repr, Inhabited

/-- What is known of a property when its methods are made. -/
structure NamedProperty where
  property : Property
  category : Category
  name : PropertyName
  deriving DecidableEq, Repr, Inhabited

namespace NamedProperty

/-- The property with the names that its category gives it. -/
def of (p : Property) (c : Category) : NamedProperty :=
  ⟨p, c, PropertyName.of p.accessor p.kind c.isBoolean⟩

/-- How methods get at the property. -/
def access (p : NamedProperty) : Access := ⟨p.property.accessor, p.name.access⟩

/-- The base name as it stands inside method names. -/
def title (p : NamedProperty) : String := Text.capitalize p.name.base

/-! ## Single methods -/

/-- Asserts that a truth value is true, or that it is not. -/
def truthy (p : NamedProperty) (negated boxed : Bool) : Method :=
  { name := (if negated then "isNot" else "is") ++ p.title
    parameters := []
    returns := .nothing
    body := .truthy p.access negated boxed
    failure := .fact ((if negated then "expected not to be " else "expected to be ") ++ p.name.base) }

/-- Asserts that the property equals the argument. -/
def equals (p : NamedProperty) (nullSensitive : Bool) : Method :=
  { name := "has" ++ p.title
    parameters := [⟨"expected", p.property.type, false, nullSensitive⟩]
    returns := .nothing
    body := .equals p.access p.property.type nullSensitive
    failure := .comparison p.name.access }

/-- Hands out a handle for the property. -/
def delegate (p : NamedProperty) (handle : HandleKind) : Method :=
  { name := escapeReserved p.name.base
    parameters := []
    returns := .handle handle
    body := .delegate p.access p.property.type handle
    failure := .delegated p.name.access }

/-- Asserts that the property contains the arguments, or none of them. -/
def contains (p : NamedProperty) (handle : HandleKind) (element : JavaType) (mode : Containment) :
    Method :=
  { name := (match mode with | .atLeast => "has" | .noneOf => "doesNotHave") ++ p.title
    parameters := [⟨"expected", element, true, false⟩]
    returns := .nothing
    body := .contains p.access handle mode
    failure := .delegated p.name.access }

/-! ## Containment without the handle -/

/-- The containment methods for a known element type. -/
def convenience (p : NamedProperty) (handle : HandleKind) : Option JavaType → List Method
  | none | some (.wildcard _) => []
  | some e =>
    if e.mentionsVariable then [] else [p.contains handle e .atLeast, p.contains handle e .noneOf]

/-- A warning that only the handle was generated. -/
def degraded (p : NamedProperty) (owner : String) (type : JavaType) (position : VariablePosition) :
    Warning :=
  ⟨owner, p.property.accessor, type.variableNames, position⟩

/-- The warning about an element type that mentions type variables. -/
def elementWarnings (p : NamedProperty) (owner : String) : Option JavaType → List Warning
  | none | some (.wildcard _) => []
  | some e => if e.mentionsVariable then [p.degraded owner e .elementType] else []

/-! ## All methods -/

/-- The handle of a container. -/
def containerHandle : ContainerKind → HandleKind
  | .multiset => .multiset
  | .multimap => .multimap
  | .table => .table

/-- The methods of the property, in order. -/
def methods (p : NamedProperty) : List Method :=
  match p.category with
  | .boolean => [p.truthy false false, p.truthy true false]
  | .boxedBoolean => [p.truthy false true, p.truthy true true]
  | .primitive _ => [p.equals false]
  | .boxed _ => [p.equals true]
  | .typeVariable _ | .object => [p.equals p.property.nullable]
  | .primitiveArray k => [p.delegate (.primitiveArray k)]
  | .objectArray e => [p.delegate (.objectArray e)]
  | .map => [p.delegate .map]
  | .iterable e => p.delegate .iterable :: p.convenience .iterable e
  | .optional k => [p.delegate (.optional k)]
  | .stream k => [p.delegate (.stream k)]
  | .container .multiset e => p.delegate .multiset :: p.convenience .multiset e
  | .container k _ => [p.delegate (containerHandle k)]
  | .classRef => [p.delegate .classRef]
  | .path => [p.delegate .path]

/-- The warnings about the property of a value type. -/
def warnings (p : NamedProperty) (owner : String) : List Warning :=
  match p.category with
  | .objectArray e => if e.mentionsVariable then [p.degraded owner e .arrayComponent] else []
  | .iterable e | .container .multiset e => p.elementWarnings owner e
  | _ => []

/-- Methods and warnings. -/
def synthesize (p : NamedProperty) (owner : String) : Synthesis := ⟨p.methods, p.warnings owner⟩

end NamedProperty

/-! ## Constants -/

/-- Asserts that the value is a constant, or that it is not. -/
def constantMethod (constant : String) (negated : Bool) : Method :=
  { name := (if negated then "isNot" else "is") ++ Text.capitalize (constantBaseName constant)
    parameters := []
    returns := .nothing
    body := .constant constant negated
    failure := .fact ((if negated then "expected not to be " else "expected to be ") ++ constant) }

/-- The two methods of a constant. -/
def constantGroup (constant : String) : MethodGroup :=
  ⟨.constant constant, [constantMethod constant false, constantMethod constant true]⟩

end AssertionGen
