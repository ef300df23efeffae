import AssertionGen.Descriptor.ValueType
import AssertionGen.Subject.Handle
/-!
# Subjects and their methods

A subject is the assertion class of one value type: groups of methods, one group for each property
and each enumeration constant, the type parameters it declares, and what could not be generated. A
method says what it does by its body, what it takes and hands out, and how its failures read; the
text of the class is made of this elsewhere.
-/

namespace AssertionGen

/-- A property as declared, and the text that reads it. -/
structure Access where
  accessor : String
  expression : String
  deriving DecidableEq, Repr, Inhabited

/-- A parameter of a method. -/
structure Parameter where
  name : String
  type : JavaType
  varargs : Bool
  nullable : Bool
  deriving DecidableEq, Repr, Inhabited

/-- Which containment is asserted. -/
inductive Containment where
  | atLeast | noneOf
  deriving DecidableEq, Repr, Inhabited

/-- What a method hands out. -/
inductive Returns where
  | nothing
  | handle (kind : HandleKind)
  deriving DecidableEq, Repr, Inhabited

/-- What a method does. -/
inductive Body where
  /-- Asserts that a truth value is true, or not; a box may also hold null. -/
  | truthy (access : Access) (negated boxed : Bool)
  /-- Asserts that a property equals the argument. -/
  | equals (access : Access) (type : JavaType) (nullSensitive : Bool)
  /-- Hands out a handle for a property. -/
  | delegate (access : Access) (type : JavaType) (handle : HandleKind)
  /-- Asserts that a property contains the arguments, or none of them. -/
  | contains (access : Access) (handle : HandleKind) (mode : Containment)
  /-- Asserts that the value is a constant, or not. -/
  | constant (name : String) (negated : Bool)
  deriving DecidableEq, Repr, Inhabited

/-- How a failure reads. -/
inductive FailureText where
  /-- The display name, what was expected and what was found. -/
  | comparison (displayName : String)
  /-- One sentence and what was found. -/
  | fact (sentence : String)
  /-- The handle reports it under the display name. -/
  | delegated (displayName : String)
  deriving DecidableEq, Repr, Inhabited

/-- An assertion method. -/
structure Method where
  name : String
  parameters : List Parameter
  returns : Returns
  body : Body
  failure : FailureText
  deriving DecidableEq, Repr, Inhabited

/-- What a group of methods is for. -/
inductive Origin where
  | property (accessor : String)
  | constant (name : String)
  deriving DecidableEq, Repr, Inhabited

/-- The name under which the methods of a group are owned. -/
def Origin.owner : Origin → String
  | property a => a
  | constant c => c

/-- The methods for one property or constant, handles first. -/
structure MethodGroup where
  origin : Origin
  methods : List Method
  deriving DecidableEq, Repr, Inhabited

/-- A type parameter of a subject; `inferred` if the value type uses it without declaring it. -/
structure Binding where
  name : String
  bounds : List JavaType
  inferred : Bool
  deriving DecidableEq, Repr, Inhabited

/-- Where a type variable stands that keeps convenience methods from being generated. -/
inductive VariablePosition where
  | elementType | arrayComponent
  deriving DecidableEq, Repr, Inhabited

/-- A property that got only its handle. -/
structure Warning where
  valueType : String
  accessor : String
  variableNames : List String
  position : VariablePosition
  deriving DecidableEq, Repr, Inhabited

namespace Warning

/-- The words for a position. -/
def positionText : VariablePosition → String
  | .elementType => "an element type"
  | .arrayComponent => "an array component"

/-- What is warned of. -/
def message (w : Warning) : String :=
  "type variable " ++ ", ".intercalate w.variableNames ++ " used as " ++ positionText w.position ++
    "; only the accessor handle was generated"

/-- The warning with the property it is about. -/
def text (w : Warning) : String := w.valueType ++ ": `" ++ w.accessor ++ "`: " ++ w.message

end Warning

/-- The assertion class of a value type. -/
structure Subject where
  valueType : ValueType
  name : String
  groups : List MethodGroup
  typeParameters : List Binding
  warnings : List Warning
  deriving DecidableEq, Repr, Inhabited

namespace Subject

/-- All methods in order. -/
def methods (s : Subject) : List Method := s.groups.flatMap MethodGroup.methods

/-- The first method of a name. -/
def method? (s : Subject) (name : String) : Option Method := s.methods.find? fun m => m.name = name

end Subject

end AssertionGen
