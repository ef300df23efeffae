import AssertionGen.Descriptor.JavaType
/-!
# Value types

A value type is a class whose values are compared by their properties. Its description gives its
name and package, the types that enclose it, its properties in declaration order, its type
parameters and, for an enumeration, its constants.

The qualified name, package and nested name joined by dots, identifies a value type in a batch.
-/

namespace AssertionGen

/-- How a property is read: by calling a getter or by reading a field. -/
inductive AccessorKind where
  | getter | field
  deriving DecidableEq, Repr, Inhabited

/-- A property of a value type; `accessor` is the name of the getter or field. -/
structure Property where
  name : String
  accessor : String
  kind : AccessorKind
  type : JavaType
  nullable : Bool
  deriving DecidableEq, Repr, Inhabited

/-- A declared type parameter. -/
structure TypeParameter where
  name : String
  bounds : List JavaType
  deriving DecidableEq, Repr, Inhabited

/-- The description of a value type; `enclosing` lists the enclosing types, outermost first. -/
structure ValueType where
  name : String
  package : String
  enclosing : List String
  properties : List Property
  typeParameters : List TypeParameter
  enumConstants : List String
  deriving DecidableEq, Repr, Inhabited

/-- A name inside a package; the default package has no name and adds nothing. -/
def qualify (package name : String) : String :=
  if package = "" then name else package ++ "." ++ name

namespace ValueType

/-- The name relative to the package, dotted for nested types. -/
def nestedName (v : ValueType) : String := ".".intercalate (v.enclosing ++ [v.name])

/-- The name by which a batch knows the type. -/
def qualifiedName (v : ValueType) : String := qualify v.package v.nestedName

/-- The enclosing names and the name run together. -/
def flatName (v : ValueType) : String := String.join (v.enclosing ++ [v.name])

/-- The type itself, applied to its own type parameters. -/
def selfType (v : ValueType) : JavaType :=
  .declared v.package v.nestedName (v.typeParameters.map fun p => .typeVariable p.name) []

/-- Whether the type declares type parameters. -/
def isGeneric (v : ValueType) : Bool := !v.typeParameters.isEmpty

end ValueType

end AssertionGen
