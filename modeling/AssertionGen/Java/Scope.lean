import AssertionGen.Descriptor.ValueType
import AssertionGen.Ordered.Entries
import AssertionGen.Text.Pieces
/-!
# Simple names in a unit

In one compilation unit a simple name stands for one type. The first type to claim a simple name
gets it for the whole unit; a later type of that simple name is written with its package. A nested type is
claimed by its outermost type. A claim is imported unless the type is in the default package, in
java.lang, or in the unit's own package.

A claim is never taken back, so a name that has been claimed is written in the same way from then on:
the text of a type is a function of the finished scope.
-/

namespace AssertionGen.Java

/-- A type by its package and its name, dotted for nested types. -/
structure TypeName where
  package : String
  name : String
  deriving DecidableEq, Repr, Inhabited

namespace TypeName

/-- The simple name of the outermost type. -/
def outer (t : TypeName) : String :=
  match Text.piecesOf '.' t.name with
  | [] => t.name
  | p :: _ => p

/-- The qualified name of the outermost type. -/
def qualifiedOuter (t : TypeName) : String := qualify t.package t.outer

/-- The qualified name. -/
def qualified (t : TypeName) : String := qualify t.package t.name

end TypeName

/-- The simple names claimed in a unit of a package, with the qualified names that own them, and the
qualified names to be imported. -/
structure Scope where
  package : String
  claimed : Entries String String
  imported : List String
  deriving DecidableEq, Repr, Inhabited

namespace Scope

/-- A scope in which nothing is claimed. -/
def empty (package : String) : Scope := ⟨package, [], []⟩

/-- Claims a simple name for a type that the unit itself declares. -/
def reserve (s : Scope) (name : String) : Scope :=
  match s.claimed.get? name with
  | some _ => s
  | none => { s with claimed := s.claimed.insert name (qualify s.package name) }

/-- Whether a claim on behalf of a type has to be imported. -/
def imports (s : Scope) (t : TypeName) : Bool :=
  t.package ≠ "" && t.package ≠ "java.lang" && t.package ≠ s.package

/-- Claims the simple name of a type, if nothing has it yet. -/
def claim (s : Scope) (t : TypeName) : Scope :=
  match s.claimed.get? t.outer with
  | some _ => s
  | none =>
    { s with
      claimed := s.claimed.insert t.outer t.qualifiedOuter
      imported :=
        if s.imports t && !s.imported.contains t.qualifiedOuter then
          s.imported ++ [t.qualifiedOuter]
        else s.imported }

/-- The text of a type: by its simple name if that is the type's own, else with the package. -/
def text (s : Scope) (t : TypeName) : String :=
  if s.claimed.get? t.outer = some t.qualifiedOuter then t.name else t.qualified

/-- Refers to a type: claims its simple name if it is free, and gives the text. -/
def reference (s : Scope) (t : TypeName) : String × Scope := ((s.claim t).text t, s.claim t)

/-- Claims the simple names of several types in turn. -/
def claimAll (s : Scope) (ts : List TypeName) : Scope := ts.foldl claim s

/-- The import statements, in the order of the qualified names. -/
def statements (s : Scope) : List String :=
  (s.imported.mergeSort fun a b => decide (a ≤ b)).map fun q => "import " ++ q ++ ";"

end Scope

end AssertionGen.Java
