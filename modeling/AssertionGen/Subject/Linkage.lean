import AssertionGen.Ordered.Entries
import AssertionGen.Settings
import AssertionGen.Subject.Synthesis
/-!
# Links between subjects

A property whose type is another value type of the same batch gets a handle that hands out that
type's subject. The link table lists the value types that can be linked to by their qualified names:
those without type parameters, for as long as their own subjects are generated. A type resolves if
it is declared, without type arguments, and listed.
-/

namespace AssertionGen

/-- Where the subject of a listed value type is found. -/
structure LinkedSubject where
  package : String
  name : String
  factory : String
  deriving DecidableEq, Repr, Inhabited

/-- The handle for a linked subject. -/
def LinkedSubject.handle (l : LinkedSubject) : HandleKind := .subject l.package l.name l.factory

/-- The value types that can be linked to, by qualified name. -/
abbrev LinkTable := Entries String LinkedSubject

namespace LinkTable

/-- The entry of a value type. -/
def entry (settings : Settings) (v : ValueType) : String × LinkedSubject :=
  (v.qualifiedName, ⟨v.package, settings.subjectName v, settings.factoryName v⟩)

/-- The table of a whole batch; of two types with one qualified name the later counts. -/
def ofBatch (settings : Settings) (batch : List ValueType) : LinkTable :=
  Entries.ofList ((batch.filter fun v => !v.isGeneric).map (entry settings))

/-- The subject that a type resolves to. -/
def resolve? (table : LinkTable) : JavaType → Option LinkedSubject
  | .declared package name [] _ => Entries.get? table (qualify package name)
  | _ => none

end LinkTable

/-- The handle for the subject of the property's own type, if there is one. -/
def NamedProperty.linkedHandle? (table : LinkTable) (p : NamedProperty) : Option Method :=
  if p.category = .object then
    (LinkTable.resolve? table p.property.type).map fun l => p.delegate l.handle
  else none

end AssertionGen
