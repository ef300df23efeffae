import AssertionGen.Classify.Classify
import AssertionGen.Naming.Unique
import AssertionGen.Subject.Linkage
import AssertionGen.Subject.Propagation
/-!
# Subjects of value types

The subject of a value type has one group of methods for each property, in declaration order, with
the link to another subject in front, and then one for each enumeration constant. It is refused if a
property's type is ambiguous, if two properties have one base name, or if two of its methods, the
factory and `assertThat` included, have one name; the checks are made in this order, and within each
the first fault counts.
-/

namespace AssertionGen

/-- Why a value type gets no subject. -/
inductive GenerationError where
  | ambiguous (valueType accessor : String) (candidates : List Category)
  | collision (valueType : String) (clash : Clash)
  deriving DecidableEq, Repr

namespace GenerationError

/-- The qualified name of the value type. -/
def valueType : GenerationError → String
  | ambiguous v _ _ => v
  | collision v _ => v

/-- The words for an error. -/
def message : GenerationError → String
  | ambiguous v accessor candidates =>
    v ++ ": `" ++ accessor ++ "` matches incompatible shapes: " ++
      ", ".intercalate (candidates.map Category.text)
  | collision v c =>
    v ++ ": `" ++ c.first ++ "` and `" ++ c.second ++ "` both resolve to `" ++ c.name ++ "`"

end GenerationError

/-! ## Groups -/

/-- The group of a property. -/
def NamedProperty.group (table : LinkTable) (p : NamedProperty) : MethodGroup :=
  ⟨.property p.property.accessor, (p.linkedHandle? table).toList ++ p.methods⟩

namespace Subject

/-- The subject of a value type whose properties are classified and named; its names are not checked. -/
def ofProperties (settings : Settings) (table : LinkTable) (v : ValueType)
    (properties : List NamedProperty) : Subject :=
  { valueType := v
    name := settings.subjectName v
    groups := properties.map (NamedProperty.group table) ++ v.enumConstants.map constantGroup
    typeParameters := v.bindings
    warnings := properties.flatMap fun p => p.warnings v.qualifiedName }

/-- The names of all methods with their owners, the static ones first. -/
def ownedNames (settings : Settings) (s : Subject) : List (String × String) :=
  (settings.factoryName s.valueType, "static factory") ::
    ((if settings.assertThat then [("assertThat", "static assertThat")] else []) ++
      s.groups.flatMap fun g => g.methods.map fun m => (m.name, g.origin.owner))

end Subject

/-! ## Checks -/

/-- The properties with their categories and names; an ambiguous type ends it. -/
def ValueType.namedProperties (owner : String) : List Property → Except GenerationError (List NamedProperty)
  | [] => .ok []
  | p :: ps =>
    match classifyStrict p.type with
    | .error a => .error (.ambiguous owner p.accessor a.candidates)
    | .ok c => do
      let rest ← namedProperties owner ps
      return NamedProperty.of p c :: rest

/-- Refuses a value type whose names clash. -/
def checkNames (owner : String) (names : List (String × String)) : Except GenerationError Unit :=
  match clash? names with
  | some c => .error (.collision owner c)
  | none => .ok ()

/-- The subject of a value type, linked by a table. -/
def generate (settings : Settings) (table : LinkTable) (v : ValueType) :
    Except GenerationError Subject := do
  let properties ← ValueType.namedProperties v.qualifiedName v.properties
  checkNames v.qualifiedName (properties.map fun p => (p.name.base, p.property.accessor))
  let subject := Subject.ofProperties settings table v properties
  checkNames v.qualifiedName (subject.ownedNames settings)
  return subject

end AssertionGen
