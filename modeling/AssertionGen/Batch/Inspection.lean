import AssertionGen.Batch.Report
/-!
# Inspecting a batch

The view of a value type shows, for each property, its category, its names and the methods that it
gets. A type that fails has the words of its error and no methods, but its properties are shown all
the same, with conflicts in their types passed over.
-/

namespace AssertionGen

/-- What is shown of a property. -/
structure PropertyView where
  accessor : String
  category : Category
  baseName : String
  accessExpression : String
  methods : List String
  deriving DecidableEq, Repr

/-- What is shown of a value type. -/
structure SubjectView where
  valueType : String
  subjectName : String
  properties : List PropertyView
  error : Option String
  deriving DecidableEq, Repr

/-- The names of the methods of the group at a position; none without a subject. -/
def groupMethodNames (result : Except GenerationError Subject) (i : Nat) : List String :=
  match result with
  | .error _ => []
  | .ok s =>
    match s.groups[i]? with
    | none => []
    | some g => g.methods.map Method.name

/-- The view of a property at a position. -/
def PropertyView.of (result : Except GenerationError Subject) (i : Nat) (p : Property) : PropertyView :=
  let named := NamedProperty.of p (classify p.type)
  { accessor := p.accessor
    category := named.category
    baseName := named.name.base
    accessExpression := named.name.access
    methods := groupMethodNames result i }

/-- The view of a value type with its result. -/
def SubjectView.of (settings : Settings) (v : ValueType) (result : Except GenerationError Subject) :
    SubjectView :=
  { valueType := v.qualifiedName
    subjectName := settings.subjectName v
    properties := v.properties.mapIdx (PropertyView.of result)
    error :=
      match result with
      | .error e => some e.message
      | .ok _ => none }

/-- The views of a batch, in order. -/
def inspectBatch (settings : Settings) (batch : List ValueType) : List SubjectView :=
  List.zipWith (SubjectView.of settings) batch (batchResults settings batch)

end AssertionGen
