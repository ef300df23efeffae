import AssertionGen.Subject.Method
/-!
# Type parameters of subjects

A subject declares the type parameters of its value type, bounds included. Then the properties are
gone through in order, and every type variable in the type of a property is put behind the parameters,
unless one of them has its name by then.

Repeats are dropped twice, within the type of a property and against the parameters so far. What comes
of it is that the variables that are used undeclared stand in first-seen order (`bindings_eq`).
-/

namespace AssertionGen

/-- The declared parameters as they stand. -/
def ValueType.declaredBindings (v : ValueType) : List Binding :=
  v.typeParameters.map fun p => ⟨p.name, p.bounds, false⟩

/-- Type parameters with one for a type variable behind them, unless one has its name already. -/
def Binding.infer (bs : List Binding) (n : String) : List Binding :=
  if n ∈ bs.map Binding.name then bs else bs ++ [⟨n, [], true⟩]

/-- The type parameters of the subject. -/
def ValueType.bindings (v : ValueType) : List Binding :=
  v.properties.foldl (fun bs p => p.type.variableNames.foldl Binding.infer bs) v.declaredBindings

/-! ## In first-seen order -/

/-- The type variables in the properties' types, in order of occurrence. -/
def ValueType.variableOccurrences (v : ValueType) : List String :=
  v.properties.flatMap fun p => p.type.occurrences

/-- The variables that are used but not declared, in first-seen order. -/
def ValueType.freeVariables (v : ValueType) : List String :=
  firstSeen (v.variableOccurrences.filter fun n => n ∉ v.typeParameters.map TypeParameter.name)

theorem Binding.foldl_infer (bs : List Binding) (seen xs : List String) :
    xs.foldl infer (bs ++ seen.map fun n => ⟨n, [], true⟩) =
      bs ++ (firstSeenAfter seen (xs.filter fun n => n ∉ bs.map name)).map fun n => ⟨n, [], true⟩ := by
  induction xs generalizing seen with
  | nil => rfl
  | cons x xs ih =>
    have hnames : (bs ++ seen.map fun n => (⟨n, [], true⟩ : Binding)).map name =
        bs.map name ++ seen := by
      simp [Function.comp_def]
    rw [List.foldl_cons, infer, hnames]
    by_cases hdeclared : x ∈ bs.map name
    · rw [if_pos (List.mem_append_left _ hdeclared), ih,
        List.filter_cons_of_neg (by simpa using hdeclared)]
    · rw [List.filter_cons_of_pos (by simpa using hdeclared), firstSeenAfter]
      by_cases hseen : x ∈ seen
      · rw [if_pos (List.mem_append_right _ hseen), if_pos hseen, ih]
      · have hnew : x ∉ bs.map name ++ seen := fun h => (List.mem_append.mp h).elim hdeclared hseen
        rw [if_neg hnew, if_neg hseen, ← ih, List.map_append, List.append_assoc]
        rfl

/-- Repeats within the type of a property make no difference to those across properties. -/
theorem firstSeenAfter_flatMap_variableNames (ps : List Property) (seen : List String) :
    firstSeenAfter seen (ps.flatMap fun p => p.type.variableNames) =
      firstSeenAfter seen (ps.flatMap fun p => p.type.occurrences) := by
  induction ps generalizing seen with
  | nil => rfl
  | cons p ps ih =>
    rw [List.flatMap_cons, List.flatMap_cons, firstSeenAfter_append, firstSeenAfter_append, ih,
      JavaType.variableNames, firstSeenAfter_firstSeen]

/-- The subject has the declared parameters and then one for each variable that is used undeclared, in
first-seen order. -/
theorem ValueType.bindings_eq (v : ValueType) :
    v.bindings = v.declaredBindings ++ v.freeVariables.map fun n => ⟨n, [], true⟩ := by
  have hflat : v.bindings =
      (v.properties.flatMap fun p => p.type.variableNames).foldl Binding.infer v.declaredBindings := by
    rw [List.foldl_flatMap]
    rfl
  have hdeclared : v.declaredBindings.map Binding.name = v.typeParameters.map TypeParameter.name := by
    simp [declaredBindings, Function.comp_def]
  have hfold := Binding.foldl_infer v.declaredBindings []
    (v.properties.flatMap fun p => p.type.variableNames)
  rw [List.map_nil, List.append_nil, hdeclared] at hfold
  have hfree : v.freeVariables = firstSeen
      ((v.properties.flatMap fun p => p.type.variableNames).filter
        fun n => n ∉ v.typeParameters.map TypeParameter.name) := by
    rw [freeVariables, variableOccurrences, ← filter_firstSeen, ← filter_firstSeen, firstSeen,
      firstSeen, firstSeenAfter_flatMap_variableNames]
  rw [hflat, hfold, hfree]
  rfl

end AssertionGen
