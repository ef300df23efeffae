import AssertionGen.Proofs.Linkage
import AssertionGen.Proofs.Shape
/-!
# The type variables of a subject

A subject mentions types in three places: in the bounds of its type parameters, in the parameters of
its methods, and in the element type of an array that a method hands out. `unbound_variables_iff` says
exactly which type variables in these places the subject does not bind.

In the parameters of methods there is none. A method takes the type of its property, all of whose
variables the subject binds, or an element type without any. The other two places can have some:

* a bound may use a variable of an enclosing type that no property uses, as in
  `Outer<U>.Inner<T extends Comparable<U>>`; only the types of properties are searched for variables;
* a property's type may be an array by a supertype only, and then the variables of the element need
  not occur in the type itself, because supertypes are not components.

So the variables of a subject are not always bound (`not_variablesBound`).
-/

namespace AssertionGen

/-! ## What a subject mentions -/

/-- The types in the head of a subject and in the signatures of its methods. -/
inductive Subject.Mentions (s : Subject) : JavaType → Prop where
  | bound {b : Binding} {t : JavaType} (hb : b ∈ s.typeParameters) (ht : t ∈ b.bounds) : Mentions s t
  | parameter {m : Method} {q : Parameter} (hm : m ∈ s.methods) (hq : q ∈ m.parameters) :
      Mentions s q.type
  | element {m : Method} {e : JavaType} (hm : m ∈ s.methods)
      (hreturns : m.returns = .handle (.objectArray e)) : Mentions s e

/-- A type variable is the name of a type parameter of the subject. -/
def Subject.Binds (s : Subject) (n : String) : Prop := n ∈ s.typeParameters.map Binding.name

instance (s : Subject) (n : String) : Decidable (s.Binds n) :=
  inferInstanceAs (Decidable (n ∈ s.typeParameters.map Binding.name))

/-- A type variable that the subject mentions and does not bind. -/
def Subject.Unbound (s : Subject) (n : String) : Prop :=
  (∃ t, s.Mentions t ∧ n ∈ t.occurrences) ∧ ¬ s.Binds n

/-! ## What a subject binds -/

/-- A type variable is declared by the value type or occurs in the type of a property. -/
def ValueType.Knows (v : ValueType) (n : String) : Prop :=
  n ∈ v.typeParameters.map TypeParameter.name ∨ ∃ p ∈ v.properties, n ∈ p.type.occurrences

instance (v : ValueType) (n : String) : Decidable (v.Knows n) :=
  inferInstanceAs (Decidable (n ∈ v.typeParameters.map TypeParameter.name ∨
    ∃ p ∈ v.properties, n ∈ p.type.occurrences))

theorem ValueType.mem_map_bindings_iff {v : ValueType} {n : String} :
    n ∈ v.bindings.map Binding.name ↔ v.Knows n := by
  have hdeclared : v.declaredBindings.map Binding.name = v.typeParameters.map TypeParameter.name := by
    simp [declaredBindings, Function.comp_def]
  have hfree : (v.freeVariables.map fun n => (⟨n, [], true⟩ : Binding)).map Binding.name =
      v.freeVariables := by
    simp [Function.comp_def]
  rw [bindings_eq, List.map_append, hdeclared, hfree, List.mem_append, freeVariables, mem_firstSeen,
    List.mem_filter, decide_eq_true_iff, variableOccurrences, List.mem_flatMap, Knows]
  by_cases hn : n ∈ v.typeParameters.map TypeParameter.name
  · simp [hn]
  · simp [hn]

theorem ValueType.exists_bound_iff {v : ValueType} {t : JavaType} :
    (∃ b ∈ v.bindings, t ∈ b.bounds) ↔ ∃ q ∈ v.typeParameters, t ∈ q.bounds := by
  simp only [bindings_eq, declaredBindings, List.mem_append, List.mem_map]
  constructor
  · rintro ⟨b, ⟨q, hq, rfl⟩ | ⟨n, -, rfl⟩, ht⟩
    · exact ⟨q, hq, ht⟩
    · cases ht
  · rintro ⟨q, hq, ht⟩
    exact ⟨_, Or.inl ⟨q, hq, rfl⟩, ht⟩

/-! ## Parameters of methods -/

theorem JavaType.occurrences_array (e : JavaType) : (array e).occurrences = e.occurrences := by
  rw [occurrences]

theorem JavaType.occurrences_of_not_mentionsVariable {t : JavaType}
    (h : t.mentionsVariable = false) : t.occurrences = [] := by
  rw [mentionsVariable, Bool.not_eq_false', List.isEmpty_iff] at h
  refine List.eq_nil_iff_forall_not_mem.mpr fun n hn => ?_
  have hmem := mem_variableNames.mpr hn
  rw [h] at hmem
  cases hmem

namespace NamedProperty

variable {p : NamedProperty} {m : Method}

/-- A method takes the type of its property, or an element type without type variables. -/
theorem parameter_of_mem_methods (hm : m ∈ p.methods) {q : Parameter} (hq : q ∈ m.parameters) :
    q.type = p.property.type ∨ q.type.occurrences = [] := by
  cases offers_of_mem hm with
  | truthy negated boxed => cases hq
  | equals nullSensitive =>
      rw [List.mem_singleton.mp hq]
      exact Or.inl rfl
  | delegate handle hframework => cases hq
  | contains handle element mode =>
      obtain ⟨-, kind, e, -, hmem, -⟩ := exists_methods_eq_of_contains hm rfl
      obtain ⟨element', mode', -, hclosed, heq⟩ := exists_of_mem_convenience hmem
      rw [heq] at hq
      rw [List.mem_singleton.mp hq]
      exact Or.inr (JavaType.occurrences_of_not_mentionsVariable hclosed)

/-! ## Elements of arrays -/

/-- Only an array of objects is handed out as one. -/
theorem category_of_returns_objectArray {e : JavaType} (hm : m ∈ p.methods)
    (hreturns : m.returns = .handle (.objectArray e)) : p.category = .objectArray e := by
  unfold methods at hm
  split at hm
  case h_8 element hcategory =>
    rw [List.mem_singleton.mp hm] at hreturns
    cases hreturns
    exact hcategory
  case h_1 | h_2 => rcases List.mem_pair.mp hm with rfl | rfl <;> cases hreturns
  case h_10 | h_13 =>
    rcases List.mem_cons.mp hm with rfl | hm
    · cases hreturns
    · obtain ⟨element, mode, -, -, rfl⟩ := exists_of_mem_convenience hm
      cases hreturns
  case h_14 =>
    next k _ _ _ =>
    rw [List.mem_singleton.mp hm] at hreturns
    cases k <;> cases hreturns
  all_goals
    rw [List.mem_singleton.mp hm] at hreturns
    cases hreturns

end NamedProperty

theorem Category.eq_array_of_ofShape? {r : Rule} {u e : JavaType}
    (h : ofShape? r u = some (.objectArray e)) : u = .array e := by
  have hrule : r = .objectArray := (Rule.rule_of_ofShape? h).symm
  subst hrule
  cases u with
  | array f => cases f <;> cases h <;> rfl
  | _ => cases h

/-- A type is an array of objects because it is that array or has it among its supertypes. -/
theorem reaches_of_classify_eq_objectArray {t e : JavaType} (h : classify t = .objectArray e) :
    t.Reaches (.array e) := by
  rcases Rule.exists_wins_or t.chain with ⟨r, hr⟩ | hnone
  · obtain ⟨c, hfirst, hanswer⟩ := hr.classify_eq_withElementFrom
    obtain ⟨u, hu, hshape⟩ := List.exists_of_findSome?_eq_some hfirst
    -- nothing is filled in for an array
    have hc : c = .objectArray e := by
      rw [h] at hanswer
      cases c <;> cases hanswer
      rfl
    rw [hc] at hshape
    rw [← Category.eq_array_of_ofShape? hshape]
    exact JavaType.mem_lineage_iff.mp hu
  · rw [(Rule.classify_of_no_matches hnone).1] at h
    cases h

variable {settings : Settings} {table : LinkTable} {v : ValueType} {s : Subject}

theorem Subject.binds_iff (hs : generate settings table v = .ok s) {n : String} :
    s.Binds n ↔ v.Knows n := by
  rw [eq_assembled_of_generate hs]
  exact ValueType.mem_map_bindings_iff

/-- The bounds are the declared ones: a variable that is only used has none. -/
theorem Subject.exists_bound_iff (hs : generate settings table v = .ok s) {t : JavaType} :
    (∃ b ∈ s.typeParameters, t ∈ b.bounds) ↔ ∃ q ∈ v.typeParameters, t ∈ q.bounds := by
  rw [eq_assembled_of_generate hs]
  exact ValueType.exists_bound_iff

/-- The subject binds all variables in the parameters of its methods. -/
theorem Subject.binds_of_parameter (hs : generate settings table v = .ok s) {m : Method}
    (hm : m ∈ s.methods) {q : Parameter} (hq : q ∈ m.parameters) {n : String}
    (hn : n ∈ q.type.occurrences) : s.Binds n := by
  rw [Subject.binds_iff hs]
  rw [eq_assembled_of_generate hs] at hm
  rcases mem_methods_assembled_iff.mp hm with ⟨p, hp, hlink | hown⟩ | ⟨c, -, hconstant⟩
  · obtain ⟨-, l, -, rfl⟩ := NamedProperty.linkedHandle?_eq_some_iff.mp hlink
    cases hq
  · rcases NamedProperty.parameter_of_mem_methods hown hq with htype | hclosed
    · rw [htype] at hn
      exact Or.inr ⟨p, hp, hn⟩
    · rw [hclosed] at hn
      cases hn
  · obtain ⟨negated, rfl⟩ := mem_constantGroup_methods hconstant
    cases hq

/-- The arrays that are handed out are the properties that are classified as such. -/
theorem Subject.exists_returns_objectArray_iff (hs : generate settings table v = .ok s)
    {e : JavaType} :
    (∃ m ∈ s.methods, m.returns = .handle (.objectArray e)) ↔
      ∃ p ∈ v.properties, classify p.type = .objectArray e := by
  rw [eq_assembled_of_generate hs]
  constructor
  · rintro ⟨m, hm, hreturns⟩
    rcases mem_methods_assembled_iff.mp hm with ⟨p, hp, hlink | hown⟩ | ⟨c, -, hconstant⟩
    · -- a link hands out a subject
      obtain ⟨-, l, -, rfl⟩ := NamedProperty.linkedHandle?_eq_some_iff.mp hlink
      cases hreturns
    · exact ⟨p, hp, NamedProperty.category_of_returns_objectArray hown hreturns⟩
    · obtain ⟨negated, rfl⟩ := mem_constantGroup_methods hconstant
      cases hreturns
  · rintro ⟨p, hp, hcategory⟩
    have hcategory' : p.named.category = .objectArray e := hcategory
    have hown : p.named.delegate (.objectArray e) ∈ p.named.methods := by
      simp [NamedProperty.methods, hcategory']
    exact ⟨_, mem_methods_assembled_iff.mpr (Or.inl ⟨p, hp, Or.inr hown⟩), rfl⟩

/-- **Which type variables a subject leaves unbound.** A subject binds the variables that its value type
declares or uses in the type of a property, and with them all variables in the parameters of its
methods. Unbound are exactly the others in the declared bounds, and those in the element of an array
that a property's type is not itself but has among its supertypes. -/
theorem unbound_variables_iff (settings : Settings) (table : LinkTable) {v : ValueType} {s : Subject}
    (hs : generate settings table v = .ok s) (n : String) :
    (s.Binds n ↔ v.Knows n) ∧
      (∀ m ∈ s.methods, ∀ q ∈ m.parameters, n ∈ q.type.occurrences → s.Binds n) ∧
      (s.Unbound n ↔ ¬ v.Knows n ∧
        ((∃ q ∈ v.typeParameters, ∃ t ∈ q.bounds, n ∈ t.occurrences) ∨
          ∃ p ∈ v.properties, ∃ e, classify p.type = .objectArray e ∧
            (∃ u ∈ p.type.supertypes, u.Reaches (.array e)) ∧ n ∈ e.occurrences)) := by
  have hknows : s.Binds n ↔ v.Knows n := Subject.binds_iff hs
  have hbinds : ∀ m ∈ s.methods, ∀ q ∈ m.parameters, n ∈ q.type.occurrences → s.Binds n :=
    fun m hm q hq hn => Subject.binds_of_parameter hs hm hq hn
  refine ⟨hknows, hbinds, ?_⟩
  rw [Subject.Unbound, hknows, and_comm]
  refine and_congr_right fun hunknown => ?_
  constructor
  · rintro ⟨t, hmentions, hn⟩
    cases hmentions with
    | bound hb ht =>
        obtain ⟨q, hq, hbound⟩ := (Subject.exists_bound_iff hs).mp ⟨_, hb, ht⟩
        exact Or.inl ⟨q, hq, t, hbound, hn⟩
    | parameter hm hq => exact absurd (hknows.mp (hbinds _ hm _ hq hn)) hunknown
    | element hm hreturns =>
        obtain ⟨p, hp, hcategory⟩ :=
          (Subject.exists_returns_objectArray_iff hs).mp ⟨_, hm, hreturns⟩
        rcases (reaches_of_classify_eq_objectArray hcategory).eq_or_supertype with hself | habove
        · -- the variables of an array are those of its element, and the property uses them
          rw [← JavaType.occurrences_array, hself] at hn
          exact absurd (Or.inr ⟨p, hp, hn⟩) hunknown
        · exact Or.inr ⟨p, hp, t, hcategory, habove, hn⟩
  · rintro (⟨q, hq, t, ht, hn⟩ | ⟨p, hp, e, hcategory, -, hn⟩)
    · obtain ⟨b, hb, hbound⟩ := (Subject.exists_bound_iff hs).mpr ⟨q, hq, ht⟩
      exact ⟨t, .bound hb hbound, hn⟩
    · obtain ⟨m, hm, hreturns⟩ := (Subject.exists_returns_objectArray_iff hs).mpr ⟨p, hp, hcategory⟩
      exact ⟨e, .element hm hreturns, hn⟩

/-! ## Unbound variables -/

namespace Sample

/-- `Outer<U>.Inner<T extends Comparable<U>>` with a value of type `T`. -/
def inner : ValueType :=
  ⟨"Inner", "com.example", ["Outer"], [getter "getValue" (.typeVariable "T")],
    [⟨"T", [.declared "java.lang" "Comparable" [.typeVariable "U"] []]⟩], []⟩

/-- A property of a type without type arguments that is an array by its supertype. -/
def roll : ValueType :=
  valueType "Roll" [getter "getNames" (.declared "com.example" "Names" [] [.array (.typeVariable "E")])]

theorem generate_inner : generate Settings.standard [] inner = .ok (unlinked inner) := by
  decide +kernel

theorem generate_roll : generate Settings.standard [] roll = .ok (unlinked roll) := by
  decide +kernel

end Sample

/-- The subject of `Inner` binds `T` and leaves `U` unbound. -/
theorem unbound_variables_iff_inner :
    generate Settings.standard [] Sample.inner = .ok (Sample.unlinked Sample.inner) ∧
      (Sample.unlinked Sample.inner).Binds "T" ∧ (Sample.unlinked Sample.inner).Unbound "U" := by
  have hT := unbound_variables_iff Settings.standard [] Sample.generate_inner "T"
  have hU := unbound_variables_iff Settings.standard [] Sample.generate_inner "U"
  have hunknown : ¬ Sample.inner.Knows "U" := by decide
  have hbound : ∃ q ∈ Sample.inner.typeParameters, ∃ t ∈ q.bounds, "U" ∈ t.occurrences := by decide
  exact ⟨Sample.generate_inner, hT.1.mpr (by decide),
    hU.2.2.mpr ⟨hunknown, Or.inl hbound⟩⟩

/-- No type variable is unbound, whatever subject the value type gets. -/
def VariablesBound (settings : Settings) (table : LinkTable) (v : ValueType) : Prop :=
  ∀ s, generate settings table v = .ok s → ∀ n, ¬ s.Unbound n

/-- `U` is unbound in the subject of `Inner`, and `E` in that of `Roll`. -/
theorem not_variablesBound :
    ¬ VariablesBound Settings.standard [] Sample.inner ∧
      ¬ VariablesBound Settings.standard [] Sample.roll := by
  constructor
  · intro h
    have hbinding : ⟨"T", [.declared "java.lang" "Comparable" [.typeVariable "U"] []], false⟩ ∈
        (Sample.unlinked Sample.inner).typeParameters := by decide +kernel
    have hmentions := Subject.Mentions.bound hbinding (List.mem_singleton_self _)
    have hunbound : ¬ (Sample.unlinked Sample.inner).Binds "U" := by decide +kernel
    exact h _ Sample.generate_inner "U" ⟨⟨_, hmentions, by decide⟩, hunbound⟩
  · intro h
    have hhandle : (Sample.getter "getNames" (.declared "com.example" "Names" []
        [.array (.typeVariable "E")])).named.delegate (.objectArray (.typeVariable "E")) ∈
          (Sample.unlinked Sample.roll).methods := by decide +kernel
    have hmentions := Subject.Mentions.element hhandle rfl
    have hunbound : ¬ (Sample.unlinked Sample.roll).Binds "E" := by decide +kernel
    exact h _ Sample.generate_roll "E" ⟨⟨_, hmentions, by decide⟩, hunbound⟩

end AssertionGen
