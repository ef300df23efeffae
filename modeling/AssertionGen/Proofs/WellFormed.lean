import AssertionGen.Proofs.Linkage
/-!
# Well-formed methods

What a method does, takes, hands out and reports are four fields that could contradict each other.
Two consumers rely on it that they do not: the one that writes the method as Java, and the one that
runs it on a value. `Method.WellFormed` says how the fields agree with the body, and
`MethodGroup.WellFormed` how the methods of one group agree with the property that the group stands
for.

The four forms of `NamedProperty.Offers` and the constants are well formed by their making. That a
containment stands behind a handle of its own kind is no matter of forms: it is read off the
category, and a link in front of the group only moves it along.
-/

namespace AssertionGen

/-! ## What goes with a body -/

/-- The text that reads a property is decided by its accessor alone. -/
def Property.access (p : Property) : Access := ⟨p.accessor, accessText p.accessor p.kind⟩

namespace Body

/-- How a body gets at the property; a comparison with a constant reads none. -/
def access? : Body → Option Access
  | truthy a _ _ | equals a _ _ | delegate a _ _ | contains a _ _ => some a
  | constant _ _ => none

/-- The type of the property, if the body keeps it. -/
def type? : Body → Option JavaType
  | equals _ t _ | delegate _ t _ => some t
  | truthy _ _ _ | contains _ _ _ | constant _ _ => none

/-- The failures that go with a body: a display name is the text that reads the property. -/
inductive FailsWith : Body → FailureText → Prop where
  | truthy (a : Access) (negated boxed : Bool) (sentence : String) :
      FailsWith (.truthy a negated boxed) (.fact sentence)
  | equals (a : Access) (t : JavaType) (nullSensitive : Bool) :
      FailsWith (.equals a t nullSensitive) (.comparison a.expression)
  | delegate (a : Access) (t : JavaType) (h : HandleKind) :
      FailsWith (.delegate a t h) (.delegated a.expression)
  | contains (a : Access) (h : HandleKind) (mode : Containment) :
      FailsWith (.contains a h mode) (.delegated a.expression)
  | constant (c : String) (negated : Bool) (sentence : String) :
      FailsWith (.constant c negated) (.fact sentence)

theorem FailsWith.exists_fact_of_constant {c : String} {negated : Bool} {f : FailureText}
    (h : FailsWith (.constant c negated) f) : ∃ s, f = .fact s := by
  cases h with
  | constant _ _ s => exact ⟨s, rfl⟩

/-- The parameters that go with a body. -/
inductive Takes : Body → List Parameter → Prop where
  | truthy (a : Access) (negated boxed : Bool) : Takes (.truthy a negated boxed) []
  | equals (a : Access) (t : JavaType) (nullSensitive : Bool) {q : Parameter} (htype : q.type = t)
      (hone : q.varargs = false) : Takes (.equals a t nullSensitive) [q]
  | delegate (a : Access) (t : JavaType) (h : HandleKind) : Takes (.delegate a t h) []
  | contains (a : Access) (h : HandleKind) (mode : Containment) {q : Parameter}
      (hmany : q.varargs = true) : Takes (.contains a h mode) [q]
  | constant (c : String) (negated : Bool) : Takes (.constant c negated) []

end Body

/-- The fields of a method agree with its body. -/
structure Method.WellFormed (m : Method) : Prop where
  /-- A method hands out a handle exactly if that is what it does. -/
  handle : ∀ h, m.returns = .handle h ↔ ∃ a t, m.body = .delegate a t h
  failure : m.body.FailsWith m.failure
  parameters : m.body.Takes m.parameters

/-- The methods of a group agree with the property it stands for; a group of a constant stands for
none. -/
structure MethodGroup.WellFormed (property? : Option Property) (g : MethodGroup) : Prop where
  methods : ∀ m ∈ g.methods, m.WellFormed
  access : ∀ m ∈ g.methods, m.body.access? = property?.map Property.access
  type : ∀ m ∈ g.methods, ∀ t, m.body.type? = some t → property?.map Property.type = some t
  /-- Before a containment, the group has a handle of the kind on which it is asserted. -/
  contains : ∀ (i : Nat) (m : Method) (a : Access) (h : HandleKind) (mode : Containment),
    g.methods[i]? = some m → m.body = .contains a h mode →
      ∃ j < i, ∃ (d : Method) (b : Access) (t : JavaType),
        g.methods[j]? = some d ∧ d.body = .delegate b t h

/-! ## The forms -/

namespace NamedProperty

variable {p : NamedProperty} {m : Method}

theorem truthy_wellFormed (p : NamedProperty) (negated boxed : Bool) :
    (p.truthy negated boxed).WellFormed where
  handle _ := by simp [truthy]
  failure := .truthy p.access negated boxed _
  parameters := .truthy p.access negated boxed

theorem equals_wellFormed (p : NamedProperty) (nullSensitive : Bool) :
    (p.equals nullSensitive).WellFormed where
  handle _ := by simp [equals]
  failure := .equals p.access p.property.type nullSensitive
  parameters := .equals p.access p.property.type nullSensitive rfl rfl

theorem delegate_wellFormed (p : NamedProperty) (h : HandleKind) : (p.delegate h).WellFormed where
  handle k := by simp [delegate]
  failure := .delegate p.access p.property.type h
  parameters := .delegate p.access p.property.type h

theorem contains_wellFormed (p : NamedProperty) (h : HandleKind) (element : JavaType)
    (mode : Containment) : (p.contains h element mode).WellFormed where
  handle _ := by simp [contains]
  failure := .contains p.access h mode
  parameters := .contains p.access h mode rfl

theorem Offers.wellFormed (h : p.Offers m) : m.WellFormed := by
  cases h with
  | truthy negated boxed => exact truthy_wellFormed p negated boxed
  | equals nullSensitive => exact equals_wellFormed p nullSensitive
  | delegate handle hframework => exact delegate_wellFormed p handle
  | contains handle element mode => exact contains_wellFormed p handle element mode

theorem Offers.access?_body (h : p.Offers m) : m.body.access? = some p.access := by
  cases h <;> rfl

theorem Offers.type_of_type?_body (h : p.Offers m) {t : JavaType} (ht : m.body.type? = some t) :
    t = p.property.type := by
  cases h with
  | truthy negated boxed => cases ht
  | equals nullSensitive => exact (Option.some.inj ht).symm
  | delegate handle hframework => exact (Option.some.inj ht).symm
  | contains handle element mode => cases ht

/-! ## A containment stands behind its handle -/

theorem handle_of_mem_convenience {handle h : HandleKind} {e : Option JavaType} {a : Access}
    {mode : Containment} (hm : m ∈ p.convenience handle e) (hbody : m.body = .contains a h mode) :
    handle = h := by
  obtain ⟨element, mode', -, -, rfl⟩ := exists_of_mem_convenience hm
  cases hbody
  rfl

theorem head?_methods_of_contains {a : Access} {h : HandleKind} {mode : Containment}
    (hm : m ∈ p.methods) (hbody : m.body = .contains a h mode) :
    p.methods.head? = some (p.delegate h) := by
  obtain ⟨-, handle, e, -, hmem, hmethods⟩ := exists_methods_eq_of_contains hm hbody
  rw [hmethods, List.head?_cons, handle_of_mem_convenience hmem hbody]

/-- A link in front moves the handle and the containment by the same number of places. -/
theorem exists_handle_before (p : NamedProperty) {table : LinkTable} {i : Nat} {a : Access}
    {h : HandleKind} {mode : Containment} (hi : (p.group table).methods[i]? = some m)
    (hbody : m.body = .contains a h mode) :
    ∃ j < i, (p.group table).methods[j]? = some (p.delegate h) := by
  set link := (p.linkedHandle? table).toList with hlink
  have hmethods : (p.group table).methods = link ++ p.methods := rfl
  rw [hmethods] at hi ⊢
  have hbehind : link.length ≤ i := by
    by_contra hlt
    rw [List.getElem?_append_left (by omega)] at hi
    have hmem := List.mem_of_getElem? hi
    rw [hlink, Option.mem_toList] at hmem
    obtain ⟨-, l, -, rfl⟩ := linkedHandle?_eq_some_iff.mp hmem
    cases hbody
  rw [List.getElem?_append_right hbehind] at hi
  have hfirst : p.methods[0]? = some (p.delegate h) :=
    List.head?_eq_getElem?.symm.trans (head?_methods_of_contains (List.mem_of_getElem? hi) hbody)
  have hne : i - link.length ≠ 0 := by
    intro hzero
    rw [hzero, hfirst] at hi
    cases hi
    cases hbody
  refine ⟨link.length, by omega, ?_⟩
  rw [List.getElem?_append_right (Nat.le_refl _), Nat.sub_self, hfirst]

end NamedProperty

/-! ## Groups -/

theorem constantMethod_wellFormed (c : String) (negated : Bool) :
    (constantMethod c negated).WellFormed where
  handle _ := by simp [constantMethod]
  failure := .constant c negated _
  parameters := .constant c negated

theorem constantGroup_wellFormed (c : String) : (constantGroup c).WellFormed none where
  methods m hm := by
    obtain ⟨negated, rfl⟩ := mem_constantGroup_methods hm
    exact constantMethod_wellFormed c negated
  access m hm := by
    obtain ⟨negated, rfl⟩ := mem_constantGroup_methods hm
    rfl
  type m hm t ht := by
    obtain ⟨negated, rfl⟩ := mem_constantGroup_methods hm
    cases ht
  contains i m a h mode hi hbody := by
    obtain ⟨negated, rfl⟩ := mem_constantGroup_methods (List.mem_of_getElem? hi)
    cases hbody

variable {table : LinkTable} {p : Property} {m : Method}

/-- A link has the form of any other handle of the property. -/
theorem Property.link_or_offers (hm : m ∈ (p.named.group table).methods) :
    (∃ h, m = p.named.delegate h) ∨ p.named.Offers m := by
  rcases NamedProperty.mem_group_methods_iff.mp hm with hlink | hown
  · obtain ⟨-, l, -, rfl⟩ := NamedProperty.linkedHandle?_eq_some_iff.mp hlink
    exact Or.inl ⟨l.handle, rfl⟩
  · exact Or.inr (NamedProperty.offers_of_mem hown)

theorem Property.group_wellFormed (table : LinkTable) (p : Property) :
    (p.named.group table).WellFormed (some p) where
  methods m hm := by
    rcases p.link_or_offers hm with ⟨h, rfl⟩ | hoffers
    · exact p.named.delegate_wellFormed h
    · exact hoffers.wellFormed
  access m hm := by
    rcases p.link_or_offers hm with ⟨h, rfl⟩ | hoffers
    · rfl
    · exact hoffers.access?_body
  type m hm t ht := by
    rcases p.link_or_offers hm with ⟨h, rfl⟩ | hoffers
    · exact ht
    · rw [hoffers.type_of_type?_body ht]
      rfl
  contains i m a h mode hi hbody := by
    obtain ⟨j, hj, hdelegate⟩ := p.named.exists_handle_before hi hbody
    exact ⟨j, hj, p.named.delegate h, p.access, p.type, hdelegate, rfl⟩

/-- A group of a reported subject agrees with the property at its place, if there is one. -/
theorem group_wellFormed_of_mem_subjects {settings : Settings} {batch : List ValueType} {s : Subject}
    (hs : s ∈ (generateBatch settings batch).subjects) {k : Nat} {g : MethodGroup}
    (hg : s.groups[k]? = some g) : g.WellFormed s.valueType.properties[k]? := by
  obtain ⟨hassembled, -⟩ := eq_assembled_of_mem_subjects hs
  rw [hassembled] at hg
  cases hp : s.valueType.properties[k]? with
  | some p =>
      rw [groups_assembled_of_property hp] at hg
      rw [← Option.some.inj hg]
      exact p.group_wellFormed _
  | none =>
      rcases group_assembled_cases hg with ⟨p, hsome, -⟩ | ⟨c, -, rfl⟩
      · rw [hp] at hsome
        cases hsome
      · exact constantGroup_wellFormed c

theorem Subject.exists_group_of_mem_methods {s : Subject} {m : Method} (hm : m ∈ s.methods) :
    ∃ (k : Nat) (g : MethodGroup), s.groups[k]? = some g ∧ m ∈ g.methods := by
  obtain ⟨g, hg, hmem⟩ := List.mem_flatMap.mp hm
  obtain ⟨k, hk⟩ := List.mem_iff_getElem?.mp hg
  exact ⟨k, g, hk, hmem⟩

/-- Every method of a reported subject is well formed. -/
theorem wellFormed_of_mem_methods {settings : Settings} {batch : List ValueType} {s : Subject}
    (hs : s ∈ (generateBatch settings batch).subjects) {m : Method} (hm : m ∈ s.methods) :
    m.WellFormed := by
  obtain ⟨k, g, hg, hmem⟩ := s.exists_group_of_mem_methods hm
  exact (group_wellFormed_of_mem_subjects hs hg).methods m hmem

end AssertionGen
