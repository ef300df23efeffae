import AssertionGen.Proofs.Classification
import AssertionGen.Proofs.Methods
/-!
# When a subject is generated

`generate` makes three checks: every property's type must classify, the base names must be pairwise
distinct, and so must the names of all methods, the static ones included. `Generated` lists the four
ways in which this can end, each with all that was found before, and `generated_generate` says that
`generate` ends in one of them. Everything about a generation is read off that relation.

The subject itself does not depend on how the checks went: it is `ValueType.assembled`, made of the
properties under the names that either classifier gives them.
-/

namespace AssertionGen

/-! ## Properties and their types -/

/-- The strict classifier gives the property's type a category. -/
def Property.Unambiguous (p : Property) : Prop := ∃ c, classifyStrict p.type = .ok c

/-- The property under the names that its category gives it. -/
def Property.named (p : Property) : NamedProperty := NamedProperty.of p (classify p.type)

theorem Property.named_of_classifyStrict {p : Property} {c : Category}
    (h : classifyStrict p.type = .ok c) : p.named = NamedProperty.of p c := by
  rw [named, classify_of_classifyStrict h]

/-- Either all properties are unambiguous, or there is a first one that is not. -/
theorem Property.unambiguous_or_first (ps : List Property) :
    (∀ p ∈ ps, p.Unambiguous) ∨
      ∃ before p after a, ps = before ++ p :: after ∧ (∀ x ∈ before, x.Unambiguous) ∧
        classifyStrict p.type = .error a := by
  induction ps with
  | nil => exact Or.inl (by simp)
  | cons q qs ih =>
      cases hq : classifyStrict q.type with
      | error a => exact Or.inr ⟨[], q, qs, a, rfl, by simp, hq⟩
      | ok c =>
          rcases ih with hall | ⟨before, p, after, a, rfl, hbefore, hp⟩
          · exact Or.inl (List.forall_mem_cons.mpr ⟨⟨c, hq⟩, hall⟩)
          · exact Or.inr ⟨q :: before, p, after, a, rfl,
              List.forall_mem_cons.mpr ⟨⟨c, hq⟩, hbefore⟩, hp⟩

namespace ValueType

theorem namedProperties_of_unambiguous {owner : String} {ps : List Property}
    (h : ∀ p ∈ ps, p.Unambiguous) :
    namedProperties owner ps = .ok (ps.map Property.named) := by
  induction ps with
  | nil => rfl
  | cons p ps ih =>
      obtain ⟨⟨c, hc⟩, hps⟩ := List.forall_mem_cons.mp h
      rw [namedProperties]
      simp only [hc, ih hps, List.map_cons, Property.named_of_classifyStrict hc]
      rfl

theorem namedProperties_of_ambiguous {owner : String} {before after : List Property} {p : Property}
    {a : Ambiguity} (hbefore : ∀ x ∈ before, x.Unambiguous) (hp : classifyStrict p.type = .error a) :
    namedProperties owner (before ++ p :: after) =
      .error (.ambiguous owner p.accessor a.candidates) := by
  induction before with
  | nil =>
      rw [List.nil_append, namedProperties]
      simp only [hp]
  | cons x xs ih =>
      obtain ⟨⟨c, hc⟩, hxs⟩ := List.forall_mem_cons.mp hbefore
      rw [List.cons_append, namedProperties]
      simp only [hc, ih hxs]
      rfl

/-! ## The names that are checked, and the subject -/

/-- The base names of the properties, each with the accessor that owns it. -/
def baseNames (v : ValueType) : List (String × String) :=
  (v.properties.map Property.named).map fun p => (p.name.base, p.property.accessor)

/-- The subject of a value type, whether or not its names are good. -/
def assembled (settings : Settings) (table : LinkTable) (v : ValueType) : Subject :=
  Subject.ofProperties settings table v (v.properties.map Property.named)

/-- The names of the static and of all other methods of the subject, each with its owner. -/
def methodNames (settings : Settings) (table : LinkTable) (v : ValueType) : List (String × String) :=
  (v.assembled settings table).ownedNames settings

end ValueType

/-! ## The four ends of a generation -/

/-- How the generation of a value type can end. -/
inductive Generated (settings : Settings) (table : LinkTable) (v : ValueType) :
    Except GenerationError Subject → Prop where
  /-- A first property has an ambiguous type. -/
  | ambiguous {before after : List Property} {p : Property} {a : Ambiguity}
      (hproperties : v.properties = before ++ p :: after)
      (hbefore : ∀ x ∈ before, x.Unambiguous) (hp : classifyStrict p.type = .error a) :
      Generated settings table v (.error (.ambiguous v.qualifiedName p.accessor a.candidates))
  /-- Two properties have one base name. -/
  | baseClash {c : Clash} (htypes : ∀ p ∈ v.properties, p.Unambiguous)
      (hbase : clash? v.baseNames = some c) :
      Generated settings table v (.error (.collision v.qualifiedName c))
  /-- Two methods have one name. -/
  | methodClash {c : Clash} (htypes : ∀ p ∈ v.properties, p.Unambiguous)
      (hbase : clash? v.baseNames = none) (hmethods : clash? (v.methodNames settings table) = some c) :
      Generated settings table v (.error (.collision v.qualifiedName c))
  /-- All names are good. -/
  | subject (htypes : ∀ p ∈ v.properties, p.Unambiguous) (hbase : clash? v.baseNames = none)
      (hmethods : clash? (v.methodNames settings table) = none) :
      Generated settings table v (.ok (v.assembled settings table))

variable {settings : Settings} {table : LinkTable} {v : ValueType}

theorem checkNames_of_clash {owner : String} {names : List (String × String)} {c : Clash}
    (h : clash? names = some c) : checkNames owner names = .error (.collision owner c) := by
  simp only [checkNames, h]

theorem checkNames_of_distinct {owner : String} {names : List (String × String)}
    (h : clash? names = none) : checkNames owner names = .ok () := by
  simp only [checkNames, h]

/-- With all types classified, what remains are the two checks of names. -/
theorem generate_of_unambiguous (htypes : ∀ p ∈ v.properties, p.Unambiguous) :
    generate settings table v = (do
      checkNames v.qualifiedName v.baseNames
      checkNames v.qualifiedName (v.methodNames settings table)
      return v.assembled settings table) := by
  rw [generate, ValueType.namedProperties_of_unambiguous htypes]
  rfl

theorem generate_of_ambiguous {before after : List Property} {p : Property} {a : Ambiguity}
    (hproperties : v.properties = before ++ p :: after) (hbefore : ∀ x ∈ before, x.Unambiguous)
    (hp : classifyStrict p.type = .error a) :
    generate settings table v = .error (.ambiguous v.qualifiedName p.accessor a.candidates) := by
  rw [generate, hproperties, ValueType.namedProperties_of_ambiguous hbefore hp]
  rfl

theorem generated_generate (settings : Settings) (table : LinkTable) (v : ValueType) :
    Generated settings table v (generate settings table v) := by
  -- the checks are taken in their order; each one that passes is a premise of the ends after it
  rcases Property.unambiguous_or_first v.properties with
    htypes | ⟨before, p, after, a, hproperties, hbefore, hp⟩
  · rw [generate_of_unambiguous htypes]
    cases hbase : clash? v.baseNames with
    | some c =>
        rw [checkNames_of_clash hbase]
        exact .baseClash htypes hbase
    | none =>
        rw [checkNames_of_distinct hbase]
        cases hmethods : clash? (v.methodNames settings table) with
        | some c =>
            rw [checkNames_of_clash hmethods]
            exact .methodClash htypes hbase hmethods
        | none =>
            rw [checkNames_of_distinct hmethods]
            exact .subject htypes hbase hmethods
  · rw [generate_of_ambiguous hproperties hbefore hp]
    exact .ambiguous hproperties hbefore hp

/-- The exact condition of success, and what is then generated. -/
theorem generate_eq_ok_iff {s : Subject} :
    generate settings table v = .ok s ↔
      (∀ p ∈ v.properties, p.Unambiguous) ∧ (v.baseNames.map Prod.fst).Nodup ∧
        ((v.methodNames settings table).map Prod.fst).Nodup ∧ v.assembled settings table = s := by
  have hend := generated_generate settings table v
  constructor
  · intro h
    rw [h] at hend
    cases hend with
    | subject htypes hbase hmethods =>
        exact ⟨htypes, clash?_eq_none_iff.mp hbase, clash?_eq_none_iff.mp hmethods, rfl⟩
  · rintro ⟨htypes, hbase, hmethods, rfl⟩
    generalize generate settings table v = result at hend
    cases hend with
    | @ambiguous before after p a hproperties hbefore hp =>
        obtain ⟨c, hc⟩ := htypes p (by rw [hproperties]; simp)
        rw [hp] at hc
        cases hc
    | baseClash _ hclash =>
        rw [clash?_eq_none_iff.mpr hbase] at hclash
        cases hclash
    | methodClash _ _ hclash =>
        rw [clash?_eq_none_iff.mpr hmethods] at hclash
        cases hclash
    | subject => rfl

theorem eq_assembled_of_generate {s : Subject} (h : generate settings table v = .ok s) :
    s = v.assembled settings table :=
  (generate_eq_ok_iff.mp h).2.2.2.symm

/-- A failure carries the qualified name of the value type that failed. -/
theorem valueType_of_generate_eq_error {e : GenerationError}
    (h : generate settings table v = .error e) : e.valueType = v.qualifiedName := by
  have hend := generated_generate settings table v
  rw [h] at hend
  cases hend <;> rfl

/-! ## The names in a subject -/

theorem mem_methods_assembled_iff {m : Method} :
    m ∈ (v.assembled settings table).methods ↔
      (∃ p ∈ v.properties, p.named.linkedHandle? table = some m ∨ m ∈ p.named.methods) ∨
        ∃ c ∈ v.enumConstants, m ∈ (constantGroup c).methods := by
  simp only [Subject.methods, ValueType.assembled, Subject.ofProperties, List.flatMap_append,
    List.mem_append, List.mem_flatMap, List.mem_map, exists_exists_and_eq_and,
    NamedProperty.mem_group_methods_iff]

theorem name_notMem_of_mem_assembled {m : Method} (h : m ∈ (v.assembled settings table).methods) :
    m.name ∉ reservedWords := by
  rcases mem_methods_assembled_iff.mp h with ⟨p, -, hlink | hm⟩ | ⟨c, -, hm⟩
  · obtain ⟨-, l, -, rfl⟩ := NamedProperty.linkedHandle?_eq_some_iff.mp hlink
    exact escapeReserved_notMem p.named.name.base
  · exact (NamedProperty.offers_of_mem hm).name_notMem
  · obtain ⟨negated, rfl⟩ := mem_constantGroup_methods hm
    exact constantMethod_name_notMem c negated

/-- **The exact outcome of one generation.** It succeeds if and only if every property's type
classifies, the base names are pairwise distinct, and so are the factory, `assertThat` and all
method names together; no name of the subject is then a reserved word. An ambiguity is that of the
first ambiguous property. A collision is the first repetition in the first of the two lists of names
that has one. -/
theorem generate_outcome (settings : Settings) (table : LinkTable) (v : ValueType) :
    ((∃ s, generate settings table v = .ok s) ↔
      (∀ p ∈ v.properties, ∃ c, classifyStrict p.type = .ok c) ∧
        (v.baseNames.map Prod.fst).Nodup ∧ ((v.methodNames settings table).map Prod.fst).Nodup) ∧
    (∀ s, generate settings table v = .ok s →
      s = v.assembled settings table ∧ settings.factoryName s.valueType ∉ reservedWords ∧
        ∀ m ∈ s.methods, m.name ∉ reservedWords) ∧
    (∀ owner accessor candidates,
      generate settings table v = .error (.ambiguous owner accessor candidates) →
        owner = v.qualifiedName ∧ ∃ before p after a, v.properties = before ++ p :: after ∧
          (∀ x ∈ before, ∃ c, classifyStrict x.type = .ok c) ∧
          classifyStrict p.type = .error a ∧ p.accessor = accessor ∧ a.candidates = candidates) ∧
    (∀ owner c, generate settings table v = .error (.collision owner c) →
      owner = v.qualifiedName ∧ ∃ names,
        (names = v.baseNames ∨
          (v.baseNames.map Prod.fst).Nodup ∧ names = v.methodNames settings table) ∧
        ∃ i j, c.StandsAt names i j) := by
  refine ⟨⟨?_, ?_⟩, ?_, ?_, ?_⟩
  · rintro ⟨s, hs⟩
    obtain ⟨htypes, hbase, hmethods, -⟩ := generate_eq_ok_iff.mp hs
    exact ⟨htypes, hbase, hmethods⟩
  · rintro ⟨htypes, hbase, hmethods⟩
    exact ⟨_, generate_eq_ok_iff.mpr ⟨htypes, hbase, hmethods, rfl⟩⟩
  · intro s hs
    have hassembled := eq_assembled_of_generate hs
    subst hassembled
    exact ⟨rfl, escapeReserved_notMem _, fun m hm => name_notMem_of_mem_assembled hm⟩
  · intro owner accessor candidates h
    have hend := generated_generate settings table v
    rw [h] at hend
    cases hend with
    | ambiguous hproperties hbefore hp =>
        exact ⟨rfl, _, _, _, _, hproperties, hbefore, hp, rfl, rfl⟩
  · intro owner c h
    have hend := generated_generate settings table v
    rw [h] at hend
    cases hend with
    | baseClash htypes hbase => exact ⟨rfl, _, Or.inl rfl, clash?_eq_some hbase⟩
    | methodClash htypes hbase hmethods =>
        exact ⟨rfl, _, Or.inr ⟨clash?_eq_none_iff.mp hbase, rfl⟩, clash?_eq_some hmethods⟩

end AssertionGen
