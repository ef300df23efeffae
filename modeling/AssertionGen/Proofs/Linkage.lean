import AssertionGen.Proofs.Settlement
import Mathlib.Data.List.Nodup
/-!
# Links in a report

A subject may hand out the subject of another value type of its batch. Two questions decide whether
the table behind these links is right, and both are about the report as a whole:

* soundness (`subject_handles_are_reported`): a handle for another subject always leads to a subject
  of the same report, with its unit, and no value type of that name has failed;
* completeness (`LinksAllReported`): a property whose type has its subject in the report has the
  handle for it. This fails (`not_linksAllReported`). Names are taken off the table so that nothing
  links to a subject that is not reported, but a value type that fails only for a link of its own is
  taken off with the others, and is not listed again when it is generated without that link.

What is missed can be told exactly: the handle is there if and only if the value type is generated
already while all others are linked (`handle_iff_generated_at_once`). Both parts rest on
`get?_settledTable`.
-/

namespace AssertionGen

variable {settings : Settings} {batch : List ValueType} {table : LinkTable} {v : ValueType}

/-! ## Reports -/

theorem mem_filterMap_results {α : Type} {f : Except GenerationError Subject → Option α} {a : α} :
    a ∈ (batchResults settings batch).filterMap f ↔
      ∃ v ∈ batch, f (generate settings (settledTable settings batch) v) = some a := by
  simp only [batchResults, generateAll, List.mem_filterMap, List.mem_map, exists_exists_and_eq_and]

theorem mem_subjects_iff {s : Subject} :
    s ∈ (generateBatch settings batch).subjects ↔
      ∃ v ∈ batch, generate settings (settledTable settings batch) v = .ok s := by
  show s ∈ generatedSubjects (batchResults settings batch) ↔ _
  rw [generatedSubjects, mem_filterMap_results]
  refine exists_congr fun v => and_congr_right fun _ => ?_
  cases generate settings (settledTable settings batch) v <;> simp

theorem mem_failures_iff {e : GenerationError} :
    e ∈ (generateBatch settings batch).failures ↔
      ∃ v ∈ batch, generate settings (settledTable settings batch) v = .error e := by
  show e ∈ generationFailures (batchResults settings batch) ↔ _
  rw [generationFailures, mem_filterMap_results]
  refine exists_congr fun v => and_congr_right fun _ => ?_
  cases generate settings (settledTable settings batch) v <;> simp

theorem units_generateBatch (settings : Settings) (batch : List ValueType) :
    (generateBatch settings batch).units =
      (generateBatch settings batch).subjects.map (Java.SourceUnit.ofSubject settings) :=
  rfl

/-- A reported subject is the assembled subject of some value type of the batch. -/
theorem eq_assembled_of_mem_subjects {s : Subject} (hs : s ∈ (generateBatch settings batch).subjects) :
    s = s.valueType.assembled settings (settledTable settings batch) ∧ s.valueType ∈ batch := by
  obtain ⟨v, hv, hresult⟩ := mem_subjects_iff.mp hs
  have hassembled := eq_assembled_of_generate hresult
  subst hassembled
  exact ⟨rfl, hv⟩

/-! ## The table of the whole batch -/

/-- The handle for the subject of a value type. -/
def Subject.handle (settings : Settings) (s : Subject) : HandleKind :=
  .subject s.valueType.package s.name (settings.factoryName s.valueType)

namespace LinkTable

theorem exists_of_get?_ofBatch {name : String} {l : LinkedSubject}
    (h : Entries.get? (ofBatch settings batch) name = some l) :
    ∃ v ∈ batch, v.typeParameters = [] ∧ v.qualifiedName = name ∧ (entry settings v).2 = l := by
  obtain ⟨v, hv, hentry⟩ := List.mem_map.mp (Entries.mem_of_get?_ofList h)
  obtain ⟨hmem, hplain⟩ := List.mem_filter.mp hv
  refine ⟨v, hmem, ?_, congrArg Prod.fst hentry, congrArg Prod.snd hentry⟩
  simpa [ValueType.isGeneric] using hplain

/-- The names that are put on the table are distinct if those of the batch are. -/
theorem nodup_keys_entries (hdistinct : (batch.map ValueType.qualifiedName).Nodup) :
    (((batch.filter fun v => !v.isGeneric).map (entry settings)).map Prod.fst).Nodup := by
  have hkeys : ((batch.filter fun v => !v.isGeneric).map (entry settings)).map Prod.fst =
      (batch.filter fun v => !v.isGeneric).map ValueType.qualifiedName := by
    rw [List.map_map]
    rfl
  rw [hkeys]
  exact hdistinct.sublist (List.filter_sublist.map _)

theorem get?_ofBatch_of_mem (hdistinct : (batch.map ValueType.qualifiedName).Nodup) (hv : v ∈ batch)
    (hplain : v.typeParameters = []) :
    Entries.get? (ofBatch settings batch) v.qualifiedName = some (entry settings v).2 := by
  refine Entries.get?_ofList_of_mem (nodup_keys_entries hdistinct) ?_
  refine List.mem_map.mpr ⟨v, List.mem_filter.mpr ⟨hv, ?_⟩, rfl⟩
  simp [ValueType.isGeneric, hplain]

/-- With distinct names, a value type is refused if it fails itself. -/
theorem refuses_iff_of_mem (hdistinct : (batch.map ValueType.qualifiedName).Nodup) (hv : v ∈ batch) :
    table.Refuses settings batch v.qualifiedName ↔ ¬ ∃ s, generate settings table v = .ok s := by
  rw [refuses_iff]
  constructor
  · rintro ⟨w, hw, hname, hfail⟩
    rwa [← List.inj_on_of_nodup_map hdistinct hw hv hname]
  · intro hfail
    exact ⟨v, hv, rfl, hfail⟩

end LinkTable

/-! ## Groups -/

theorem groups_assembled (settings : Settings) (table : LinkTable) (v : ValueType) :
    (v.assembled settings table).groups =
      v.properties.map (fun p => p.named.group table) ++ v.enumConstants.map constantGroup := by
  simp only [ValueType.assembled, Subject.ofProperties, List.map_map]
  rfl

/-- Of a subject only the groups depend on the table. -/
theorem ValueType.assembled_eq_with_groups (settings : Settings) (t u : LinkTable) (v : ValueType) :
    v.assembled settings t =
      { v.assembled settings u with groups := (v.assembled settings t).groups } :=
  rfl

theorem groups_assembled_of_property {k : Nat} {p : Property} (hp : v.properties[k]? = some p) :
    (v.assembled settings table).groups[k]? = some (p.named.group table) := by
  have hlt : k < v.properties.length := (List.getElem?_eq_some_iff.mp hp).1
  rw [groups_assembled, List.getElem?_append_left (by simpa using hlt), List.getElem?_map, hp]
  rfl

/-- A group stands for the property at its place, or for a constant. -/
theorem group_assembled_cases {k : Nat} {g : MethodGroup}
    (hg : (v.assembled settings table).groups[k]? = some g) :
    (∃ p, v.properties[k]? = some p ∧ g = p.named.group table) ∨
      ∃ c ∈ v.enumConstants, g = constantGroup c := by
  rw [groups_assembled] at hg
  -- the groups of the constants come after those of all properties
  cases hp : v.properties[k]? with
  | some p =>
      have hlt : k < v.properties.length := (List.getElem?_eq_some_iff.mp hp).1
      rw [List.getElem?_append_left (by simpa using hlt), List.getElem?_map, hp] at hg
      exact Or.inl ⟨p, rfl, (Option.some.inj hg).symm⟩
  | none =>
      have hle : v.properties.length ≤ k := List.getElem?_eq_none_iff.mp hp
      rw [List.getElem?_append_right (by simpa using hle)] at hg
      obtain ⟨c, hc, hgroup⟩ := List.mem_map.mp (List.mem_of_getElem? hg)
      exact Or.inr ⟨c, hc, hgroup.symm⟩

/-- Only a link hands out the subject of another value type. -/
theorem NamedProperty.resolve?_of_subject_handle {p : NamedProperty} {m : Method} {a : Access}
    {t : JavaType} {package name factory : String} (hm : m ∈ (p.group table).methods)
    (hbody : m.body = .delegate a t (.subject package name factory)) :
    a = p.access ∧ t = p.property.type ∧
      LinkTable.resolve? table p.property.type = some ⟨package, name, factory⟩ := by
  rcases mem_group_methods_iff.mp hm with hlink | hown
  · obtain ⟨-, l, hl, rfl⟩ := linkedHandle?_eq_some_iff.mp hlink
    simp only [delegate, LinkedSubject.handle, Body.delegate.injEq, HandleKind.subject.injEq]
      at hbody
    obtain ⟨rfl, rfl, rfl, rfl, rfl⟩ := hbody
    exact ⟨rfl, rfl, hl⟩
  · cases offers_of_mem hown with
    | truthy negated boxed => cases hbody
    | equals nullSensitive => cases hbody
    | delegate handle hframework =>
        simp only [delegate, Body.delegate.injEq] at hbody
        exact absurd hbody.2.2 (hframework package name factory)
    | contains handle element mode => cases hbody

theorem body_ne_delegate_of_mem_constantGroup {c : String} {m : Method} {a : Access} {t : JavaType}
    {h : HandleKind} (hm : m ∈ (constantGroup c).methods) : m.body ≠ .delegate a t h := by
  obtain ⟨negated, rfl⟩ := mem_constantGroup_methods hm
  simp [constantMethod]

/-! ## Batches in which failures interact

`Broken` has two properties of one base name. The link of `Item` to it would be named like the
factory of `Item`, so `Item` fails as well while `Broken` is listed, and no longer once it is not.

It takes no failure in the report: the link of `Node` to itself would be named like its own factory,
so `Node` fails while it is listed, and once it is not, all of the grove is generated.
-/

namespace Sample

/-- A property read by a getter. -/
def getter (accessor : String) (type : JavaType) : Property :=
  ⟨accessor, accessor, .getter, type, false⟩

/-- A declared type of the sample package. -/
def declared (name : String) : JavaType := .declared "com.example" name [] []

/-- A value type of the sample package that is not nested. -/
def valueType (name : String) (properties : List Property) : ValueType :=
  ⟨name, "com.example", [], properties, [], []⟩

def broken : ValueType :=
  valueType "Broken" [getter "name" (declared "Text"), getter "getName" (declared "Text")]

def item : ValueType := valueType "Item" [getter "item" (declared "Broken")]

def person : ValueType := valueType "Person" [getter "name" (declared "Text")]

def holder : ValueType :=
  valueType "Holder" [getter "content" (declared "Item"), getter "owner" (declared "Person")]

def cascade : List ValueType := [broken, item, person, holder]

/-- The subject of a value type as the report of the batch has it. -/
def subject (v : ValueType) : Subject :=
  v.assembled Settings.standard (settledTable Settings.standard cascade)

/-- The subject of a value type whose properties have no links. -/
def unlinked (v : ValueType) : Subject := v.assembled Settings.standard []

def node : ValueType := valueType "Node" [getter "getNode" (declared "Node")]

def tree : ValueType := valueType "Tree" [getter "getRoot" (declared "Node")]

def grove : List ValueType := [node, tree]

/-- The subject of a value type as the report of the grove has it. -/
def groveSubject (v : ValueType) : Subject :=
  v.assembled Settings.standard (settledTable Settings.standard grove)

theorem nodup_cascade : (cascade.map ValueType.qualifiedName).Nodup := by decide +kernel

theorem holder_mem_subjects :
    subject holder ∈ (generateBatch Settings.standard cascade).subjects := by decide +kernel

/-- The owner of a `Holder` is read through a handle. -/
def ownerHandle : Method := (getter "owner" (declared "Person")).named.delegate
  (.subject "com.example" "AutoPerson" "person")

end Sample

/-! ## Soundness -/

/-- What is listed in the settled table is reported, and no value type of its name fails. -/
theorem reported_of_get?_settledTable {name : String} {l : LinkedSubject}
    (h : Entries.get? (settledTable settings batch) name = some l) :
    ∃ target ∈ (generateBatch settings batch).subjects, l.handle = target.handle settings ∧
      target.valueType.typeParameters = [] ∧ target.valueType.qualifiedName = name ∧
      ∀ e ∈ (generateBatch settings batch).failures, e.valueType ≠ name := by
  obtain ⟨v, hv, hplain, rfl, rfl⟩ :=
    LinkTable.exists_of_get?_ofBatch (settledTable_within settings batch _ _ h)
  have hnone := not_refuses_settledTable h
  obtain ⟨target, htarget⟩ := LinkTable.exists_generate_of_not_refuses hv hnone
  refine ⟨target, mem_subjects_iff.mpr ⟨v, hv, htarget⟩, ?_⟩
  rw [eq_assembled_of_generate htarget]
  refine ⟨rfl, hplain, rfl, ?_⟩
  intro e he hname
  obtain ⟨w, hw, hresult⟩ := mem_failures_iff.mp he
  refine hnone (LinkTable.refuses_iff.mpr ⟨w, hw, ?_, by simp [hresult]⟩)
  rw [← valueType_of_generate_eq_error hresult, hname]

/-- **Links are sound.** A handle for another subject stands in the group of a property whose type
names the value type of a subject in the same report; the handle tells where that subject is found.
The subject has its unit and no type parameters of its own, and no value type of that name failed. -/
theorem subject_handles_are_reported (settings : Settings) (batch : List ValueType) {s : Subject}
    (hs : s ∈ (generateBatch settings batch).subjects) {k : Nat} {g : MethodGroup}
    (hg : s.groups[k]? = some g) {m : Method} (hm : m ∈ g.methods) {a : Access} {t : JavaType}
    {package name factory : String}
    (hbody : m.body = .delegate a t (.subject package name factory)) :
    ∃ (p : Property) (i : Nat) (target : Subject),
      s.valueType.properties[k]? = some p ∧ p.accessor = a.accessor ∧ p.type = t ∧
      (generateBatch settings batch).subjects[i]? = some target ∧
      (generateBatch settings batch).units[i]? = some (Java.SourceUnit.ofSubject settings target) ∧
      target.valueType.package = package ∧ target.name = name ∧
      settings.factoryName target.valueType = factory ∧
      t.plainName? = some target.valueType.qualifiedName ∧
      target.valueType.typeParameters = [] ∧
      ∀ e ∈ (generateBatch settings batch).failures,
        e.valueType ≠ target.valueType.qualifiedName := by
  obtain ⟨hassembled, -⟩ := eq_assembled_of_mem_subjects hs
  rw [hassembled] at hg
  rcases group_assembled_cases hg with ⟨p, hp, rfl⟩ | ⟨c, -, rfl⟩
  · obtain ⟨rfl, rfl, hl⟩ := NamedProperty.resolve?_of_subject_handle hm hbody
    obtain ⟨declared, hdeclared, hget⟩ := LinkTable.resolve?_eq_some_iff.mp hl
    obtain ⟨target, htarget, hhandle, hplain, rfl, hfailures⟩ := reported_of_get?_settledTable hget
    obtain ⟨i, hi⟩ := List.mem_iff_getElem?.mp htarget
    have hunit : (generateBatch settings batch).units[i]? =
        some (Java.SourceUnit.ofSubject settings target) := by
      rw [units_generateBatch, List.getElem?_map, hi]
      rfl
    simp only [LinkedSubject.handle, Subject.handle, HandleKind.subject.injEq] at hhandle
    exact ⟨p, i, target, hp, rfl, rfl, hi, hunit, hhandle.1.symm, hhandle.2.1.symm,
      hhandle.2.2.symm, hdeclared, hplain, hfailures⟩
  · exact absurd hbody (body_ne_delegate_of_mem_constantGroup hm)

theorem subject_handles_are_reported_cascade :
    Sample.subject Sample.holder ∈ (generateBatch Settings.standard Sample.cascade).subjects ∧
      ∃ (p : Property) (i : Nat) (target : Subject),
        (Sample.subject Sample.holder).valueType.properties[1]? = some p ∧ p.accessor = "owner" ∧
        p.type = Sample.declared "Person" ∧
        (generateBatch Settings.standard Sample.cascade).subjects[i]? = some target ∧
        (generateBatch Settings.standard Sample.cascade).units[i]? =
          some (Java.SourceUnit.ofSubject Settings.standard target) ∧
        target.valueType.package = "com.example" ∧ target.name = "AutoPerson" ∧
        Settings.standard.factoryName target.valueType = "person" ∧
        (Sample.declared "Person").plainName? = some target.valueType.qualifiedName ∧
        target.valueType.typeParameters = [] ∧
        ∀ e ∈ (generateBatch Settings.standard Sample.cascade).failures,
          e.valueType ≠ target.valueType.qualifiedName := by
  have hg : (Sample.subject Sample.holder).groups[1]? =
      some ⟨.property "owner", [Sample.ownerHandle,
        (Sample.getter "owner" (Sample.declared "Person")).named.equals false]⟩ := by decide +kernel
  have hm : Sample.ownerHandle ∈ [Sample.ownerHandle,
      (Sample.getter "owner" (Sample.declared "Person")).named.equals false] := by simp
  exact ⟨Sample.holder_mem_subjects, subject_handles_are_reported Settings.standard Sample.cascade
    Sample.holder_mem_subjects hg hm rfl⟩

/-! ## Completeness -/

/-- The method at the head of the group at a place. -/
def Subject.firstMethod? (s : Subject) (k : Nat) : Option Method :=
  s.groups[k]?.bind fun g => g.methods.head?

/-- The link of an object property to a subject. -/
def Property.linkTo (settings : Settings) (p : Property) (target : Subject) : Method :=
  (NamedProperty.of p .object).delegate (target.handle settings)

/-- The group of an object property begins with the handle exactly if its type is listed as the
given subject. -/
theorem firstMethod?_assembled_eq_linkTo_iff {k : Nat} {p : Property} {target : Subject}
    (hp : v.properties[k]? = some p) (hobject : classifyStrict p.type = .ok .object)
    {name : String} (hname : p.type.plainName? = some name) :
    (v.assembled settings table).firstMethod? k = some (p.linkTo settings target) ↔
      ∃ l, Entries.get? table name = some l ∧ l.handle = target.handle settings := by
  have hnamed : p.named = NamedProperty.of p .object := Property.named_of_classifyStrict hobject
  rw [Subject.firstMethod?, groups_assembled_of_property hp, hnamed]
  have hresolve : LinkTable.resolve? table p.type = Entries.get? table name := by
    refine Option.ext fun l => ?_
    rw [LinkTable.resolve?_eq_some_iff, hname]
    simp
  have hlink : (NamedProperty.of p .object).linkedHandle? table =
      (Entries.get? table name).map fun l => (NamedProperty.of p .object).delegate l.handle := by
    have hcategory : (NamedProperty.of p .object).category = .object := rfl
    rw [NamedProperty.linkedHandle?, if_pos hcategory, ← hresolve]
    rfl
  rw [Option.bind_some, NamedProperty.group, hlink]
  cases hget : Entries.get? table name with
  | none =>
      -- without a link the group begins with the equality, which is no handle
      simp [NamedProperty.methods, NamedProperty.of, NamedProperty.equals, Property.linkTo,
        NamedProperty.delegate]
  | some l =>
      simp [Property.linkTo, NamedProperty.delegate, NamedProperty.of]

/-- Every reported subject that can be linked to is linked to wherever its value type is named. -/
def LinksAllReported (settings : Settings) (batch : List ValueType) : Prop :=
  ∀ s ∈ (generateBatch settings batch).subjects, ∀ k p, s.valueType.properties[k]? = some p →
    classifyStrict p.type = .ok .object → ∀ target ∈ (generateBatch settings batch).subjects,
      target.valueType.typeParameters = [] →
      p.type.plainName? = some target.valueType.qualifiedName →
      s.firstMethod? k = some (p.linkTo settings target)

/-- One property that has no link to a reported subject is enough. -/
theorem LinksAllReported.false_of_missing {s target : Subject}
    (hs : s ∈ (generateBatch settings batch).subjects)
    (htarget : target ∈ (generateBatch settings batch).subjects)
    (hplain : target.valueType.typeParameters = []) {k : Nat} {p : Property}
    (hp : s.valueType.properties[k]? = some p) (hobject : classifyStrict p.type = .ok .object)
    (hname : p.type.plainName? = some target.valueType.qualifiedName)
    (hmissing : s.firstMethod? k ≠ some (p.linkTo settings target)) :
    ¬ LinksAllReported settings batch :=
  fun hall => hmissing (hall s hs k p hp hobject target htarget hplain hname)

/-- `Item` is reported, but `Holder` has no link to it; nor has `Tree` to `Node`, where nothing has
failed at all. -/
theorem not_linksAllReported :
    ((Sample.cascade.map ValueType.qualifiedName).Nodup ∧
        ¬ LinksAllReported Settings.standard Sample.cascade) ∧
      (Sample.grove.map ValueType.qualifiedName).Nodup ∧
        (generateBatch Settings.standard Sample.grove).failures = [] ∧
        ¬ LinksAllReported Settings.standard Sample.grove := by
  refine ⟨⟨Sample.nodup_cascade, ?_⟩, by decide +kernel, by decide +kernel, ?_⟩
  · have hitem : Sample.subject Sample.item ∈
        (generateBatch Settings.standard Sample.cascade).subjects := by decide +kernel
    have hmissing : (Sample.subject Sample.holder).firstMethod? 0 ≠
        some ((Sample.getter "content" (Sample.declared "Item")).linkTo Settings.standard
          (Sample.subject Sample.item)) := by decide +kernel
    exact LinksAllReported.false_of_missing Sample.holder_mem_subjects hitem rfl rfl rfl
      (by decide +kernel) hmissing
  · have htree : Sample.groveSubject Sample.tree ∈
        (generateBatch Settings.standard Sample.grove).subjects := by decide +kernel
    have hnode : Sample.groveSubject Sample.node ∈
        (generateBatch Settings.standard Sample.grove).subjects := by decide +kernel
    have hmissing : (Sample.groveSubject Sample.tree).firstMethod? 0 ≠
        some ((Sample.getter "getRoot" (Sample.declared "Node")).linkTo Settings.standard
          (Sample.groveSubject Sample.node)) := by decide +kernel
    exact LinksAllReported.false_of_missing htree hnode rfl rfl rfl (by decide +kernel) hmissing

/-- **When a reported subject is linked to.** In a batch of distinct names, an object property whose
type names the value type of a reported subject without type parameters should begin with the handle
for that subject. It does if and only if the value type is generated against the table of the whole
batch; a value type that fails there and is generated in a later round is missed. -/
theorem handle_iff_generated_at_once (settings : Settings) (batch : List ValueType)
    (hdistinct : (batch.map ValueType.qualifiedName).Nodup) {s target : Subject}
    (hs : s ∈ (generateBatch settings batch).subjects)
    (htarget : target ∈ (generateBatch settings batch).subjects)
    (hplain : target.valueType.typeParameters = []) {k : Nat} {p : Property}
    (hp : s.valueType.properties[k]? = some p) (hobject : classifyStrict p.type = .ok .object)
    (hname : p.type.plainName? = some target.valueType.qualifiedName) :
    s.firstMethod? k = some (p.linkTo settings target) ↔
      ∃ r, generate settings (LinkTable.ofBatch settings batch) target.valueType = .ok r := by
  obtain ⟨hassembled, -⟩ := eq_assembled_of_mem_subjects hs
  obtain ⟨htargetAssembled, hmem⟩ := eq_assembled_of_mem_subjects htarget
  have hfirst : (LinkTable.ofBatch settings batch).Refuses settings batch
      target.valueType.qualifiedName ↔
        ¬ ∃ r, generate settings (LinkTable.ofBatch settings batch) target.valueType = .ok r :=
    LinkTable.refuses_iff_of_mem hdistinct hmem
  rw [hassembled, firstMethod?_assembled_eq_linkTo_iff hp hobject hname, get?_settledTable]
  constructor
  · rintro ⟨l, hl, -⟩
    split at hl
    · cases hl
    · next hrefuses => exact not_not.mp (mt hfirst.mpr hrefuses)
  · intro hgenerated
    rw [if_neg fun hrefuses => hfirst.mp hrefuses hgenerated,
      LinkTable.get?_ofBatch_of_mem hdistinct hmem hplain]
    refine ⟨_, rfl, ?_⟩
    rw [htargetAssembled]
    rfl

theorem handle_iff_generated_at_once_cascade :
    (Sample.cascade.map ValueType.qualifiedName).Nodup ∧
      Sample.subject Sample.holder ∈ (generateBatch Settings.standard Sample.cascade).subjects ∧
      Sample.subject Sample.person ∈ (generateBatch Settings.standard Sample.cascade).subjects ∧
      ((Sample.subject Sample.holder).firstMethod? 1 =
          some ((Sample.getter "owner" (Sample.declared "Person")).linkTo Settings.standard
            (Sample.subject Sample.person)) ↔
        ∃ r, generate Settings.standard (LinkTable.ofBatch Settings.standard Sample.cascade)
          Sample.person = .ok r) := by
  have htarget : Sample.subject Sample.person ∈
      (generateBatch Settings.standard Sample.cascade).subjects := by decide +kernel
  exact ⟨Sample.nodup_cascade, Sample.holder_mem_subjects, htarget,
    handle_iff_generated_at_once Settings.standard Sample.cascade Sample.nodup_cascade
      Sample.holder_mem_subjects htarget rfl rfl rfl (by decide +kernel)⟩

end AssertionGen
