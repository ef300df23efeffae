import AssertionGen.Proofs.Linkage
/-!
# What comes of each value type

A report keeps what came of a batch in four lists. What it says of one value type is the fate of that
type: either its subject with the unit, or its failure. The report lists the fates in the order of
the batch (`generateBatch_eq_listing`), so nothing is lost and nothing is said twice.

A fate depends on the batch through the settled table alone, and on the table only by what the types
of object properties resolve to (`generate_congr`). Two independences follow:

* a batch of distinct names may be given in any order (`fates_of_perm`): the settled tables list
  the same names, though in different order;
* a value type whose object properties name no member of the batch has the fate it has alone
  (`fates_isolated`), whatever its siblings are and however they fail.

Where two value types share a name the order counts: the later one is listed in the table.
-/

namespace AssertionGen

variable {settings : Settings} {batch other : List ValueType} {t u : LinkTable} {v : ValueType}

/-! ## Fates and reports -/

/-- What comes of a value type: its subject with the unit, or why there is none. -/
abbrev Fate := Except GenerationError (Subject × Java.SourceUnit)

namespace Fate

/-- The subject with its unit, if there is one. -/
def made? : Fate → Option (Subject × Java.SourceUnit)
  | .ok made => some made
  | .error _ => none

/-- The failure, if there is one. -/
def failure? : Fate → Option GenerationError
  | .ok _ => none
  | .error e => some e

/-- The fate is about this value type: the subject was made of it and the unit is the text of the
subject, or the failure carries its name. -/
inductive IsOf (settings : Settings) (v : ValueType) : Fate → Prop where
  | made {s : Subject} (hs : s.valueType = v) :
      IsOf settings v (.ok (s, Java.SourceUnit.ofSubject settings s))
  | failed {e : GenerationError} (he : e.valueType = v.qualifiedName) : IsOf settings v (.error e)

end Fate

/-- The report that lists these fates in their order. -/
def Report.listing (fates : List Fate) : Report :=
  { subjects := (fates.filterMap Fate.made?).map Prod.fst
    units := (fates.filterMap Fate.made?).map Prod.snd
    failures := fates.filterMap Fate.failure?
    warnings := (fates.filterMap Fate.made?).flatMap fun made => made.1.warnings }

/-- What comes of a value type against the settled table of a batch. -/
def fateIn (settings : Settings) (batch : List ValueType) (v : ValueType) : Fate :=
  (generate settings (settledTable settings batch) v).map fun s =>
    (s, Java.SourceUnit.ofSubject settings s)

theorem fateIn_isOf (settings : Settings) (batch : List ValueType) (v : ValueType) :
    (fateIn settings batch v).IsOf settings v := by
  unfold fateIn
  cases hresult : generate settings (settledTable settings batch) v with
  | ok s =>
      rw [eq_assembled_of_generate hresult]
      exact .made rfl
  | error e => exact .failed (valueType_of_generate_eq_error hresult)

/-- A list that is read off the fates can be read off the results behind them. -/
theorem filterMap_fateIn {α : Type} {f : Fate → Option α} {g : Except GenerationError Subject → Option α}
    (h : ∀ r : Except GenerationError Subject,
      f (r.map fun s => (s, Java.SourceUnit.ofSubject settings s)) = g r) :
    (batch.map (fateIn settings batch)).filterMap f = (batchResults settings batch).filterMap g := by
  unfold batchResults generateAll
  rw [List.filterMap_map, List.filterMap_map]
  exact List.filterMap_congr fun v _ => h (generate settings (settledTable settings batch) v)

/-- The report lists the fates of the value types, in the order of the batch. -/
theorem generateBatch_eq_listing (settings : Settings) (batch : List ValueType) :
    generateBatch settings batch = Report.listing (batch.map (fateIn settings batch)) := by
  have hmade : (batch.map (fateIn settings batch)).filterMap Fate.made? =
      (generatedSubjects (batchResults settings batch)).map fun s =>
        (s, Java.SourceUnit.ofSubject settings s) := by
    unfold generatedSubjects
    rw [List.map_filterMap]
    exact filterMap_fateIn fun r => by cases r <;> rfl
  have hfailures : (batch.map (fateIn settings batch)).filterMap Fate.failure? =
      generationFailures (batchResults settings batch) :=
    filterMap_fateIn fun r => by cases r <;> rfl
  unfold Report.listing
  rw [hmade, hfailures]
  simp only [List.map_map, List.flatMap_map, Function.comp_def, List.map_id']
  rfl

/-- A report says one thing of each value type. -/
theorem length_listing (fates : List Fate) :
    (Report.listing fates).subjects.length + (Report.listing fates).failures.length =
      fates.length := by
  unfold Report.listing
  induction fates with
  | nil => rfl
  | cons fate fates ih =>
      simp only [List.length_map] at ih ⊢
      cases fate with
      | ok made =>
          simp only [List.filterMap_cons, Fate.made?, Fate.failure?, List.length_cons]
          omega
      | error e =>
          simp only [List.filterMap_cons, Fate.made?, Fate.failure?, List.length_cons]
          omega

/-! ## What a fate depends on -/

/-- A table counts only by what the types of object properties resolve to. -/
theorem generate_congr (h : ∀ p ∈ v.properties, classifyStrict p.type = .ok .object →
    LinkTable.resolve? t p.type = LinkTable.resolve? u p.type) :
    generate settings t v = generate settings u v := by
  -- an ambiguous type ends the generation before the table is read
  rcases Property.unambiguous_or_first v.properties with
    htypes | ⟨before, p, after, a, hproperties, hbefore, hp⟩
  · have hgroups : ∀ p ∈ v.properties, p.named.group t = p.named.group u := by
      intro p hp
      obtain ⟨c, hc⟩ := htypes p hp
      have hnamed : p.named = NamedProperty.of p c := Property.named_of_classifyStrict hc
      apply NamedProperty.group_congr
      intro hobject
      rw [hnamed] at hobject ⊢
      have hstrict : classifyStrict p.type = .ok .object := by rw [hc]; exact congrArg _ hobject
      exact h p hp hstrict
    have hsubject : v.assembled settings t = v.assembled settings u := by
      have hmap := List.map_congr_left hgroups
      rw [ValueType.assembled_eq_with_groups settings t u, groups_assembled, hmap, ← groups_assembled]
    rw [generate_of_unambiguous htypes, generate_of_unambiguous htypes, ValueType.methodNames,
      ValueType.methodNames, hsubject]
  · rw [generate_of_ambiguous hproperties hbefore hp, generate_of_ambiguous hproperties hbefore hp]

theorem LinkTable.resolve?_congr (h : ∀ name, Entries.get? t name = Entries.get? u name)
    (type : JavaType) : resolve? t type = resolve? u type := by
  unfold resolve?
  split
  · exact h _
  · rfl

/-- Tables that list the same count alike, whatever their order. -/
theorem generate_congr_get? (h : ∀ name, Entries.get? t name = Entries.get? u name) :
    generate settings t v = generate settings u v :=
  generate_congr fun p _ _ => LinkTable.resolve?_congr h p.type

/-! ## The order of a batch -/

namespace LinkTable

theorem get?_ofBatch_perm (hdistinct : (batch.map ValueType.qualifiedName).Nodup)
    (hperm : other.Perm batch) (name : String) :
    Entries.get? (ofBatch settings other) name = Entries.get? (ofBatch settings batch) name :=
  Entries.get?_ofList_perm ((hperm.filter _).map _) (nodup_keys_entries hdistinct) name

theorem refuses_perm (hdistinct : (batch.map ValueType.qualifiedName).Nodup)
    (hperm : other.Perm batch) (name : String) :
    (ofBatch settings other).Refuses settings other name ↔
      (ofBatch settings batch).Refuses settings batch name := by
  -- a refusal asks for some value type of the batch, wherever it stands
  rw [refuses_iff, refuses_iff]
  refine exists_congr fun v => ?_
  rw [hperm.mem_iff, generate_congr_get? (get?_ofBatch_perm hdistinct hperm)]

end LinkTable

theorem get?_settledTable_perm (hdistinct : (batch.map ValueType.qualifiedName).Nodup)
    (hperm : other.Perm batch) (name : String) :
    Entries.get? (settledTable settings other) name =
      Entries.get? (settledTable settings batch) name := by
  rw [get?_settledTable, get?_settledTable, LinkTable.get?_ofBatch_perm hdistinct hperm]
  -- both tables drop the same names in their one round
  exact if_congr (LinkTable.refuses_perm hdistinct hperm name) rfl rfl

/-- **The order of a batch does not matter.** In every order of a batch of distinct names, each value
type has the same fate: the same subject with the same unit, or the same failure. The report lists
these fates in the order that the batch is given in. -/
theorem fates_of_perm (settings : Settings)
    (hdistinct : (batch.map ValueType.qualifiedName).Nodup) (hperm : other.Perm batch) :
    (∀ v, fateIn settings other v = fateIn settings batch v) ∧
      (∀ v, (fateIn settings batch v).IsOf settings v) ∧
      generateBatch settings batch = Report.listing (batch.map (fateIn settings batch)) ∧
      generateBatch settings other = Report.listing (other.map (fateIn settings batch)) := by
  have hsame : ∀ v, fateIn settings other v = fateIn settings batch v := by
    intro v
    unfold fateIn
    rw [generate_congr_get? (get?_settledTable_perm hdistinct hperm)]
  refine ⟨hsame, fateIn_isOf settings batch, generateBatch_eq_listing settings batch, ?_⟩
  rw [generateBatch_eq_listing, List.map_congr_left fun v _ => hsame v]

/-- The cascade backwards: `Holder` comes first and is linked as before. -/
theorem fates_of_perm_cascade :
    (Sample.cascade.map ValueType.qualifiedName).Nodup ∧
      Sample.cascade.reverse.Perm Sample.cascade ∧
      generateBatch Settings.standard Sample.cascade.reverse =
        Report.listing (Sample.cascade.reverse.map
          (fateIn Settings.standard Sample.cascade)) ∧
      fateIn Settings.standard Sample.cascade.reverse Sample.holder =
        fateIn Settings.standard Sample.cascade Sample.holder := by
  have hperm : Sample.cascade.reverse.Perm Sample.cascade := List.reverse_perm _
  obtain ⟨hsame, -, -, hlisting⟩ :=
    fates_of_perm Settings.standard Sample.nodup_cascade hperm
  exact ⟨Sample.nodup_cascade, hperm, hlisting, hsame _⟩

/-! ## Isolation -/

/-- No object property of the value type is of a type, without arguments, that is named like a member
of the batch. -/
def ValueType.Standalone (v : ValueType) (batch : List ValueType) : Prop :=
  ∀ p ∈ v.properties, classifyStrict p.type = .ok .object →
    ∀ w ∈ batch, p.type.plainName? ≠ some w.qualifiedName

instance (v : ValueType) (batch : List ValueType) : Decidable (v.Standalone batch) :=
  inferInstanceAs (Decidable (∀ p ∈ v.properties, classifyStrict p.type = .ok .object →
    ∀ w ∈ batch, p.type.plainName? ≠ some w.qualifiedName))

theorem ValueType.Standalone.mono (h : v.Standalone batch) (hsub : other ⊆ batch) :
    v.Standalone other :=
  fun p hp hobject w hw => h p hp hobject w (hsub hw)

/-- What the settled table lists is named like a member of the batch. -/
theorem resolve?_settledTable_eq_none {type : JavaType}
    (h : ∀ w ∈ batch, type.plainName? ≠ some w.qualifiedName) :
    LinkTable.resolve? (settledTable settings batch) type = none := by
  rw [Option.eq_none_iff_forall_ne_some]
  intro l hl
  obtain ⟨name, hname, hget⟩ := LinkTable.resolve?_eq_some_iff.mp hl
  obtain ⟨w, hw, -, rfl, -⟩ :=
    LinkTable.exists_of_get?_ofBatch (settledTable_within settings batch _ _ hget)
  exact h w hw hname

/-- Two batches in which a value type stands alone are the same to it. -/
theorem fateIn_of_standalone (hbatch : v.Standalone batch) (hother : v.Standalone other) :
    fateIn settings batch v = fateIn settings other v := by
  have hgenerate : generate settings (settledTable settings batch) v =
      generate settings (settledTable settings other) v := by
    apply generate_congr
    intro p hp hobject
    rw [resolve?_settledTable_eq_none (hbatch p hp hobject),
      resolve?_settledTable_eq_none (hother p hp hobject)]
  unfold fateIn
  rw [hgenerate]

/-- **Failures are isolated, and every value type is accounted for.** A report lists one fate for
each value type, in the order of the batch: its subject with the unit, or its failure. Whatever the
siblings are and however many of them fail, a value type whose object properties name none of them,
nor itself, has the fate that it has alone. -/
theorem fates_isolated (settings : Settings) (batch : List ValueType) :
    generateBatch settings batch = Report.listing (batch.map (fateIn settings batch)) ∧
      (∀ v, (fateIn settings batch v).IsOf settings v) ∧
      (generateBatch settings batch).subjects.length +
          (generateBatch settings batch).failures.length = batch.length ∧
      (generateBatch settings batch).units =
        (generateBatch settings batch).subjects.map (Java.SourceUnit.ofSubject settings) ∧
      (generateBatch settings batch).warnings =
        (generateBatch settings batch).subjects.flatMap Subject.warnings ∧
      ∀ v ∈ batch, v.Standalone batch →
        generateBatch settings [v] = Report.listing [fateIn settings batch v] := by
  have hlisting := generateBatch_eq_listing settings batch
  refine ⟨hlisting, fateIn_isOf settings batch, ?_, units_generateBatch settings batch, rfl, ?_⟩
  · rw [hlisting, length_listing, List.length_map]
  · intro v hv halone
    -- the value type is a member too, so a batch of it alone has nothing that it names either
    have hself : v.Standalone [v] := halone.mono (List.cons_subset.mpr ⟨hv, List.nil_subset _⟩)
    rw [generateBatch_eq_listing, fateIn_of_standalone halone hself]
    rfl

/-- `Person` stands alone in the cascade, in which another value type fails. -/
theorem fates_isolated_person :
    Sample.person ∈ Sample.cascade ∧ Sample.person.Standalone Sample.cascade ∧
      (generateBatch Settings.standard Sample.cascade).failures ≠ [] ∧
      generateBatch Settings.standard [Sample.person] =
        Report.listing [fateIn Settings.standard Sample.cascade Sample.person] := by
  have hmem : Sample.person ∈ Sample.cascade := by decide +kernel
  have halone : Sample.person.Standalone Sample.cascade := by decide +kernel
  have hfailures : (generateBatch Settings.standard Sample.cascade).failures ≠ [] := by
    decide +kernel
  obtain ⟨-, -, -, -, -, hisolated⟩ := fates_isolated Settings.standard Sample.cascade
  exact ⟨hmem, halone, hfailures, hisolated _ hmem halone⟩

end AssertionGen
