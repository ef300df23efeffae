import AssertionGen.Batch.Inspection
import AssertionGen.Proofs.Fates
import AssertionGen.Proofs.WellFormed
/-!
# What an inspection shows

An inspection does not look at how the subjects were made. It classifies every property again, with
the classifier that passes conflicts over, names it again, and takes the names of its methods from
the group at the same place. That this is what was generated (`views_agree`) has two reasons: where
the strict classifier gives a category the lenient one gives the same, and the groups of a subject
begin with those of the properties, in declaration order and with their links.

Of a value type that fails only the failure is shown. Its properties are named as the lenient
classifier has them, but no methods are claimed for them.
-/

namespace AssertionGen

variable {settings : Settings} {batch : List ValueType} {table : LinkTable} {v : ValueType}

/-- The view of a property tells how it was classified and named, and the methods of its group. -/
structure PropertyView.Tells (view : PropertyView) (p : NamedProperty) (g : MethodGroup) : Prop where
  accessor : view.accessor = p.property.accessor
  category : classifyStrict p.property.type = .ok view.category
  baseName : view.baseName = p.name.base
  accessExpression : view.accessExpression = p.name.access
  origin : g.origin = .property view.accessor
  methods : view.methods = g.methods.map Method.name
  /-- All of these methods read the property by the text that is shown. -/
  reads : ∀ m ∈ g.methods, m.body.access? = some ⟨view.accessor, view.accessExpression⟩

/-- The view of a value type shows its fate. -/
inductive SubjectView.Shows (view : SubjectView) (v : ValueType) : Fate → Prop where
  /-- What is told of each property is what the generator had: the property under the names that
  were checked, and the group at its place. -/
  | made {s : Subject} {unit : Java.SourceUnit} {named : List NamedProperty}
      (herror : view.error = none) (hname : view.subjectName = s.name)
      (hnamed : ValueType.namedProperties v.qualifiedName v.properties = .ok named)
      (hlength : view.properties.length = v.properties.length)
      (hproperties : ∀ (j : Nat) (p : Property), v.properties[j]? = some p →
        ∃ (shown : PropertyView) (q : NamedProperty) (g : MethodGroup),
          view.properties[j]? = some shown ∧ named[j]? = some q ∧ q.property = p ∧
            s.groups[j]? = some g ∧ shown.Tells q g) :
      Shows view v (.ok (s, unit))
  | failed {e : GenerationError} (herror : view.error = some e.message)
      (hmethods : ∀ shown ∈ view.properties, shown.methods = []) : Shows view v (.error e)

/-! ## Views of properties -/

/-- The property at a place of the view is the one declared there. -/
theorem SubjectView.getElem?_properties_of (settings : Settings) (v : ValueType)
    (result : Except GenerationError Subject) (j : Nat) :
    (SubjectView.of settings v result).properties[j]? =
      v.properties[j]?.map (PropertyView.of result j) :=
  List.getElem?_mapIdx

theorem groupMethodNames_assembled {j : Nat} {p : Property} (hp : v.properties[j]? = some p) :
    groupMethodNames (.ok (v.assembled settings table)) j =
      (p.named.group table).methods.map Method.name := by
  unfold groupMethodNames
  simp only [groups_assembled_of_property hp]

/-- An unambiguous property is shown as it was generated. -/
theorem PropertyView.tells_of {j : Nat} {p : Property} (hp : v.properties[j]? = some p)
    (htype : p.Unambiguous) :
    (PropertyView.of (.ok (v.assembled settings table)) j p).Tells p.named (p.named.group table) where
  accessor := rfl
  category := by
    -- the view has the lenient category, and the type has a strict one
    obtain ⟨c, hc⟩ := htype
    show classifyStrict p.type = .ok (classify p.type)
    rw [hc, classify_of_classifyStrict hc]
  baseName := rfl
  accessExpression := rfl
  origin := rfl
  methods := groupMethodNames_assembled hp
  reads m hm := (p.group_wellFormed table).access m hm

theorem SubjectView.methods_of_error {e : GenerationError} {shown : PropertyView}
    (h : shown ∈ (SubjectView.of settings v (.error e)).properties) : shown.methods = [] := by
  obtain ⟨j, hj⟩ := List.mem_iff_getElem?.mp h
  rw [SubjectView.getElem?_properties_of, Option.map_eq_some_iff] at hj
  obtain ⟨p, -, rfl⟩ := hj
  rfl

/-! ## Views of value types -/

theorem SubjectView.shows_fateIn (settings : Settings) (batch : List ValueType) (v : ValueType) :
    (SubjectView.of settings v (generate settings (settledTable settings batch) v)).Shows v
      (fateIn settings batch v) := by
  unfold fateIn
  cases hresult : generate settings (settledTable settings batch) v with
  | error e => exact .failed rfl fun shown hshown => SubjectView.methods_of_error hshown
  | ok s =>
      obtain ⟨htypes, -, -, rfl⟩ := generate_eq_ok_iff.mp hresult
      refine .made rfl rfl (ValueType.namedProperties_of_unambiguous htypes) ?_ ?_
      · exact List.length_mapIdx
      · intro j p hp
        have hshown := SubjectView.getElem?_properties_of settings v
          (.ok (v.assembled settings (settledTable settings batch))) j
        rw [hp, Option.map_some] at hshown
        have hnamed : (v.properties.map Property.named)[j]? = some p.named := by
          rw [List.getElem?_map, hp]
          rfl
        exact ⟨_, _, _, hshown, hnamed, rfl, groups_assembled_of_property hp,
          PropertyView.tells_of hp (htypes p (List.mem_of_getElem? hp))⟩

theorem inspectBatch_eq_map (settings : Settings) (batch : List ValueType) :
    inspectBatch settings batch = batch.map fun v =>
      SubjectView.of settings v (generate settings (settledTable settings batch) v) := by
  unfold inspectBatch batchResults generateAll
  rw [List.zipWith_map_right, List.zipWith_self]

/-- **An inspection shows what is generated.** There is one view for each value type, in the order of
the batch. It has an error exactly if the value type fails, and then the words of that failure and no
methods. Otherwise it has the name of the subject, and of every property the category that the strict
classifier gives it, the names that it was generated under, and the names of the methods in its group
in their order, the link among them. -/
theorem views_agree (settings : Settings) (batch : List ValueType) :
    generateBatch settings batch = Report.listing (batch.map (fateIn settings batch)) ∧
      (∀ v, (fateIn settings batch v).IsOf settings v) ∧
      (inspectBatch settings batch).length = batch.length ∧
      ∀ (i : Nat) (v : ValueType), batch[i]? = some v →
        ∃ view, (inspectBatch settings batch)[i]? = some view ∧ view.valueType = v.qualifiedName ∧
          (view.error ≠ none ↔ ∃ e, fateIn settings batch v = .error e) ∧
          view.Shows v (fateIn settings batch v) := by
  refine ⟨generateBatch_eq_listing settings batch, fateIn_isOf settings batch, ?_, ?_⟩
  · rw [inspectBatch_eq_map, List.length_map]
  · intro i v hv
    have hshows := SubjectView.shows_fateIn settings batch v
    refine ⟨_, ?_, rfl, ?_, hshows⟩
    · rw [inspectBatch_eq_map, List.getElem?_map, hv]
      rfl
    · -- each way to show a fate fixes whether there is an error
      generalize fateIn settings batch v = fate at hshows
      cases hshows with
      | made herror hname hnamed hlength hproperties => simp [herror]
      | failed herror hmethods => simp [herror]

/-- `Broken` is shown with its failure, and `Holder` with its subject. -/
theorem views_agree_cascade :
    (∃ view, (inspectBatch Settings.standard Sample.cascade)[0]? = some view ∧
        view.error ≠ none ∧
        view.Shows Sample.broken (fateIn Settings.standard Sample.cascade Sample.broken)) ∧
      ∃ view, (inspectBatch Settings.standard Sample.cascade)[3]? = some view ∧
        view.error = none ∧
        view.Shows Sample.holder (fateIn Settings.standard Sample.cascade Sample.holder) := by
  obtain ⟨-, -, -, hviews⟩ := views_agree Settings.standard Sample.cascade
  obtain ⟨broken, hbroken, -, herror, hshowsBroken⟩ := hviews 0 Sample.broken rfl
  obtain ⟨holder, hholder, -, hnoError, hshowsHolder⟩ := hviews 3 Sample.holder rfl
  have hfails : ∃ e, fateIn Settings.standard Sample.cascade Sample.broken = .error e :=
    ⟨_, rfl⟩
  have hmade : ¬ ∃ e, fateIn Settings.standard Sample.cascade Sample.holder = .error e := by
    have hgenerated : generate Settings.standard (settledTable Settings.standard Sample.cascade)
        Sample.holder = .ok (Sample.subject Sample.holder) := by decide +kernel
    rintro ⟨e, he⟩
    rw [fateIn, hgenerated] at he
    cases he
  exact ⟨⟨broken, hbroken, herror.mpr hfails, hshowsBroken⟩,
    ⟨holder, hholder, not_not.mp (mt hnoError.mp hmade), hshowsHolder⟩⟩

end AssertionGen
