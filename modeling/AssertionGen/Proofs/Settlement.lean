import AssertionGen.Batch.Report
import AssertionGen.Proofs.Generation
/-!
# How a link table settles

A smaller table takes methods away and adds none, so a value type that is generated against a table
is also generated against every smaller one (`exists_generate_of_within`). The types refused in a
round are therefore among those refused in the round before, and as these are off the table by then,
the second round finds nothing more to take off: the settled table is the table of the whole batch
without the types that fail against it (`settledTable_eq_shrink`).

`get?_settledTable` is what the rest of the development uses: a name is listed in the end exactly if
the batch lists it and no value type of that name fails while all others are linked.
-/

namespace AssertionGen

variable {settings : Settings} {batch : List ValueType} {t u : LinkTable} {v : ValueType}

namespace LinkTable

/-! ## Smaller tables -/

/-- Every entry of the first table is one of the second. -/
def Within (t u : LinkTable) : Prop :=
  ∀ name l, Entries.get? t name = some l → Entries.get? u name = some l

theorem Within.refl (t : LinkTable) : t.Within t := fun _ _ h => h

theorem Within.trans {w : LinkTable} (htu : t.Within u) (huw : u.Within w) : t.Within w :=
  fun name l h => huw name l (htu name l h)

theorem resolve?_of_within (h : t.Within u) {type : JavaType} {l : LinkedSubject}
    (hl : resolve? t type = some l) : resolve? u type = some l := by
  obtain ⟨name, htype, hget⟩ := resolve?_eq_some_iff.mp hl
  exact resolve?_eq_some_iff.mpr ⟨name, htype, h _ _ hget⟩

theorem linkedHandle?_sublist (h : t.Within u) (p : NamedProperty) :
    (p.linkedHandle? t).toList.Sublist (p.linkedHandle? u).toList := by
  cases hm : p.linkedHandle? t with
  | none => exact List.nil_sublist _
  | some m =>
      obtain ⟨hobject, l, hl, hhandle⟩ := NamedProperty.linkedHandle?_eq_some_iff.mp hm
      have hm' : p.linkedHandle? u = some m :=
        NamedProperty.linkedHandle?_eq_some_iff.mpr
          ⟨hobject, l, resolve?_of_within h hl, hhandle⟩
      rw [hm']

end LinkTable

/-- The methods of a property, each with the accessor that owns it. -/
theorem NamedProperty.group_names_sublist (h : t.Within u) (p : NamedProperty) :
    ((p.group t).methods.map fun m => (m.name, p.property.accessor)).Sublist
      ((p.group u).methods.map fun m => (m.name, p.property.accessor)) := by
  refine List.Sublist.map _ ?_
  exact (LinkTable.linkedHandle?_sublist h p).append_right p.methods

theorem ValueType.methodNames_sublist (h : t.Within u) (settings : Settings) (v : ValueType) :
    (v.methodNames settings t).Sublist (v.methodNames settings u) := by
  unfold methodNames Subject.ownedNames assembled Subject.ofProperties
  refine (List.Sublist.append_left ?_ _).cons_cons _
  simp only [List.flatMap_append]
  refine List.Sublist.append_right ?_ _
  generalize v.properties.map Property.named = ps
  induction ps with
  | nil => exact List.Sublist.refl _
  | cons p ps ih => exact (p.group_names_sublist h).append ih

/-- What is generated against a table is generated against every smaller one. -/
theorem exists_generate_of_within (h : t.Within u) (hu : ∃ s, generate settings u v = .ok s) :
    ∃ s, generate settings t v = .ok s := by
  obtain ⟨s, hs⟩ := hu
  obtain ⟨htypes, hbase, hmethods, -⟩ := generate_eq_ok_iff.mp hs
  have hnames := (v.methodNames_sublist h settings).map Prod.fst
  exact ⟨_, generate_eq_ok_iff.mpr ⟨htypes, hbase, hmethods.sublist hnames, rfl⟩⟩

namespace LinkTable

/-! ## Refusals -/

/-- Some value type of this name fails against the table. -/
def Refuses (settings : Settings) (batch : List ValueType) (t : LinkTable) (name : String) : Prop :=
  name ∈ failedNames (generateAll settings t batch)

instance {name : String} : Decidable (t.Refuses settings batch name) :=
  inferInstanceAs (Decidable (name ∈ failedNames (generateAll settings t batch)))

theorem refuses_iff {name : String} :
    t.Refuses settings batch name ↔
      ∃ v ∈ batch, v.qualifiedName = name ∧ ¬ ∃ s, generate settings t v = .ok s := by
  simp only [Refuses, failedNames, generateAll, List.mem_filterMap, List.mem_map,
    exists_exists_and_eq_and]
  constructor
  · rintro ⟨v, hv, hname⟩
    refine ⟨v, hv, ?_⟩
    cases hresult : generate settings t v with
    | ok s => simp [hresult] at hname
    | error e =>
        simp only [hresult, Option.some.injEq] at hname
        exact ⟨by rw [← valueType_of_generate_eq_error hresult, hname], by simp⟩
  · rintro ⟨v, hv, hname, hfail⟩
    refine ⟨v, hv, ?_⟩
    cases hresult : generate settings t v with
    | ok s => exact absurd ⟨s, hresult⟩ hfail
    | error e => simp only [valueType_of_generate_eq_error hresult, hname]

theorem exists_generate_of_not_refuses (hv : v ∈ batch)
    (h : ¬ t.Refuses settings batch v.qualifiedName) : ∃ s, generate settings t v = .ok s :=
  Classical.byContradiction fun hfail => h (refuses_iff.mpr ⟨v, hv, rfl, hfail⟩)

theorem Refuses.of_within (h : t.Within u) {name : String} (ht : t.Refuses settings batch name) :
    u.Refuses settings batch name := by
  obtain ⟨v, hv, hname, hfail⟩ := refuses_iff.mp ht
  exact refuses_iff.mpr ⟨v, hv, hname, fun hok => hfail (exists_generate_of_within h hok)⟩

/-! ## Rounds -/

theorem get?_shrink (t : LinkTable) (name : String) :
    Entries.get? (t.shrink settings batch) name =
      if t.Refuses settings batch name then none else Entries.get? t name :=
  Entries.get?_without t _ name

theorem without_within (t : LinkTable) (names : List String) :
    Within (Entries.without t names) t := by
  intro name l h
  rw [Entries.get?_without] at h
  split at h
  · cases h
  · exact h

theorem shrink_within (t : LinkTable) : (t.shrink settings batch).Within t :=
  without_within t _

theorem length_shrink_lt_iff :
    (t.shrink settings batch).length < t.length ↔
      ∃ name ∈ Entries.keys t, t.Refuses settings batch name :=
  Entries.length_without_lt_iff

/-- Nothing that one round leaves on the table is refused in the next. -/
theorem not_refuses_shrink {name : String} (h : name ∈ Entries.keys (t.shrink settings batch)) :
    ¬ (t.shrink settings batch).Refuses settings batch name := by
  intro hrefuses
  refine Entries.get?_eq_none_iff.mp ?_ h
  rw [get?_shrink, if_pos (hrefuses.of_within (shrink_within t))]

theorem rounds_shrink (t : LinkTable) :
    (t.shrink settings batch).rounds settings batch = [t.shrink settings batch] := by
  rw [rounds, if_neg]
  -- a further round would have to take off a name that this one left
  intro hlt
  obtain ⟨name, hname, hrefuses⟩ := length_shrink_lt_iff.mp hlt
  exact not_refuses_shrink hname hrefuses

theorem rounds_eq (t : LinkTable) :
    t.rounds settings batch =
      if (t.shrink settings batch).length < t.length then [t, t.shrink settings batch] else [t] := by
  rw [rounds, rounds_shrink]

end LinkTable

/-! ## The settled table -/

/-- A single round settles the table. -/
theorem settledTable_eq_shrink (settings : Settings) (batch : List ValueType) :
    settledTable settings batch = (LinkTable.ofBatch settings batch).shrink settings batch := by
  unfold settledTable
  simp only [LinkTable.rounds_eq]
  split
  · rfl
  · next hlt =>
    -- nothing was taken off, and a table of the same length is the same table
    have hlen : (LinkTable.ofBatch settings batch).length ≤
        ((LinkTable.ofBatch settings batch).shrink settings batch).length := Nat.le_of_not_lt hlt
    exact (List.filter_sublist.eq_of_length_le hlen).symm

theorem get?_settledTable (settings : Settings) (batch : List ValueType) (name : String) :
    Entries.get? (settledTable settings batch) name =
      if (LinkTable.ofBatch settings batch).Refuses settings batch name then none
      else Entries.get? (LinkTable.ofBatch settings batch) name := by
  rw [settledTable_eq_shrink, LinkTable.get?_shrink]

theorem settledTable_within (settings : Settings) (batch : List ValueType) :
    (settledTable settings batch).Within (LinkTable.ofBatch settings batch) := by
  rw [settledTable_eq_shrink]
  exact LinkTable.shrink_within _

/-- No listed type fails against the settled table. -/
theorem not_refuses_settledTable {name : String} {l : LinkedSubject}
    (h : Entries.get? (settledTable settings batch) name = some l) :
    ¬ (settledTable settings batch).Refuses settings batch name := by
  intro hrefuses
  rw [get?_settledTable, if_pos (hrefuses.of_within (settledTable_within settings batch))] at h
  cases h

end AssertionGen
