import AssertionGen.Proofs.Linkage
import AssertionGen.Proofs.Storage
import AssertionGen.Proofs.Validity
/-!
# Which units get in each other's way

A unit is known by the package of its value type and the name of its class. That name is made of the
flattened name of the value type, in which nothing separates the enclosing types, so different value
types can claim one unit, and a unit can take the name of a value type (`not_unitsApart`).

With plain names, as declared classes have them, it can be said when this happens
(`units_distinct_iff`): two units coincide exactly if their value types share package and flattened
name, for which one of them has to be nested; a unit is named like a value type exactly if that one
is declared in the package under the name of the subject, and never like its own.
-/

namespace AssertionGen

variable {settings : Settings} {batch : List ValueType} {v w : ValueType}

/-! ## Plain value types -/

/-- No name of a plain value type is divided, and its package is made of segments. -/
structure ValueType.Plain (v : ValueType) : Prop where
  names : ∀ n ∈ v.enclosing ++ [v.name], IsUndivided n
  package : IsPackage v.package

/-- The value type is declared directly in the package or in the enclosing type of this qualified
name. What is nested is not in the default package. -/
def ValueType.DeclaredIn (v : ValueType) (place : String) : Prop :=
  if v.enclosing = [] then v.package = place
  else place ≠ "" ∧ qualify v.package (".".intercalate v.enclosing) = place

theorem qualify_append_dot (package outer name : String) :
    qualify package (outer ++ "." ++ name) = qualify package outer ++ "." ++ name := by
  unfold qualify
  split
  · rfl
  · simp only [String.append_assoc]

namespace Settings

theorem subjectName_inj : settings.subjectName v = settings.subjectName w ↔ v.flatName = w.flatName := by
  rw [subjectName, subjectName, String.append_left_inj, String.append_right_inj]

/-- Valid settings make every name longer. -/
theorem length_flatName_lt_of_validate (h : settings.validate = .ok ()) (v : ValueType) :
    v.flatName.length < (settings.subjectName v).length := by
  have hsum : settings.namePrefix.length + settings.nameSuffix.length ≠ 0 := by
    intro hzero
    obtain ⟨hfront, hback⟩ := Nat.add_eq_zero_iff.mp hzero
    exact (validate_eq_ok_iff.mp h).2.2.1
      ⟨String.length_eq_zero_iff.mp hfront, String.length_eq_zero_iff.mp hback⟩
  rw [subjectName, String.length_append, String.length_append]
  omega

end Settings

namespace ValueType

theorem mem_flatName {c : Char} :
    c ∈ v.flatName.toList ↔ ∃ n ∈ v.enclosing ++ [v.name], c ∈ n.toList := by
  rw [flatName, String.toList_join, List.mem_flatMap]

theorem flatName_eq_append (v : ValueType) : v.flatName = String.join v.enclosing ++ v.name := by
  rw [flatName, String.join_append, String.join_cons, String.join_nil, String.append_empty]

/-- Every character of a subject's name comes from an affix or from a name of the value type. -/
theorem notMem_subjectName (hvalid : settings.validate = .ok ()) {c : Char}
    (hc : Settings.isIdentifierChar c = false) (hnames : ∀ n ∈ v.enclosing ++ [v.name], c ∉ n.toList) :
    c ∉ (settings.subjectName v).toList := by
  obtain ⟨hfront, hback, -, -⟩ := Settings.validate_eq_ok_iff.mp hvalid
  intro hmem
  simp only [Settings.subjectName, String.toList_append, List.mem_append] at hmem
  rcases hmem with (hmem | hmem) | hmem
  · exact absurd (hfront c hmem) (by simp [hc])
  · obtain ⟨n, hn, hmem⟩ := mem_flatName.mp hmem
    exact hnames n hn hmem
  · exact absurd (hback c hmem) (by simp [hc])

namespace Plain

/-- The name of a subject is a segment as well. -/
theorem isSegment_subjectName (hv : v.Plain) (hvalid : settings.validate = .ok ()) :
    IsSegment (settings.subjectName v) := by
  refine ⟨?_, ?_, ?_⟩
  · intro hempty
    have hlt := Settings.length_flatName_lt_of_validate hvalid v
    rw [hempty] at hlt
    exact Nat.not_lt_zero _ hlt
  · exact notMem_subjectName hvalid (by decide) fun n hn => (hv.names n hn).1
  · exact notMem_subjectName hvalid (by decide) fun n hn => (hv.names n hn).2

/-- A plain value type has the qualified name that its place and its name make, and no other. -/
theorem qualifiedName_eq_qualify_iff (hv : v.Plain) {place name : String} (hname : '.' ∉ name.toList) :
    v.qualifiedName = qualify place name ↔ v.DeclaredIn place ∧ v.name = name := by
  have hdot : '.' ∉ v.name.toList := (hv.names v.name (by simp)).1
  unfold qualifiedName nestedName DeclaredIn
  split
  · next hempty =>
    rw [hempty, List.nil_append, String.intercalate_singleton]
    exact qualify_inj hdot hname
  · next hnested =>
    rw [String.intercalate_append_of_ne_nil hnested (by simp), String.intercalate_singleton,
      qualify_append_dot]
    by_cases hplace : place = ""
    · -- the nested name has a dot, which an unqualified name has not
      refine iff_of_false (fun h => hname ?_) fun h => h.1.1 hplace
      have hunqualified : qualify place name = name := if_pos hplace
      rw [← hunqualified, ← h]
      simp
    · rw [qualify_of_ne_empty hplace, Text.append_dot_inj hdot hname, and_iff_right hplace]

end Plain

end ValueType

/-! ## The units of a report -/

/-- Where a unit is looked for: the package of the value type and its flattened name. -/
def Subject.place (s : Subject) : String × String := (s.valueType.package, s.valueType.flatName)

theorem name_of_mem_subjects {s : Subject} (hs : s ∈ (generateBatch settings batch).subjects) :
    s.name = settings.subjectName s.valueType := by
  rw [(eq_assembled_of_mem_subjects hs).1]
  rfl

section Plain

variable (hvalid : settings.validate = .ok ()) (hplain : ∀ v ∈ batch, v.Plain)

include hvalid hplain

theorem plain_ofSubject {s : Subject} (hs : s ∈ (generateBatch settings batch).subjects) :
    (Java.SourceUnit.ofSubject settings s).Plain := by
  have hv : s.valueType.Plain := hplain _ (eq_assembled_of_mem_subjects hs).2
  refine ⟨hv.package, ?_⟩
  show IsSegment s.name
  rw [name_of_mem_subjects hs]
  exact hv.isSegment_subjectName hvalid

/-- Two units of a report have one name exactly if their subjects have one place. -/
theorem qualifiedName_ofSubject_inj {s t : Subject}
    (hs : s ∈ (generateBatch settings batch).subjects)
    (ht : t ∈ (generateBatch settings batch).subjects) :
    (Java.SourceUnit.ofSubject settings s).qualifiedName =
        (Java.SourceUnit.ofSubject settings t).qualifiedName ↔ s.place = t.place := by
  rw [(plain_ofSubject hvalid hplain hs).qualifiedName_inj (plain_ofSubject hvalid hplain ht)]
  show s.valueType.package = t.valueType.package ∧ s.name = t.name ↔ _
  rw [name_of_mem_subjects hs, name_of_mem_subjects ht, Settings.subjectName_inj, Subject.place,
    Subject.place, Prod.mk.injEq]

theorem qualifiedName_ofSubject_eq_iff {s : Subject}
    (hs : s ∈ (generateBatch settings batch).subjects) (hw : w ∈ batch) :
    (Java.SourceUnit.ofSubject settings s).qualifiedName = w.qualifiedName ↔
      w.DeclaredIn s.valueType.package ∧ w.name = s.name := by
  have hunit := plain_ofSubject hvalid hplain hs
  rw [eq_comm]
  exact (hplain w hw).qualifiedName_eq_qualify_iff hunit.name.2.1

theorem qualifiedName_ofSubject_ne {s : Subject}
    (hs : s ∈ (generateBatch settings batch).subjects) :
    (Java.SourceUnit.ofSubject settings s).qualifiedName ≠ s.valueType.qualifiedName := by
  intro h
  have hmem : s.valueType ∈ batch := (eq_assembled_of_mem_subjects hs).2
  have hname := ((qualifiedName_ofSubject_eq_iff hvalid hplain hs hmem).mp h).2
  have hlt := Settings.length_flatName_lt_of_validate hvalid s.valueType
  rw [← name_of_mem_subjects hs, ← hname, ValueType.flatName_eq_append, String.length_append] at hlt
  omega

end Plain

/-- The value types of the reported subjects stand in the order of the batch. -/
theorem valueTypes_sublist (settings : Settings) (batch : List ValueType) :
    ((generateBatch settings batch).subjects.map Subject.valueType).Sublist batch := by
  show ((generatedSubjects (generateAll settings (settledTable settings batch) batch)).map
    Subject.valueType).Sublist batch
  -- the table is that of the whole batch, while the induction takes the batch apart
  generalize settledTable settings batch = table
  induction batch with
  | nil => exact List.Sublist.refl []
  | cons v batch ih =>
      simp only [generatedSubjects, generateAll, List.map_cons, List.filterMap_cons] at ih ⊢
      cases hresult : generate settings table v with
      | error e => exact ih.cons v
      | ok s =>
          rw [eq_assembled_of_generate hresult]
          exact ih.cons_cons v

theorem nodup_map_congr {α β γ : Type} {f : α → β} {g : α → γ} {l : List α}
    (h : ∀ a ∈ l, ∀ b ∈ l, f a = f b ↔ g a = g b) : (l.map f).Nodup ↔ (l.map g).Nodup := by
  unfold List.Nodup
  rw [List.pairwise_map, List.pairwise_map]
  exact List.Pairwise.iff_of_mem fun ha hb => not_congr (h _ ha _ hb)

/-- Value types that are not nested have different places if their names are different. -/
theorem nodup_places_of_not_nested (hplain : ∀ v ∈ batch, v.Plain)
    (hdistinct : (batch.map ValueType.qualifiedName).Nodup) (hnested : ∀ v ∈ batch, v.enclosing = []) :
    ((generateBatch settings batch).subjects.map Subject.place).Nodup := by
  have hnames : ((generateBatch settings batch).subjects.map
      fun s => s.valueType.qualifiedName).Nodup := by
    have hsublist := (valueTypes_sublist settings batch).map ValueType.qualifiedName
    rw [List.map_map] at hsublist
    exact hdistinct.sublist hsublist
  refine (nodup_map_congr fun s hs t ht => ?_).mp hnames
  have hqualified : ∀ u ∈ (generateBatch settings batch).subjects,
      u.valueType.qualifiedName = qualify u.valueType.package u.valueType.name ∧
        u.valueType.flatName = u.valueType.name ∧ '.' ∉ u.valueType.name.toList := by
    intro u hu
    have hmem : u.valueType ∈ batch := (eq_assembled_of_mem_subjects hu).2
    have henclosing := hnested _ hmem
    refine ⟨?_, ?_, ((hplain _ hmem).names _ (by simp)).1⟩
    · rw [ValueType.qualifiedName, ValueType.nestedName, henclosing, List.nil_append,
        String.intercalate_singleton]
    · rw [ValueType.flatName_eq_append, henclosing, String.join_nil, String.empty_append]
  obtain ⟨hsname, hsflat, hsdot⟩ := hqualified s hs
  obtain ⟨htname, htflat, htdot⟩ := hqualified t ht
  rw [hsname, htname, qualify_inj hsdot htdot, Subject.place, Subject.place, hsflat, htflat,
    Prod.mk.injEq]

/-- No unit gets in the way of another one or of a value type. -/
structure UnitsApart (settings : Settings) (batch : List ValueType) : Prop where
  names : ((generateBatch settings batch).units.map Java.SourceUnit.qualifiedName).Nodup
  kept : (KeptUnits.keepAll [] (generateBatch settings batch).units).2 = .ok ()
  paths : ∀ root, ((generateBatch settings batch).units.map (Java.SourceUnit.pathUnder root)).Nodup
  types : ∀ u ∈ (generateBatch settings batch).units, ∀ v ∈ batch,
    u.qualifiedName ≠ v.qualifiedName

namespace Sample

/-- A value type without properties. -/
def bare (package : String) (enclosing : List String) (name : String) : ValueType :=
  ⟨name, package, enclosing, [], [], []⟩

/-- A nested value type and one that is named like both of its names together. -/
def twins : List ValueType := [bare "com.example" ["User"] "Type", bare "com.example" [] "UserType"]

def user : ValueType := bare "com.example" [] "User"

/-- `AutoUser` has the name of the subject of `User`. -/
def taken : List ValueType := [user, bare "com.example" [] "AutoUser"]

/-- Value types of which one has a dot in its name. -/
def dotted : List ValueType := [bare "com" [] "example.AutoUser", bare "com.Autoexample" [] "User"]

/-- Value types of which one has a slash in its name. -/
def slashed : List ValueType := [bare "com" [] "example/AutoUser", bare "com.Autoexample" [] "User"]

/-- Value types whose packages differ in an empty segment. -/
def gapped : List ValueType := [user, bare "com..example" [] "User"]

end Sample

/-- Nesting, a value type named like a subject, and names that are not plain bring units together. -/
theorem not_unitsApart :
    Settings.standard.validate = .ok () ∧
      ∀ batch ∈ [Sample.twins, Sample.taken, Sample.dotted, Sample.slashed, Sample.gapped],
        (batch.map ValueType.qualifiedName).Nodup ∧ ¬ UnitsApart Settings.standard batch := by
  refine ⟨by decide, ?_⟩
  simp only [List.forall_mem_cons, List.not_mem_nil, false_implies, implies_true, and_true]
  refine ⟨⟨by decide +kernel, fun h => ?_⟩, ⟨by decide +kernel, fun h => ?_⟩,
    ⟨by decide +kernel, fun h => ?_⟩, ⟨by decide +kernel, fun h => ?_⟩,
    ⟨by decide +kernel, fun h => ?_⟩⟩
  · exact absurd h.names (by decide +kernel)
  · exact absurd h.types (by decide +kernel)
  · exact absurd h.names (by decide +kernel)
  · exact absurd (h.paths ⟨""⟩) (by decide +kernel)
  · exact absurd (h.paths ⟨""⟩) (by decide +kernel)

/-- **When units coincide.** If all value types are plain and the settings valid, the units of a batch
have distinct names, are all kept in memory, and have distinct paths under every root, each exactly
if the reported subjects have distinct places. Without nested value types distinct names are enough.
A unit is named like a value type exactly if that one is declared in the package of the subject under
the subject's name; it is never named like its own value type. -/
theorem units_distinct_iff (settings : Settings) (batch : List ValueType)
    (hvalid : settings.validate = .ok ()) (hplain : ∀ v ∈ batch, v.Plain) :
    (((generateBatch settings batch).units.map Java.SourceUnit.qualifiedName).Nodup ↔
        ((generateBatch settings batch).subjects.map Subject.place).Nodup) ∧
      ((KeptUnits.keepAll [] (generateBatch settings batch).units).2 = .ok () ↔
        ((generateBatch settings batch).subjects.map Subject.place).Nodup) ∧
      (∀ root, ((generateBatch settings batch).units.map
          (Java.SourceUnit.pathUnder root)).Nodup ↔
        ((generateBatch settings batch).subjects.map Subject.place).Nodup) ∧
      ((batch.map ValueType.qualifiedName).Nodup → (∀ v ∈ batch, v.enclosing = []) →
        ((generateBatch settings batch).subjects.map Subject.place).Nodup) ∧
      ∀ s ∈ (generateBatch settings batch).subjects,
        (∀ w ∈ batch,
          (Java.SourceUnit.ofSubject settings s).qualifiedName = w.qualifiedName ↔
            w.DeclaredIn s.valueType.package ∧ w.name = s.name) ∧
        (Java.SourceUnit.ofSubject settings s).qualifiedName ≠ s.valueType.qualifiedName := by
  have hnames : ((generateBatch settings batch).units.map Java.SourceUnit.qualifiedName).Nodup ↔
      ((generateBatch settings batch).subjects.map Subject.place).Nodup := by
    rw [units_generateBatch, List.map_map]
    exact nodup_map_congr fun s hs t ht => qualifiedName_ofSubject_inj hvalid hplain hs ht
  refine ⟨hnames, ?_, fun root => ?_, nodup_places_of_not_nested hplain, fun s hs => ⟨?_, ?_⟩⟩
  · have hnew : ∀ u ∈ (generateBatch settings batch).units,
        u.qualifiedName ∉ Entries.keys ([] : KeptUnits) := fun _ _ => List.not_mem_nil
    rw [KeptUnits.keepAll_eq_ok_iff, and_iff_right hnew, hnames]
  · rw [← hnames]
    refine nodup_map_congr fun u hu w hw => ?_
    obtain ⟨s, hs, rfl⟩ := List.mem_map.mp hu
    obtain ⟨t, ht, rfl⟩ := List.mem_map.mp hw
    exact (plain_ofSubject hvalid hplain hs).pathUnder_inj (plain_ofSubject hvalid hplain ht) root
  · exact fun w hw => qualifiedName_ofSubject_eq_iff hvalid hplain hs hw
  · exact qualifiedName_ofSubject_ne hvalid hplain hs

theorem units_distinct_iff_taken :
    Settings.standard.validate = .ok () ∧ (∀ v ∈ Sample.taken, v.Plain) ∧
      ((generateBatch Settings.standard Sample.taken).units.map
        Java.SourceUnit.qualifiedName).Nodup ∧
      (KeptUnits.keepAll [] (generateBatch Settings.standard Sample.taken).units).2 = .ok () ∧
      (∀ root, ((generateBatch Settings.standard Sample.taken).units.map
        (Java.SourceUnit.pathUnder root)).Nodup) ∧
      (Java.SourceUnit.ofSubject Settings.standard (Sample.user.assembled Settings.standard
        (settledTable Settings.standard Sample.taken))).qualifiedName = "com.example.AutoUser" := by
  have hvalid : Settings.standard.validate = .ok () := by decide
  have hplain : ∀ v ∈ Sample.taken, v.Plain := by
    simp only [Sample.taken, List.forall_mem_cons, List.not_mem_nil, false_implies, implies_true,
      and_true]
    exact ⟨⟨by decide, by decide⟩, ⟨by decide, by decide⟩⟩
  obtain ⟨hnames, hkept, hpaths, hnested, htypes⟩ :=
    units_distinct_iff Settings.standard Sample.taken hvalid hplain
  have hplaces := hnested (by decide +kernel) (by decide)
  have hs : Sample.user.assembled Settings.standard (settledTable Settings.standard Sample.taken) ∈
      (generateBatch Settings.standard Sample.taken).subjects := by decide +kernel
  have hw : Sample.bare "com.example" [] "AutoUser" ∈ Sample.taken := by decide
  refine ⟨hvalid, hplain, hnames.mpr hplaces, hkept.mpr hplaces, fun root => (hpaths root).mpr hplaces,
    ?_⟩
  rw [((htypes _ hs).1 _ hw).mpr ⟨rfl, by decide +kernel⟩]
  decide

end AssertionGen
