import AssertionGen.Proofs.Fates
import AssertionGen.Check.Runner
/-!
# What the nullable flags reach

A property may be flagged as nullable. The flag has no part in the classification of types, in names,
in links or in warnings; all it does is to set two marks in the equality of a variable or an object.
So two batches that differ in flags alone are settled alike (`settledTable_congr`), each value type
fails in both with one error or in none (`generate_flags`), and the subjects differ in those marks
alone (`Subject.DiffersInMarks`).

Everything here is compared with the unflagged form: what does not see a flag is the same function of
a property, a value type or a batch with all flags taken off. The marks do not count when a method is
called (`Runner.invoke_congr`), by the same argument with the marks taken off.
-/

namespace AssertionGen

variable {settings : Settings} {table : LinkTable} {batch other : List ValueType} {v w : ValueType}
  {p q : Property} {ps qs : List Property} {b : Bool}

/-! ## Flags -/

namespace Property

/-- The property with this flag. -/
def flagged (p : Property) (b : Bool) : Property := { p with nullable := b }

/-- The property as it is without its flag. -/
def unflagged (p : Property) : Property := p.flagged false

theorem eq_flagged (h : p.unflagged = q.unflagged) : q = p.flagged q.nullable := by
  obtain ⟨name, accessor, kind, type, nullable⟩ := p
  obtain ⟨name', accessor', kind', type', nullable'⟩ := q
  simp only [unflagged, flagged, mk.injEq, and_true] at h ⊢
  obtain ⟨rfl, rfl, rfl, rfl⟩ := h
  exact ⟨rfl, rfl, rfl, rfl⟩

theorem type_eq_of_unflagged (h : p.unflagged = q.unflagged) : p.type = q.type := by
  rw [eq_flagged h]
  rfl

theorem accessor_eq_of_unflagged (h : p.unflagged = q.unflagged) : p.accessor = q.accessor := by
  rw [eq_flagged h]
  rfl

/-- What does not see the flag is the same for properties that differ in flags alone. -/
theorem map_congr_unflagged {β : Type} {f : Property → β} (hf : ∀ p, f p.unflagged = f p)
    (h : ps.map unflagged = qs.map unflagged) : ps.map f = qs.map f := by
  have hmap : ∀ xs : List Property, xs.map f = (xs.map unflagged).map f := by
    intro xs
    rw [List.map_map]
    exact List.map_congr_left fun p _ => (hf p).symm
  rw [hmap, h, ← hmap]

theorem flatMap_congr_unflagged {β : Type} {f : Property → List β} (hf : ∀ p, f p.unflagged = f p)
    (h : ps.map unflagged = qs.map unflagged) : ps.flatMap f = qs.flatMap f := by
  rw [List.flatMap_def, List.flatMap_def, map_congr_unflagged hf h]

theorem unambiguous_of_unflagged (h : ps.map unflagged = qs.map unflagged)
    (hps : ∀ p ∈ ps, p.Unambiguous) : ∀ q ∈ qs, q.Unambiguous := by
  have htypes : ps.map Property.type = qs.map Property.type :=
    map_congr_unflagged (fun _ => rfl) h
  intro q hq
  have hmem : q.type ∈ ps.map Property.type := by
    rw [htypes]
    exact List.mem_map_of_mem hq
  obtain ⟨p, hp, htype⟩ := List.mem_map.mp hmem
  obtain ⟨c, hc⟩ := hps p hp
  exact ⟨c, by rw [← htype, hc]⟩

end Property

namespace ValueType

/-- The value type as it is without the flags of its properties. -/
def unflagged (v : ValueType) : ValueType :=
  { v with properties := v.properties.map Property.unflagged }

theorem unflagged_unflagged (v : ValueType) : v.unflagged.unflagged = v.unflagged := by
  simp only [unflagged, List.map_map]
  rfl

theorem eq_with_properties (h : v.unflagged = w.unflagged) :
    w = { v with properties := w.properties } := by
  obtain ⟨name, package, enclosing, properties, typeParameters, enumConstants⟩ := v
  obtain ⟨name', package', enclosing', properties', typeParameters', enumConstants'⟩ := w
  simp only [unflagged, mk.injEq] at h
  obtain ⟨rfl, rfl, rfl, -, rfl, rfl⟩ := h
  rfl

theorem map_properties_unflagged (h : v.unflagged = w.unflagged) :
    v.properties.map Property.unflagged = w.properties.map Property.unflagged :=
  congrArg properties h

end ValueType

/-! ## Marks -/

/-- Whether the equality is marked as the property is flagged. -/
def Category.showsFlag : Category → Bool
  | typeVariable _ | object => true
  | _ => false

/-- The method with both marks set, if it is an equality; the marks say whether its parameter may be
null and whether its comparison is sensitive to null. -/
def Method.marked (b : Bool) (m : Method) : Method :=
  match m.body with
  | .equals a t _ =>
    { m with
      parameters := m.parameters.map fun p => { p with nullable := b }
      body := .equals a t b }
  | _ => m

/-- The group with the marks of its equality set. -/
def MethodGroup.marked (b : Bool) (g : MethodGroup) : MethodGroup :=
  { g with methods := g.methods.map (Method.marked b) }

/-- The group with its marks set, or as it is. -/
def MethodGroup.remarked : Option Bool → MethodGroup → MethodGroup
  | some b, g => g.marked b
  | none, g => g

namespace Method

theorem marked_of_ne_equals {m : Method} (h : ∀ a t nullSensitive, m.body ≠ .equals a t nullSensitive) :
    m.marked b = m := by
  unfold marked
  split
  · next a t nullSensitive hbody => exact absurd hbody (h a t nullSensitive)
  · rfl

theorem marked_of_equals {m : Method} {a : Access} {t : JavaType} {nullSensitive : Bool}
    (h : m.body = .equals a t nullSensitive) :
    m.marked b = { m with
      parameters := m.parameters.map fun p => { p with nullable := b }
      body := .equals a t b } := by
  unfold marked
  rw [h]

@[simp] theorem name_marked (b : Bool) (m : Method) : (m.marked b).name = m.name := by
  unfold marked
  split <;> rfl

/-- A method is an equality, or has no marks to set. -/
theorem equality_or_marked_eq (m : Method) :
    (∃ a t nullSensitive, m.body = .equals a t nullSensitive) ∨ ∀ b, m.marked b = m := by
  by_cases hequality : ∃ a t nullSensitive, m.body = .equals a t nullSensitive
  · exact Or.inl hequality
  · refine Or.inr fun b => marked_of_ne_equals ?_
    intro a t nullSensitive hbody
    exact hequality ⟨a, t, nullSensitive, hbody⟩

/-- Setting the marks takes no notice of how they were set. -/
theorem marked_marked (c : Bool) (m : Method) : (m.marked b).marked c = m.marked c := by
  rcases m.equality_or_marked_eq with ⟨a, t, nullSensitive, hbody⟩ | hplain
  · have hmarked : (m.marked b).body = .equals a t b := by rw [marked_of_equals hbody]
    rw [marked_of_equals hmarked, marked_of_equals hbody, marked_of_equals hbody]
    simp only [List.map_map, Function.comp_def]
  · rw [hplain]

end Method

namespace NamedProperty

variable {n : NamedProperty}

/-- The property with this flag. -/
def flagged (n : NamedProperty) (b : Bool) : NamedProperty :=
  { n with property := n.property.flagged b }

theorem methods_flagged_of_showsFlag (h : n.category.showsFlag = true) :
    (n.flagged b).methods = [n.equals b] := by
  obtain ⟨p, c, name⟩ := n
  cases c <;> first | rfl | cases h

theorem methods_flagged_of_not_showsFlag (h : ¬ n.category.showsFlag = true) :
    (n.flagged b).methods = n.methods := by
  obtain ⟨p, c, name⟩ := n
  cases c with
  | typeVariable m | object => exact absurd rfl h
  | container k e => cases k <;> rfl
  | _ => rfl

theorem methods_of_showsFlag (h : n.category.showsFlag = true) :
    n.methods = [n.equals n.property.nullable] :=
  methods_flagged_of_showsFlag (b := n.property.nullable) h

theorem marked_of_linkedHandle? {m : Method} (h : n.linkedHandle? table = some m) :
    m.marked b = m := by
  obtain ⟨-, l, -, rfl⟩ := linkedHandle?_eq_some_iff.mp h
  rfl

/-- Only the group of a variable or an object depends on the flag, and it does by its marks. -/
theorem group_flagged (n : NamedProperty) (table : LinkTable) (b : Bool) :
    (n.flagged b).group table =
      if n.category.showsFlag then (n.group table).marked b else n.group table := by
  have hlink : (n.flagged b).linkedHandle? table = n.linkedHandle? table := rfl
  split
  · next hshows =>
    have hhandle : (n.linkedHandle? table).toList.map (Method.marked b) =
        (n.linkedHandle? table).toList := by
      cases hm : n.linkedHandle? table with
      | none => rfl
      | some m => exact congrArg (fun m => [m]) (marked_of_linkedHandle? hm)
    rw [group, group, MethodGroup.marked, hlink, methods_flagged_of_showsFlag hshows,
      methods_of_showsFlag hshows, List.map_append, hhandle]
    rfl
  · next hsilent =>
    rw [group, group, hlink, methods_flagged_of_not_showsFlag hsilent]
    rfl

/-- No flag changes the name of a method. -/
theorem names_group_flagged (n : NamedProperty) (table : LinkTable) (b : Bool) :
    ((n.flagged b).group table).methods.map Method.name =
      (n.group table).methods.map Method.name := by
  rw [group_flagged]
  split
  · simp [MethodGroup.marked]
  · rfl

end NamedProperty

/-! ## Two generations -/

theorem baseNames_congr (h : v.unflagged = w.unflagged) : v.baseNames = w.baseNames := by
  unfold ValueType.baseNames
  rw [List.map_map, List.map_map]
  exact Property.map_congr_unflagged (fun _ => rfl) (ValueType.map_properties_unflagged h)

/-- The names of a property's methods, each with the accessor that owns it. -/
def Property.ownedNames (table : LinkTable) (p : Property) : List (String × String) :=
  ((p.named.group table).methods.map Method.name).map fun name => (name, p.accessor)

theorem Property.ownedNames_unflagged (table : LinkTable) (p : Property) :
    p.unflagged.ownedNames table = p.ownedNames table := by
  show ((((p.named.flagged false).group table).methods.map Method.name).map fun name =>
    (name, p.accessor)) = _
  rw [NamedProperty.names_group_flagged, ownedNames]

theorem methodNames_eq (settings : Settings) (table : LinkTable) (v : ValueType) :
    v.methodNames settings table =
      (settings.factoryName v, "static factory") ::
        ((if settings.assertThat then [("assertThat", "static assertThat")] else []) ++
          (v.properties.flatMap (Property.ownedNames table) ++
            v.enumConstants.flatMap fun c =>
              (constantGroup c).methods.map fun m => (m.name, c))) := by
  unfold ValueType.methodNames Subject.ownedNames Property.ownedNames
  rw [groups_assembled, List.flatMap_append, List.flatMap_map, List.flatMap_map]
  simp only [List.map_map]
  rfl

theorem methodNames_congr (settings : Settings) (table : LinkTable)
    (h : v.unflagged = w.unflagged) :
    v.methodNames settings table = w.methodNames settings table := by
  have hproperties : v.properties.flatMap (Property.ownedNames table) =
      w.properties.flatMap (Property.ownedNames table) :=
    Property.flatMap_congr_unflagged (Property.ownedNames_unflagged table)
      (ValueType.map_properties_unflagged h)
  rw [methodNames_eq, methodNames_eq, hproperties, ValueType.eq_with_properties h]
  rfl

theorem qualifiedName_congr (h : v.unflagged = w.unflagged) : v.qualifiedName = w.qualifiedName := by
  rw [ValueType.eq_with_properties h]
  rfl

/-- The second generation ends as the first one does: with the same error, or with a subject. -/
theorem generate_flags (settings : Settings) (table : LinkTable) (h : v.unflagged = w.unflagged) :
    generate settings table w =
      (generate settings table v).map fun _ => w.assembled settings table := by
  have hproperties := ValueType.map_properties_unflagged h
  rcases Property.unambiguous_or_first v.properties with
    htypes | ⟨before, p, after, a, hv, hbefore, hp⟩
  · rw [generate_of_unambiguous htypes,
      generate_of_unambiguous (Property.unambiguous_of_unflagged hproperties htypes),
      ← baseNames_congr h, ← methodNames_congr settings table h, ← qualifiedName_congr h]
    -- what remains are the checks of names, which are the same
    cases checkNames v.qualifiedName v.baseNames with
    | error e => rfl
    | ok _ => cases checkNames v.qualifiedName (v.methodNames settings table) <;> rfl
  · -- the first ambiguous property stands at the same place, and fails with the same accessor
    rw [hv, List.map_append, List.map_cons, eq_comm, List.map_eq_append_iff] at hproperties
    obtain ⟨before', rest, hw, hbefore', hrest⟩ := hproperties
    obtain ⟨q, after', rfl, hq, -⟩ := List.map_eq_cons_iff.mp hrest
    have hfirst : classifyStrict q.type = .error a := by
      rw [Property.type_eq_of_unflagged hq, hp]
    rw [generate_of_ambiguous hv hbefore hp, generate_of_ambiguous hw
      (Property.unambiguous_of_unflagged hbefore'.symm hbefore) hfirst, qualifiedName_congr h,
      Property.accessor_eq_of_unflagged hq]
    rfl

/-! ## Two batches -/

namespace LinkTable

theorem ofBatch_unflagged (settings : Settings) (batch : List ValueType) :
    ofBatch settings (batch.map ValueType.unflagged) = ofBatch settings batch := by
  unfold ofBatch
  rw [List.filter_map, List.map_map]
  rfl

theorem shrink_unflagged (settings : Settings) (batch : List ValueType) (table : LinkTable) :
    table.shrink settings (batch.map ValueType.unflagged) = table.shrink settings batch := by
  have hfailed : failedNames (generateAll settings table (batch.map ValueType.unflagged)) =
      failedNames (generateAll settings table batch) := by
    unfold failedNames generateAll
    rw [List.map_map, List.filterMap_map, List.filterMap_map]
    refine List.filterMap_congr ?_
    intro v _
    have hflags := generate_flags settings table v.unflagged_unflagged.symm
    simp only [Function.comp_apply, hflags]
    cases generate settings table v <;> rfl
  rw [shrink, shrink, hfailed]

end LinkTable

theorem settledTable_unflagged (settings : Settings) (batch : List ValueType) :
    settledTable settings (batch.map ValueType.unflagged) = settledTable settings batch := by
  rw [settledTable_eq_shrink, settledTable_eq_shrink, LinkTable.ofBatch_unflagged,
    LinkTable.shrink_unflagged]

/-- Flags do not change what can be linked. -/
theorem settledTable_congr (settings : Settings)
    (h : batch.map ValueType.unflagged = other.map ValueType.unflagged) :
    settledTable settings batch = settledTable settings other := by
  rw [← settledTable_unflagged, h, settledTable_unflagged]

/-! ## Two subjects -/

/-- The marks to be set in a group for the second value type: those of the property at this place, if
its equality shows the flag and the flag has changed. -/
def changedFlag? (v w : ValueType) (i : Nat) : Option Bool :=
  match v.properties[i]?, w.properties[i]? with
  | some p, some q =>
    if p.named.category.showsFlag ∧ p.nullable ≠ q.nullable then some q.nullable else none
  | _, _ => none

/-- The second subject is the first one with the marks set for every property whose flag has changed
and shows. -/
structure Subject.DiffersInMarks (s s' : Subject) : Prop where
  valueType : s.valueType.unflagged = s'.valueType.unflagged
  name : s.name = s'.name
  typeParameters : s.typeParameters = s'.typeParameters
  warnings : s.warnings = s'.warnings
  groups : ∀ i : Nat, s'.groups[i]? =
    (s.groups[i]?).map (MethodGroup.remarked (changedFlag? s.valueType s'.valueType i))

theorem bindings_congr (h : v.unflagged = w.unflagged) : v.bindings = w.bindings := by
  have hoccurrences : v.variableOccurrences = w.variableOccurrences :=
    Property.flatMap_congr_unflagged (fun _ => rfl) (ValueType.map_properties_unflagged h)
  rw [ValueType.bindings_eq, ValueType.bindings_eq, ValueType.freeVariables, ValueType.freeVariables,
    hoccurrences, ValueType.eq_with_properties h]
  rfl

theorem warnings_congr (settings : Settings) (table : LinkTable) (h : v.unflagged = w.unflagged) :
    (v.assembled settings table).warnings = (w.assembled settings table).warnings := by
  show (v.properties.map Property.named).flatMap (fun n => n.warnings v.qualifiedName) =
    (w.properties.map Property.named).flatMap fun n => n.warnings w.qualifiedName
  rw [List.flatMap_map, List.flatMap_map, qualifiedName_congr h]
  exact Property.flatMap_congr_unflagged (fun _ => rfl) (ValueType.map_properties_unflagged h)

theorem getElem?_properties_congr (h : v.unflagged = w.unflagged) (i : Nat) :
    (v.properties[i]?).map Property.unflagged = (w.properties[i]?).map Property.unflagged := by
  rw [← List.getElem?_map, ← List.getElem?_map, ValueType.map_properties_unflagged h]

/-- The group of a property, with the flag of the second value type. -/
theorem group_of_changedFlag? (table : LinkTable) {i : Nat} (hp : v.properties[i]? = some p)
    (hq : w.properties[i]? = some q) (h : p.unflagged = q.unflagged) :
    q.named.group table = (p.named.group table).remarked (changedFlag? v w i) := by
  have hflag : changedFlag? v w i =
      if p.named.category.showsFlag ∧ p.nullable ≠ q.nullable then some q.nullable else none := by
    rw [changedFlag?, hp, hq]
  have hgroup : q.named.group table = (p.named.flagged q.nullable).group table := by
    conv_lhs => rw [Property.eq_flagged h]
    rfl
  rw [hgroup, hflag]
  split
  · next hchanged => rw [NamedProperty.group_flagged, if_pos hchanged.1]; rfl
  · next hsame =>
    -- either the flag does not show, or it is the same one
    show _ = p.named.group table
    by_cases hnullable : p.nullable = q.nullable
    · rw [← hnullable]
      rfl
    · rw [NamedProperty.group_flagged, if_neg fun hshows => hsame ⟨hshows, hnullable⟩]

theorem assembled_differsInMarks (settings : Settings) (table : LinkTable)
    (h : v.unflagged = w.unflagged) :
    (v.assembled settings table).DiffersInMarks (w.assembled settings table) where
  valueType := h
  name := by
    show settings.subjectName v = settings.subjectName w
    rw [ValueType.eq_with_properties h]
    rfl
  typeParameters := bindings_congr h
  warnings := warnings_congr settings table h
  groups i := by
    show _ = Option.map (MethodGroup.remarked (changedFlag? v w i)) _
    have hproperty := getElem?_properties_congr h i
    cases hp : v.properties[i]? with
    | some p =>
        rw [hp] at hproperty
        obtain ⟨q, hq, hunflagged⟩ := Option.map_eq_some_iff.mp hproperty.symm
        rw [groups_assembled_of_property hp, groups_assembled_of_property hq,
          group_of_changedFlag? table hp hq hunflagged.symm]
        rfl
    | none =>
        -- past the properties stand the groups of the constants, which have no flags
        rw [hp] at hproperty
        have hq : w.properties[i]? = none := by simpa using hproperty.symm
        have hflag : changedFlag? v w i = none := by rw [changedFlag?, hp]
        have hlength : v.properties.length = w.properties.length := by
          simpa using congrArg List.length (ValueType.map_properties_unflagged h)
        have hconstants : v.enumConstants = w.enumConstants := by
          rw [ValueType.eq_with_properties h]
        have hle : v.properties.length ≤ i := List.getElem?_eq_none_iff.mp hp
        rw [hflag, groups_assembled, groups_assembled,
          List.getElem?_append_right (by simpa [hlength] using hle),
          List.getElem?_append_right (by simpa using hle), hconstants]
        simp only [List.length_map, hlength]
        exact Option.map_id'.symm

/-! ## Two runs -/

/-- The method with its marks taken off. -/
def Method.unmarked (m : Method) : Method := m.marked false

theorem MethodGroup.unmarked_remarked (o : Option Bool) (g : MethodGroup) :
    (g.remarked o).methods.map Method.unmarked = g.methods.map Method.unmarked := by
  cases o with
  | none => rfl
  | some b =>
      show (g.methods.map (Method.marked b)).map Method.unmarked = _
      rw [List.map_map]
      exact List.map_congr_left fun m _ => Method.marked_marked false m

/-- Without their marks, the two subjects have the same methods. -/
theorem Subject.DiffersInMarks.unmarked_methods {s s' : Subject} (h : s.DiffersInMarks s') :
    s.methods.map Method.unmarked = s'.methods.map Method.unmarked := by
  have hgroups : s.groups.map (fun g => g.methods.map Method.unmarked) =
      s'.groups.map fun g => g.methods.map Method.unmarked := by
    apply List.ext_getElem?
    intro i
    rw [List.getElem?_map, List.getElem?_map, h.groups i, Option.map_map]
    refine congrFun (congrArg Option.map ?_) _
    funext g
    exact (MethodGroup.unmarked_remarked _ g).symm
  rw [methods, methods, List.map_flatMap, List.map_flatMap, List.flatMap_def, List.flatMap_def,
    hgroups]

namespace Runner

variable {r : Runner} {args : List Value}

theorem checkTypes_marked (bind : TypeArguments) (name : String) (ps : List Parameter)
    (args : List Value) :
    checkTypes bind name (ps.map fun p => { p with nullable := b }) args =
      checkTypes bind name ps args := by
  induction args generalizing ps with
  | nil => cases ps <;> rfl
  | cons a args ih =>
      cases ps with
      | nil => rfl
      | cons p ps =>
          have hrest : checkTypes bind name (if (ps.map fun p => { p with nullable := b }).isEmpty
              then [{ p with nullable := b }] else ps.map fun p => { p with nullable := b }) args =
                checkTypes bind name (if ps.isEmpty then [p] else ps) args := by
            cases ps with
            | nil => exact ih [p]
            | cons p' ps => exact ih (p' :: ps)
          rw [List.map_cons, checkTypes, checkTypes, hrest]

/-- The marks have no part in the check of arguments, -/
theorem checkArguments_marked (r : Runner) (m : Method) (b : Bool) (args : List Value) :
    r.checkArguments (m.marked b) args = r.checkArguments m args := by
  rcases m.equality_or_marked_eq with ⟨a, t, nullSensitive, hbody⟩ | hplain
  · have hvariadic : isVariadic (m.parameters.map fun p => { p with nullable := b }) =
        isVariadic m.parameters := by
      unfold isVariadic
      rw [List.getLast?_map]
      cases m.parameters.getLast? <;> rfl
    rw [Method.marked_of_equals hbody, checkArguments, checkArguments]
    simp only [hvariadic, List.length_map, checkTypes_marked]
  · rw [hplain]

/-- and none in what the body does. -/
theorem run_marked (r : Runner) (m : Method) (b : Bool) (args : List Value) :
    r.run (m.marked b) args = r.run m args := by
  rcases m.equality_or_marked_eq with ⟨a, t, nullSensitive, hbody⟩ | hplain
  · have hmarked : (m.marked b).body = .equals a t b := by rw [Method.marked_of_equals hbody]
    have hfailure : (m.marked b).failure = m.failure := by rw [Method.marked_of_equals hbody]
    unfold run
    rw [hbody, hmarked]
    simp only [runOn, hbody, hmarked, displayName, hfailure]
  · rw [hplain]

theorem method?_unmarked (s : Subject) (name : String) :
    (s.methods.map Method.unmarked).find? (fun m => m.name = name) =
      (s.method? name).map Method.unmarked := by
  rw [List.find?_map, Subject.method?]
  simp only [Function.comp_def, Method.unmarked, Method.name_marked]

/-- Subjects that differ in marks alone answer alike. -/
theorem invoke_congr {s s' : Subject} (h : s.DiffersInMarks s') (actual : Value)
    (typeArguments : TypeArguments) (name : String) (args : List Value) :
    invoke ⟨s, actual, typeArguments⟩ name args = invoke ⟨s', actual, typeArguments⟩ name args := by
  have hmethod : (s.method? name).map Method.unmarked = (s'.method? name).map Method.unmarked := by
    rw [← method?_unmarked, ← method?_unmarked, h.unmarked_methods]
  unfold invoke
  dsimp only
  cases hm : s.method? name with
  | none =>
      rw [hm] at hmethod
      have hm' : s'.method? name = none := by simpa using hmethod.symm
      rw [hm', h.name]
  | some m =>
      rw [hm] at hmethod
      obtain ⟨m', hm', hunmarked⟩ := Option.map_eq_some_iff.mp hmethod.symm
      rw [hm']
      dsimp only
      -- both methods are checked and run as the one without marks
      rw [← checkArguments_marked _ m false, ← checkArguments_marked _ m' false,
        ← run_marked _ m false, ← run_marked _ m' false]
      show _ = (checkArguments _ m'.unmarked args >>= fun _ => run _ m'.unmarked args)
      rw [hunmarked]
      rfl

end Runner

end AssertionGen
