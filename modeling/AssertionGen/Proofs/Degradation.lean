import AssertionGen.Proofs.Groups
/-!
# What is degraded is warned of

Containments of an element type are asserted by methods that take elements as arguments. Where a type
variable occurs in the element type of an iterable, a multiset or an array, only the handle is
generated, and a warning names the property and the variables.

A wildcard for an element is no such case. It never gets containments, with variables in its bound or
without, and so nothing is degraded and nothing is warned of: `List<? extends T>` is silent
(`not_reportsDegradation`). With wildcards inside iterables and multisets left out, what is degraded
and what is warned of are the same (`degradation_reported`).
-/

namespace AssertionGen

/-! ## What is warned of -/

/-- The element type of an iterable, a multiset or an array of objects, and what it is to it. -/
def Category.elementAt? : Category → Option (JavaType × VariablePosition)
  | iterable (some e) | container .multiset (some e) => some (e, .elementType)
  | objectArray e => some (e, .arrayComponent)
  | _ => none

/-- It is that of an array of objects, or the element type of which containments can be asserted. -/
theorem Category.elementAt?_eq_some_iff {c : Category} {e : JavaType} {position : VariablePosition} :
    c.elementAt? = some (e, position) ↔
      c = .objectArray e ∧ position = .arrayComponent ∨
        c.contained? = some e ∧ position = .elementType := by
  cases c with
  | objectArray a => simp [elementAt?, contained?, eq_comm]
  | iterable a => cases a <;> simp [elementAt?, contained?, eq_comm]
  | container k a => cases k <;> cases a <;> simp [elementAt?, contained?, eq_comm]
  | _ => simp [elementAt?, contained?]

/-- A category with such an element type has a handle, and no other element type is known of it. -/
theorem Category.exists_handleKind? {c : Category} {e : JavaType} {position : VariablePosition}
    (h : c.elementAt? = some (e, position)) :
    ∃ kind, c.handleKind? = some kind ∧ ∀ e', c.contained? = some e' → e' = e := by
  rcases elementAt?_eq_some_iff.mp h with ⟨rfl, -⟩ | ⟨he, -⟩
  · exact ⟨_, rfl, fun e' he' => by cases he'⟩
  · refine (c.exists_handleKind?_of_contained? he).imp fun kind hkind => ⟨hkind, ?_⟩
    intro e' he'
    exact Option.some.inj (he'.symm.trans he)

/-- The warning is about the element type of a property: it names each variable that occurs in it
once, in the order in which they come first. -/
structure Warning.IsAbout (w : Warning) (owner accessor : String) (e : JavaType)
    (position : VariablePosition) : Prop where
  valueType : w.valueType = owner
  accessor : w.accessor = accessor
  variable_iff : ∀ n, n ∈ w.variableNames ↔ e.Occurs n
  nodup : w.variableNames.Nodup
  ordered : w.variableNames.Pairwise fun a b => e.occurrences.idxOf a < e.occurrences.idxOf b
  message : w.message = "type variable " ++ ", ".intercalate w.variableNames ++ " used as " ++
    Warning.positionText position ++ "; only the accessor handle was generated"

/-- What is reported of a property with its group, where element types in `counts` are to be reported:
one warning if the group has only the handle because of type variables, and else none. -/
inductive NamedProperty.Reports (counts : JavaType → VariablePosition → Prop) (owner : String)
    (p : NamedProperty) (g : MethodGroup) : List Warning → Prop where
  | degraded {e : JavaType} {position : VariablePosition} {kind : HandleKind} {w : Warning}
      (helement : p.category.elementAt? = some (e, position)) (hcounts : counts e position)
      (hvariable : ∃ n, e.Occurs n) (hkind : p.category.handleKind? = some kind)
      (honly : g.methods = [p.delegate kind])
      (hw : w.IsAbout owner p.property.accessor e position) : Reports counts owner p g [w]
  | silent (h : ∀ e position, p.category.elementAt? = some (e, position) → counts e position →
      ∀ n, ¬ e.Occurs n) : Reports counts owner p g []

/-- The warnings of a subject are what is reported of its properties, in their order. -/
def Subject.ReportsDegradation (counts : JavaType → VariablePosition → Prop) (s : Subject) : Prop :=
  ∃ parts : List (List Warning), s.warnings = parts.flatten ∧
    parts.length = s.valueType.properties.length ∧
    ∀ (i : Nat) (p : Property), s.valueType.properties[i]? = some p →
      ∃ c g ws, classifyStrict p.type = .ok c ∧ s.groups[i]? = some g ∧ parts[i]? = some ws ∧
        (NamedProperty.of p c).Reports counts s.valueType.qualifiedName g ws

/-- No wildcard stands for the elements of an iterable or a multiset. -/
def NoWildcard (e : JavaType) (position : VariablePosition) : Prop :=
  position = .elementType → ∀ upper, e ≠ .wildcard upper

namespace NamedProperty

variable {p : NamedProperty} {owner : String} {e : JavaType} {position : VariablePosition}

theorem degraded_isAbout (p : NamedProperty) (owner : String) (e : JavaType)
    (position : VariablePosition) :
    (p.degraded owner e position).IsAbout owner p.property.accessor e position where
  valueType := rfl
  accessor := rfl
  variable_iff _ := JavaType.mem_variableNames_iff
  nodup := e.nodup_variableNames
  ordered := pairwise_idxOf_firstSeen e.occurrences
  message := rfl

/-! ## The two cases -/

theorem elementWarnings_of_mentions (hwildcard : ∀ upper, e ≠ .wildcard upper)
    (h : e.mentionsVariable = true) :
    p.elementWarnings owner (some e) = [p.degraded owner e .elementType] := by
  unfold elementWarnings
  split
  · next hnone => cases hnone
  · next upper heq =>
    rw [Option.some.injEq] at heq
    exact absurd heq (hwildcard upper)
  · next e' _ heq =>
    rw [Option.some.injEq] at heq
    rw [← heq, if_pos h]

theorem elementWarnings_of_silent {element : Option JavaType}
    (h : ∀ e, element = some e → (∀ upper, e ≠ .wildcard upper) → e.mentionsVariable = false) :
    p.elementWarnings owner element = [] := by
  unfold elementWarnings
  split
  · rfl
  · rfl
  · next e hwildcard =>
    refine if_neg ?_
    rw [h e rfl fun upper heq => hwildcard upper (by rw [heq])]
    exact Bool.false_ne_true

/-- Apart from arrays, what is warned of is the element type of which containments can be
asserted. -/
theorem warnings_of_ne_objectArray (h : ∀ a, p.category ≠ .objectArray a) :
    p.warnings owner = p.elementWarnings owner p.category.contained? := by
  unfold warnings
  generalize p.category = c at h ⊢
  cases c with
  | objectArray a => exact absurd rfl (h a)
  | container k a => cases k <;> rfl
  | _ => rfl

theorem warnings_of_objectArray (h : p.category = .objectArray e) :
    p.warnings owner =
      if e.mentionsVariable then [p.degraded owner e .arrayComponent] else [] := by
  unfold warnings
  rw [h]

theorem warnings_of_variable (helement : p.category.elementAt? = some (e, position))
    (hcounts : NoWildcard e position) (hvariable : ∃ n, e.Occurs n) :
    p.warnings owner = [p.degraded owner e position] := by
  have hmentions : e.mentionsVariable = true := JavaType.mentionsVariable_iff.mpr hvariable
  rcases Category.elementAt?_eq_some_iff.mp helement with ⟨harray, rfl⟩ | ⟨he, rfl⟩
  · rw [warnings_of_objectArray harray, if_pos hmentions]
  · have hplain : ∀ a, p.category ≠ .objectArray a := by
      intro a ha
      rw [ha] at he
      cases he
    rw [warnings_of_ne_objectArray hplain, he]
    exact elementWarnings_of_mentions (hcounts rfl) hmentions

theorem warnings_of_silent
    (h : ∀ e position, p.category.elementAt? = some (e, position) → NoWildcard e position →
      ∀ n, ¬ e.Occurs n) : p.warnings owner = [] := by
  by_cases harray : ∃ a, p.category = .objectArray a
  · obtain ⟨a, ha⟩ := harray
    have hclosed : ∀ n, ¬ a.Occurs n :=
      h a .arrayComponent (Category.elementAt?_eq_some_iff.mpr (Or.inl ⟨ha, rfl⟩)) fun hposition => by
        cases hposition
    rw [warnings_of_objectArray ha, mentionsVariable_eq_false a hclosed]
    rfl
  · -- a wildcard is silent by itself, so variables can only be in another element type
    rw [warnings_of_ne_objectArray fun a ha => harray ⟨a, ha⟩]
    refine elementWarnings_of_silent ?_
    intro e he hwildcard
    exact mentionsVariable_eq_false e
      (h e .elementType (Category.elementAt?_eq_some_iff.mpr (Or.inr ⟨he, rfl⟩)) fun _ => hwildcard)

/-- An element type with variables leaves only the handle. -/
theorem group_methods_of_variable (table : LinkTable) {kind : HandleKind}
    (hkind : p.category.handleKind? = some kind)
    (helement : ∀ e', p.category.contained? = some e' → e' = e) (hvariable : ∃ n, e.Occurs n) :
    (p.group table).methods = [p.delegate kind] := by
  have hopen : ∀ e', p.category.contained? = some e' → ¬ e'.Concrete := by
    rintro e' he' ⟨-, hclosed⟩
    obtain ⟨n, hn⟩ := hvariable
    rw [helement e' he'] at hclosed
    exact hclosed n hn
  have hlists : p.Lists table [p.delegate kind] := .handle kind hkind hopen
  exact hlists.eq_methods.symm

/-- The group of a property and its warnings are as they are to be reported. -/
theorem reports_warnings (table : LinkTable) (p : NamedProperty) (owner : String) :
    p.Reports NoWildcard owner (p.group table) (p.warnings owner) := by
  by_cases hdegraded : ∃ e position, p.category.elementAt? = some (e, position) ∧
      NoWildcard e position ∧ ∃ n, e.Occurs n
  · obtain ⟨e, position, helement, hcounts, hvariable⟩ := hdegraded
    obtain ⟨kind, hkind, honly⟩ := Category.exists_handleKind? helement
    rw [warnings_of_variable helement hcounts hvariable]
    exact .degraded helement hcounts hvariable hkind
      (group_methods_of_variable table hkind honly hvariable) (p.degraded_isAbout owner e position)
  · have hsilent : ∀ e position, p.category.elementAt? = some (e, position) →
        NoWildcard e position → ∀ n, ¬ e.Occurs n := fun e position helement hcounts n hn =>
      hdegraded ⟨e, position, helement, hcounts, n, hn⟩
    rw [warnings_of_silent hsilent]
    exact .silent hsilent

end NamedProperty

/-! ## A wildcard is silent -/

namespace Sample

/-- `Crate<T>` with a list of `? extends T`. -/
def crate : ValueType :=
  { valueType "Crate" [getter "getContents" (.collection .list
      (some (.wildcard (some (.typeVariable "T")))))] with typeParameters := [⟨"T", []⟩] }

/-- `Stack<T>` with a list of pairs of `U` and lists of `T`, between properties without variables. -/
def stack : ValueType :=
  { valueType "Stack" [getter "getName" (declared "Text"),
      getter "getLayers" (.collection .list (some (.declared "com.example" "Pair"
        [.typeVariable "U", .collection .list (some (.typeVariable "T"))] []))),
      getter "getPath" .path] with typeParameters := [⟨"T", []⟩] }

theorem generate_crate : generate Settings.standard [] crate = .ok (unlinked crate) := by
  decide +kernel

theorem generate_stack : generate Settings.standard [] stack = .ok (unlinked stack) := by
  decide +kernel

end Sample

/-- The list in a `Crate` mentions `T`, has only its handle, and no warning says so. -/
theorem not_reportsDegradation :
    generate Settings.standard [] Sample.crate = .ok (Sample.unlinked Sample.crate) ∧
      ¬ (Sample.unlinked Sample.crate).ReportsDegradation fun _ _ => True := by
  refine ⟨Sample.generate_crate, ?_⟩
  rintro ⟨parts, hwarnings, -, hparts⟩
  obtain ⟨c, g, ws, hc, -, hws, hreports⟩ := hparts 0 _ rfl
  have hcategory : classifyStrict (.collection .list (some (.wildcard (some (.typeVariable "T"))))) =
      .ok (.iterable (some (.wildcard (some (.typeVariable "T"))))) := by decide +kernel
  obtain rfl : .iterable (some (.wildcard (some (.typeVariable "T")))) = c :=
    Except.ok.inj (hcategory.symm.trans hc)
  cases hreports with
  | degraded helement hcounts hvariable hkind honly hw =>
      have hmem : _ ∈ parts.flatten :=
        List.mem_flatten.mpr ⟨_, List.mem_of_getElem? hws, List.mem_singleton_self _⟩
      rw [← hwarnings] at hmem
      -- the subject has no warnings
      exact absurd hmem List.not_mem_nil
  | silent hsilent =>
      have hoccurs : JavaType.Occurs "T" (.wildcard (some (.typeVariable "T"))) :=
        .inside (List.mem_singleton_self _) .here
      exact hsilent _ _ rfl trivial "T" hoccurs

/-- **Every degradation is warned of, and nothing else is.** The warnings of a generated subject are,
in the order of the properties, those about each property. Where a type variable occurs in the known
element type of an iterable or a multiset that is no wildcard, or in that of an array of objects, the
group of the property has only the handle, and exactly one warning names the value type, the property
and the variables, in the order in which they come first. In every other case there is none. -/
theorem degradation_reported (settings : Settings) (table : LinkTable) (v : ValueType) {s : Subject}
    (h : generate settings table v = .ok s) : s.valueType = v ∧ s.ReportsDegradation NoWildcard := by
  obtain ⟨htypes, -, -, rfl⟩ := generate_eq_ok_iff.mp h
  refine ⟨rfl, v.properties.map fun p => p.named.warnings v.qualifiedName, ?_, ?_, ?_⟩
  · show (v.properties.map Property.named).flatMap _ = _
    rw [List.flatMap_map, List.flatMap_def]
  · exact List.length_map _
  · intro i p hp
    have hp : v.properties[i]? = some p := hp
    obtain ⟨c, hc⟩ := htypes p (List.mem_of_getElem? hp)
    have hgroup : (v.assembled settings table).groups[i]? = some (p.named.group table) :=
      groups_assembled_of_property hp
    have hpart : (v.properties.map fun p => p.named.warnings v.qualifiedName)[i]? =
        some (p.named.warnings v.qualifiedName) := by
      rw [List.getElem?_map, hp]
      rfl
    have hreports := NamedProperty.reports_warnings table p.named v.qualifiedName
    rw [Property.named_of_classifyStrict hc] at hgroup hpart hreports
    exact ⟨c, _, _, hc, hgroup, hpart, hreports⟩

/-- The layers of a `Stack` are warned of. -/
theorem degradation_reported_stack :
    generate Settings.standard [] Sample.stack = .ok (Sample.unlinked Sample.stack) ∧
      (Sample.unlinked Sample.stack).ReportsDegradation NoWildcard ∧
      (Sample.unlinked Sample.stack).warnings =
        [⟨"com.example.Stack", "getLayers", ["U", "T"], .elementType⟩] := by
  have hreported := degradation_reported Settings.standard [] Sample.stack Sample.generate_stack
  exact ⟨Sample.generate_stack, hreported.2, by decide +kernel⟩

end AssertionGen
