import AssertionGen.Proofs.Linkage
/-!
# What a smaller link table takes away

A table only ever adds links. When a value type is generated against one table, it is generated
against every smaller one as well, and its subject there is known in advance: it is the same subject,
except that the links of the types that no longer resolve are taken off the heads of their groups
(`generate_of_within`). Nothing moves: names, type parameters, warnings, the order of the groups and
all other methods stay.

The rounds in which a batch settles are such a descent, so from one round to the next no value type
begins to fail (`links_only_removed`). The converse does not hold: against a larger table a value
type can fail, since a link is a method with a name of its own.
-/

namespace AssertionGen

variable {settings : Settings} {batch : List ValueType} {t u : LinkTable} {v : ValueType}

/-! ## Taking links off -/

/-- A link hands out the subject of another value type. -/
def Method.isLink (m : Method) : Bool :=
  match m.body with
  | .delegate _ _ (.subject _ _ _) => true
  | _ => false

/-- The group without the link at its head; a group that begins with none stays as it is. -/
def MethodGroup.unlinked (g : MethodGroup) : MethodGroup :=
  match g.methods with
  | [] => g
  | m :: rest => if m.isLink then ⟨g.origin, rest⟩ else g

/-- The subject without the links at the heads of the groups of those properties whose types are
gone. -/
def Subject.withoutLinks (s : Subject) (gone : JavaType → Prop) [DecidablePred gone] : Subject :=
  { s with groups := s.groups.mapIdx fun i g =>
      match s.valueType.properties[i]? with
      | some p => if gone p.type then g.unlinked else g
      | none => g }

/-- The type resolves in the second table and in the first no more. -/
def LinkTable.Drops (t u : LinkTable) (type : JavaType) : Prop :=
  resolve? u type ≠ none ∧ resolve? t type = none

instance (t u : LinkTable) : DecidablePred (t.Drops u) :=
  fun type => inferInstanceAs (Decidable (LinkTable.resolve? u type ≠ none ∧
    LinkTable.resolve? t type = none))

/-! ## Groups -/

namespace NamedProperty

variable {p : NamedProperty}

/-- What a property offers of its own is no link. -/
theorem Offers.isLink_eq_false {m : Method} (h : p.Offers m) : m.isLink = false := by
  cases h with
  | truthy negated boxed => rfl
  | equals nullSensitive => rfl
  | delegate handle hframework =>
      cases handle with
      | subject package name factory => exact absurd rfl (hframework package name factory)
      | _ => rfl
  | contains handle element mode => rfl

theorem isLink_of_linkedHandle? {m : Method} (h : p.linkedHandle? t = some m) : m.isLink = true := by
  obtain ⟨-, l, -, rfl⟩ := linkedHandle?_eq_some_iff.mp h
  rfl

/-- Without its link a group has what the property offers of its own. -/
theorem unlinked_group (p : NamedProperty) (t : LinkTable) :
    (p.group t).unlinked = ⟨.property p.property.accessor, p.methods⟩ := by
  unfold group MethodGroup.unlinked
  cases hlink : p.linkedHandle? t with
  | some m => simp [isLink_of_linkedHandle? hlink]
  | none =>
      cases hown : p.methods with
      | nil => simp
      | cons m rest =>
          have hm : m ∈ p.methods := by rw [hown]; exact List.mem_cons_self
          simp [(offers_of_mem hm).isLink_eq_false]

/-- A group begins with a link exactly if the property is an object of a type that resolves. -/
theorem head_isLink_iff :
    (∃ m ∈ (p.group t).methods.head?, m.isLink = true) ↔
      p.category = .object ∧ ∃ l, LinkTable.resolve? t p.property.type = some l := by
  unfold group
  cases hlink : p.linkedHandle? t with
  | some m =>
      obtain ⟨hobject, l, hl, -⟩ := linkedHandle?_eq_some_iff.mp hlink
      have hhead : ∃ d ∈ (m :: p.methods).head?, d.isLink = true :=
        ⟨m, rfl, isLink_of_linkedHandle? hlink⟩
      exact iff_of_true hhead ⟨hobject, l, hl⟩
  | none =>
      apply iff_of_false
      · rintro ⟨m, hhead, hm⟩
        have hown : m ∈ p.methods := List.mem_of_head? hhead
        rw [(offers_of_mem hown).isLink_eq_false] at hm
        cases hm
      · rintro ⟨hobject, l, hl⟩
        have hsome := linkedHandle?_eq_some_iff.mpr ⟨hobject, l, hl, rfl⟩
        rw [hlink] at hsome
        cases hsome

end NamedProperty

namespace LinkTable

/-- A type that is not dropped resolves in both tables alike. -/
theorem resolve?_eq_of_not_drops (h : t.Within u) {type : JavaType} (hkept : ¬ t.Drops u type) :
    resolve? t type = resolve? u type := by
  cases ht : resolve? t type with
  | some l => exact (resolve?_of_within h ht).symm
  | none =>
      have hu : ¬ resolve? u type ≠ none := fun hne => hkept ⟨hne, ht⟩
      exact (not_not.mp hu).symm

end LinkTable

/-- The group of a property against a smaller table. -/
theorem NamedProperty.group_of_within (h : t.Within u) (p : NamedProperty) :
    p.group t = if t.Drops u p.property.type then (p.group u).unlinked else p.group u := by
  split
  · next hdrops =>
    have hnone : p.linkedHandle? t = none := by
      unfold linkedHandle?
      rw [hdrops.2]
      simp
    rw [unlinked_group, group, hnone]
    rfl
  · next hkept =>
    exact group_congr fun _ => LinkTable.resolve?_eq_of_not_drops h hkept

/-! ## Subjects -/

theorem ValueType.assembled_of_within (h : t.Within u) (settings : Settings) (v : ValueType) :
    v.assembled settings t = (v.assembled settings u).withoutLinks (t.Drops u) := by
  have hgroups : (v.assembled settings t).groups =
      ((v.assembled settings u).withoutLinks (t.Drops u)).groups := by
    -- groups are compared place by place, since it is by its place that a group has a property
    apply List.ext_getElem?
    intro i
    show (v.assembled settings t).groups[i]? =
      ((v.assembled settings u).groups.mapIdx fun i g =>
        match v.properties[i]? with
        | some p => if t.Drops u p.type then g.unlinked else g
        | none => g)[i]?
    rw [List.getElem?_mapIdx]
    cases hp : v.properties[i]? with
    | some p =>
        rw [groups_assembled_of_property hp, groups_assembled_of_property hp,
          p.named.group_of_within h]
        rfl
    | none =>
        -- behind the properties stand the constants, whose groups read no table
        have hle : v.properties.length ≤ i := List.getElem?_eq_none_iff.mp hp
        rw [groups_assembled, groups_assembled, List.getElem?_append_right (by simpa using hle),
          List.getElem?_append_right (by simpa using hle), List.length_map, List.length_map]
        cases (v.enumConstants.map constantGroup)[i - v.properties.length]? <;> rfl
  calc v.assembled settings t
      = { v.assembled settings u with groups := (v.assembled settings t).groups } :=
        ValueType.assembled_eq_with_groups settings t u v
    _ = { v.assembled settings u with
          groups := ((v.assembled settings u).withoutLinks (t.Drops u)).groups } := by rw [hgroups]
    _ = (v.assembled settings u).withoutLinks (t.Drops u) := rfl

/-- Against a smaller table a value type gets the same subject without the links that are dropped. -/
theorem generate_of_within (h : t.Within u) {s : Subject} (hs : generate settings u v = .ok s) :
    generate settings t v = .ok (s.withoutLinks (t.Drops u)) := by
  obtain ⟨r, hr⟩ := exists_generate_of_within h ⟨s, hs⟩
  rw [hr, eq_assembled_of_generate hr, eq_assembled_of_generate hs,
    v.assembled_of_within h]

/-! ## Rounds -/

namespace LinkTable

/-- No round puts a name on the table. -/
theorem within_of_mem_rounds (h : u ∈ t.rounds settings batch) : u.Within t := by
  -- by induction on the rounds that are left; each step shrinks the table
  fun_induction rounds settings batch t with
  | case1 t hshrinks ih =>
      rcases List.mem_cons.mp h with rfl | hlater
      · exact Within.refl u
      · exact (ih hlater).trans (shrink_within t)
  | case2 t hsettled =>
      rw [List.mem_singleton.mp h]
      exact Within.refl t

/-- The tables of the rounds get smaller. -/
theorem rounds_descend (t : LinkTable) :
    (t.rounds settings batch).Pairwise fun earlier later => later.Within earlier := by
  fun_induction rounds settings batch t with
  | case1 t hshrinks ih =>
      refine List.pairwise_cons.mpr ⟨?_, ih⟩
      intro later hlater
      exact (within_of_mem_rounds hlater).trans (shrink_within t)
  | case2 t hsettled => exact List.pairwise_singleton _ _

end LinkTable

/-- What fails against a table fails against every larger one. -/
theorem exists_error_of_within (h : t.Within u) {e : GenerationError}
    (he : generate settings t v = .error e) : ∃ e', generate settings u v = .error e' := by
  cases hu : generate settings u v with
  | error e' => exact ⟨e', rfl⟩
  | ok s =>
      rw [generate_of_within h hu] at he
      cases he

/-- **Links are only ever taken off.** Against a smaller table a generated value type is generated
again, to the same subject without the links of the properties whose types resolve in the larger
table alone; the groups that begin with a link are those of the object properties whose types
resolve. So no value type fails for names that are taken off the table, and those that fail in a
round of settling have failed in every round before it. -/
theorem links_only_removed (settings : Settings) :
    (∀ (t u : LinkTable) (v : ValueType) (s : Subject), t.Within u → generate settings u v = .ok s →
      generate settings t v = .ok (s.withoutLinks (t.Drops u)) ∧
        ∀ (i : Nat) (p : Property) (g : MethodGroup), v.properties[i]? = some p →
          s.groups[i]? = some g →
            ((∃ m ∈ g.methods.head?, m.isLink = true) ↔
              classifyStrict p.type = .ok .object ∧ ∃ l, LinkTable.resolve? u p.type = some l)) ∧
    (∀ (u : LinkTable) (names : List String) (v : ValueType) (s : Subject),
      generate settings u v = .ok s →
        ∃ r, generate settings (Entries.without u names) v = .ok r) ∧
    ∀ batch : List ValueType,
      ((LinkTable.ofBatch settings batch).rounds settings batch).Pairwise fun earlier later =>
        ∀ (v : ValueType) (e : GenerationError), generate settings later v = .error e →
          ∃ e', generate settings earlier v = .error e' := by
  refine ⟨?_, ?_, ?_⟩
  · intro t u v s h hs
    refine ⟨generate_of_within h hs, ?_⟩
    intro i p g hp hg
    obtain ⟨htypes, -, -, rfl⟩ := generate_eq_ok_iff.mp hs
    obtain ⟨c, hc⟩ := htypes p (List.mem_of_getElem? hp)
    have hnamed : p.named = NamedProperty.of p c := Property.named_of_classifyStrict hc
    rw [groups_assembled_of_property hp] at hg
    rw [← Option.some.inj hg, NamedProperty.head_isLink_iff, hnamed, hc, Except.ok.injEq]
    rfl
  · intro u names v s hs
    exact ⟨_, generate_of_within (LinkTable.without_within u names) hs⟩
  · intro batch
    refine (LinkTable.rounds_descend _).imp ?_
    intro earlier later hwithin v e he
    exact exists_error_of_within hwithin he

/-- The subject of a value type while every member of the cascade is still listed. -/
def Sample.atFirst (v : ValueType) : Subject :=
  v.assembled Settings.standard (LinkTable.ofBatch Settings.standard Sample.cascade)

/-- Once `Item` is off the table, `Holder` is generated without the link to it; the one to `Person`
stays. -/
theorem links_only_removed_holder :
    (settledTable Settings.standard Sample.cascade).Within
        (LinkTable.ofBatch Settings.standard Sample.cascade) ∧
      generate Settings.standard (LinkTable.ofBatch Settings.standard Sample.cascade) Sample.holder =
        .ok (Sample.atFirst Sample.holder) ∧
      generate Settings.standard (settledTable Settings.standard Sample.cascade) Sample.holder =
        .ok ((Sample.atFirst Sample.holder).withoutLinks
          ((settledTable Settings.standard Sample.cascade).Drops
            (LinkTable.ofBatch Settings.standard Sample.cascade))) ∧
      (Sample.atFirst Sample.holder).methods.map Method.name =
        ["content", "hasContent", "owner", "hasOwner"] ∧
      ((Sample.atFirst Sample.holder).withoutLinks
          ((settledTable Settings.standard Sample.cascade).Drops
            (LinkTable.ofBatch Settings.standard Sample.cascade))).methods.map Method.name =
        ["hasContent", "owner", "hasOwner"] := by
  have hgenerated : generate Settings.standard
      (LinkTable.ofBatch Settings.standard Sample.cascade) Sample.holder =
        .ok (Sample.atFirst Sample.holder) := by decide +kernel
  have hwithin := settledTable_within Settings.standard Sample.cascade
  obtain ⟨hexact, -, -⟩ := links_only_removed Settings.standard
  exact ⟨hwithin, hgenerated, (hexact _ _ _ _ hwithin hgenerated).1, by decide +kernel,
    by decide +kernel⟩

end AssertionGen
