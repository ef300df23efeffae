import AssertionGen.Classify.Chain
/-!
# What a chain lists

The lineage of a type lists exactly the type and its transitive supertypes (`mem_lineage_iff`), and
its chain is the lineage with every repeat left out (`chain_eq_firstSeen`), although the walk does
not go again into a type that it has seen.

It may pass over such a type because what it has seen is of two sorts. Some types it is done with,
and all of their lineage has been seen. The others it is still inside of; these are larger than
anything that it meets below them, so it meets none of them again. The invariant therefore speaks of
the seen types up to a size only (`ClosedBelow`).
-/

namespace AssertionGen.JavaType

variable {t u w : JavaType} {seen : List JavaType}

/-! ## Induction along supertypes -/

theorem sizeOf_supertype_lt (h : u ∈ t.supertypes) : sizeOf u < sizeOf t := by
  cases t with
  | declared p n as ss =>
      have hlt : sizeOf u < sizeOf ss := List.sizeOf_lt_of_mem h
      rw [declared.sizeOf_spec]
      omega
  | _ => cases h

/-- What holds of a type if it holds of all its direct supertypes holds of every type. -/
@[elab_as_elim]
theorem supertypes_induction {motive : JavaType → Prop}
    (step : ∀ t, (∀ u ∈ t.supertypes, motive u) → motive t) (t : JavaType) : motive t :=
  step t fun u _ => supertypes_induction step u
termination_by sizeOf t
decreasing_by exact sizeOf_supertype_lt ‹_›

/-- The second type is the first one or one of its transitive supertypes. -/
inductive Reaches (t : JavaType) : JavaType → Prop where
  | refl : Reaches t t
  | supertype {u w : JavaType} : Reaches t u → w ∈ u.supertypes → Reaches t w

theorem Reaches.of_supertype (hu : u ∈ t.supertypes) (h : Reaches u w) : Reaches t w := by
  induction h with
  | refl => exact .supertype .refl hu
  | supertype _ hw ih => exact .supertype ih hw

/-- The walk either stays at the type or begins with a direct supertype. -/
theorem Reaches.eq_or_supertype (h : Reaches t w) : w = t ∨ ∃ u ∈ t.supertypes, Reaches u w := by
  induction h with
  | refl => exact Or.inl rfl
  | supertype _ hw ih =>
      rcases ih with rfl | ⟨u, hu, hreach⟩
      · exact Or.inr ⟨_, hw, .refl⟩
      · exact Or.inr ⟨u, hu, .supertype hreach hw⟩

/-! ## Lineages -/

theorem lineageAll_eq_flatMap (ts : List JavaType) : lineageAll ts = ts.flatMap lineage := by
  induction ts with
  | nil => rfl
  | cons t ts ih => rw [lineageAll, ih, List.flatMap_cons]

theorem lineage_eq (t : JavaType) : t.lineage = t :: t.supertypes.flatMap lineage := by
  cases t with
  | declared p n as ss => rw [lineage, lineageAll_eq_flatMap, supertypes]
  | _ => rfl

theorem self_mem_lineage (t : JavaType) : t ∈ t.lineage := by
  rw [lineage_eq]
  exact List.mem_cons_self

/-- The lineage of whatever is listed is listed as well. -/
theorem mem_lineage_trans (hu : u ∈ t.lineage) (hw : w ∈ u.lineage) : w ∈ t.lineage := by
  induction t using supertypes_induction with
  | step t ih =>
      rw [lineage_eq, List.mem_cons, List.mem_flatMap] at hu ⊢
      rcases hu with rfl | ⟨s, hs, hu⟩
      · rwa [lineage_eq, List.mem_cons, List.mem_flatMap] at hw
      · exact Or.inr ⟨s, hs, ih s hs hu⟩

theorem mem_lineage_of_supertype (h : u ∈ t.supertypes) : u ∈ t.lineage := by
  rw [lineage_eq, List.mem_cons, List.mem_flatMap]
  exact Or.inr ⟨u, h, self_mem_lineage u⟩

/-- A lineage lists the type and its transitive supertypes and nothing else. -/
theorem mem_lineage_iff : u ∈ t.lineage ↔ Reaches t u := by
  constructor
  · intro hu
    induction t using supertypes_induction with
    | step t ih =>
        rw [lineage_eq, List.mem_cons, List.mem_flatMap] at hu
        rcases hu with rfl | ⟨s, hs, hu⟩
        · exact .refl
        · exact .of_supertype hs (ih s hs hu)
  · intro h
    induction h with
    | refl => exact self_mem_lineage t
    | supertype _ hw ih => exact mem_lineage_trans ih (mem_lineage_of_supertype hw)

/-! ## The walk -/

theorem walkAll_eq_foldl (seen ts : List JavaType) : walkAll seen ts = ts.foldl walk seen := by
  induction ts generalizing seen with
  | nil => rfl
  | cons t ts ih => rw [walkAll, ih, List.foldl_cons]

theorem walk_eq (seen : List JavaType) (t : JavaType) :
    walk seen t = if t ∈ seen then seen else t.supertypes.foldl walk (seen ++ [t]) := by
  cases t with
  | declared p n as ss => rw [walk, walkAll_eq_foldl, supertypes]
  | _ => rfl

/-- The whole lineage of every seen type below a size has been seen. -/
def ClosedBelow (size : Nat) (seen : List JavaType) : Prop :=
  ∀ u ∈ seen, sizeOf u < size → ∀ w ∈ u.lineage, w ∈ seen

/-- Going through a lineage keeps what is closed closed. -/
theorem ClosedBelow.firstSeenAfter {size : Nat} (h : ClosedBelow size seen) (t : JavaType) :
    ClosedBelow size (firstSeenAfter seen t.lineage) := by
  intro u hu hsize w hw
  rw [mem_firstSeenAfter] at hu ⊢
  rcases hu with hu | hu
  · exact Or.inl (h u hu hsize w hw)
  · exact Or.inr (mem_lineage_trans hu hw)

/-- Inside a type that is new, the walk meets smaller types only. -/
theorem ClosedBelow.append_self {size : Nat} (h : ClosedBelow size seen) (ht : sizeOf t < size) :
    ClosedBelow (sizeOf t) (seen ++ [t]) := by
  intro u hu hlt w hw
  rcases List.mem_append.mp hu with hu | hu
  · exact List.mem_append_left _ (h u hu (Nat.lt_trans hlt ht) w hw)
  · rw [List.mem_singleton.mp hu] at hlt
    exact absurd hlt (Nat.lt_irrefl _)

/-- One type after the other, each with what the ones before it have added. -/
theorem foldl_walk_eq_firstSeenAfter {size : Nat} {ts : List JavaType}
    (hwalk : ∀ t ∈ ts, ∀ seen, ClosedBelow size seen → walk seen t = firstSeenAfter seen t.lineage)
    (h : ClosedBelow size seen) :
    ts.foldl walk seen = firstSeenAfter seen (ts.flatMap lineage) := by
  induction ts generalizing seen with
  | nil => rfl
  | cons t ts ih =>
      obtain ⟨ht, hts⟩ := List.forall_mem_cons.mp hwalk
      rw [List.foldl_cons, ht seen h, List.flatMap_cons, firstSeenAfter_append]
      exact ih hts (h.firstSeenAfter t)

/-- The walk adds what the lineage has that has not been seen. -/
theorem walk_eq_firstSeenAfter {size : Nat} (ht : sizeOf t < size) (h : ClosedBelow size seen) :
    walk seen t = firstSeenAfter seen t.lineage := by
  induction t using supertypes_induction generalizing size seen with
  | step t ih =>
      rw [walk_eq]
      split
      · next hmem =>
        rw [firstSeenAfter_of_forall_mem (h t hmem ht)]
      · next hnew =>
        rw [lineage_eq, AssertionGen.firstSeenAfter, if_neg hnew]
        exact foldl_walk_eq_firstSeenAfter
          (fun s hs _ hseen => ih s hs (sizeOf_supertype_lt hs) hseen) (h.append_self ht)

/-- The chain of a type is its lineage, each type at its first place only. -/
theorem chain_eq_firstSeen (t : JavaType) : t.chain = firstSeen t.lineage :=
  walk_eq_firstSeenAfter (Nat.lt_succ_self _) fun _ hu => absurd hu List.not_mem_nil

theorem mem_chain_iff : u ∈ t.chain ↔ Reaches t u := by
  rw [chain_eq_firstSeen, mem_firstSeen, mem_lineage_iff]

end AssertionGen.JavaType
