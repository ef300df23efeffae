import AssertionGen.Proofs.Occurrences
import Mathlib.Data.List.Lex
/-!
# The order of a chain

The walk up from a type goes depth-first and in declaration order. This is said here without a walk. A
place above a type is the way to it: the number of a direct supertype, and then a place above that
one; a type stands at as many places as there are ways to it. Of two places the one that is smaller in
lexicographic order is met first.

`exists_place` says that the lineage is in the order of the places: for every entry there is a place
such that what stands at any smaller one is listed before the entry. An entry of the chain is the first
of its equals in the lineage, so its place there is the smallest one that it has, and the chain is in
the order of smallest places (`pairwise_chain`).
-/

namespace AssertionGen.JavaType

variable {t u w : JavaType} {place : List Nat}

/-! ## Places -/

/-- What stands at a place above a type; at the empty place stands the type itself. -/
def above? : JavaType → List Nat → Option JavaType
  | t, [] => some t
  | t, i :: rest => t.supertypes[i]?.bind fun u => above? u rest

theorem above?_cons_eq_some_iff {i : Nat} {rest : List Nat} :
    t.above? (i :: rest) = some w ↔ ∃ u, t.supertypes[i]? = some u ∧ u.above? rest = some w :=
  Option.bind_eq_some_iff

theorem mem_lineage_of_above? (h : t.above? place = some u) : u ∈ t.lineage := by
  induction place generalizing t with
  | nil =>
      rw [← Option.some.inj h]
      exact self_mem_lineage t
  | cons i rest ih =>
      obtain ⟨s, hs, h⟩ := above?_cons_eq_some_iff.mp h
      exact mem_lineage_trans (mem_lineage_of_supertype (List.mem_of_getElem? hs)) (ih h)

/-! ## The order of the lineage -/

/-- An entry of lists put together is an entry of one of them, after the lists in front of it. -/
theorem exists_eq_of_flatMap_eq {α β : Type} {f : α → List β} {xs : List α} {before after : List β}
    {b : β} (h : xs.flatMap f = before ++ b :: after) :
    ∃ front x back inner rest, xs = front ++ x :: back ∧ before = front.flatMap f ++ inner ∧
      f x = inner ++ b :: rest := by
  induction xs generalizing before with
  | nil => simp at h
  | cons x xs ih =>
      rw [List.flatMap_cons, List.append_eq_append_iff] at h
      rcases h with ⟨more, rfl, h⟩ | ⟨rest, hx, h⟩
      · obtain ⟨front, y, back, inner, rest, rfl, rfl, hy⟩ := ih h
        exact ⟨x :: front, y, back, inner, rest, rfl, by simp, hy⟩
      · cases rest with
        | nil =>
            -- the entry is the first one of the lists that follow
            have hrest : xs.flatMap f = [] ++ b :: after := h.symm
            obtain ⟨front, y, back, inner, rest, rfl, hfront, hy⟩ := ih hrest
            refine ⟨x :: front, y, back, inner, rest, rfl, ?_, hy⟩
            rw [List.flatMap_cons, List.append_assoc, ← hfront, hx]
            simp
        | cons c rest =>
            obtain ⟨rfl, -⟩ := List.cons.inj h
            exact ⟨[], x, xs, before, rest, rfl, rfl, hx⟩

/-- What stands at a smaller place than one above a supertype is the type itself, or above a supertype
in front of that one, or at a smaller place above that one. -/
theorem above?_cases_of_lt {s : JavaType} {front back : List JavaType} {other : List Nat}
    (hs : t.supertypes = front ++ s :: back) (hlt : other < front.length :: place)
    (hw : t.above? other = some w) :
    w = t ∨ w ∈ front.flatMap lineage ∨ ∃ rest, rest < place ∧ s.above? rest = some w := by
  cases other with
  | nil => exact Or.inl (Option.some.inj hw).symm
  | cons i rest =>
      obtain ⟨r, hr, habove⟩ := above?_cons_eq_some_iff.mp hw
      rw [hs] at hr
      rcases List.cons_lt_cons_iff.mp hlt with hi | ⟨rfl, hrest⟩
      · rw [List.getElem?_append_left hi] at hr
        exact Or.inr (Or.inl (List.mem_flatMap.mpr
          ⟨r, List.mem_of_getElem? hr, mem_lineage_of_above? habove⟩))
      · rw [List.getElem?_append_right (Nat.le_refl _), Nat.sub_self] at hr
        obtain rfl : s = r := Option.some.inj hr
        exact Or.inr (Or.inr ⟨rest, hrest, habove⟩)

/-- Every entry of the lineage stands at a place, and before it is listed what stands at any smaller
place. -/
theorem exists_place {before after : List JavaType} (h : t.lineage = before ++ u :: after) :
    ∃ place, t.above? place = some u ∧
      ∀ other w, other < place → t.above? other = some w → w ∈ before := by
  induction t using supertypes_induction generalizing before after with
  | step t ih =>
      rw [lineage_eq] at h
      cases before with
      | nil =>
          obtain ⟨rfl, -⟩ := List.cons.inj h
          exact ⟨[], rfl, fun other w hlt => absurd hlt (List.not_lt_nil other)⟩
      | cons first before =>
          obtain ⟨rfl, hbefore⟩ := List.cons.inj h
          obtain ⟨front, s, back, inner, rest, hs, rfl, hlineage⟩ := exists_eq_of_flatMap_eq hbefore
          obtain ⟨place, hplace, hsmaller⟩ := ih s (by simp [hs]) hlineage
          refine ⟨front.length :: place, above?_cons_eq_some_iff.mpr ⟨s, by simp [hs], hplace⟩, ?_⟩
          intro other w hlt hw
          rcases above?_cases_of_lt hs hlt hw with rfl | hfront | ⟨rest, hrest, habove⟩
          · exact List.mem_cons_self
          · exact List.mem_cons_of_mem _ (List.mem_append_left _ hfront)
          · exact List.mem_cons_of_mem _ (List.mem_append_right _ (hsmaller rest w hrest habove))

/-- The places above a type lead to the type and its transitive supertypes. -/
theorem exists_above?_iff : (∃ place, t.above? place = some u) ↔ t.Reaches u := by
  rw [← mem_lineage_iff]
  constructor
  · rintro ⟨place, h⟩
    exact mem_lineage_of_above? h
  · intro h
    obtain ⟨before, after, hlineage⟩ := List.append_of_mem h
    obtain ⟨place, hplace, -⟩ := exists_place hlineage
    exact ⟨place, hplace⟩

/-! ## The order of the chain -/

/-- The first type stands at a place that is smaller than every place of the second. -/
def StandsBefore (t u w : JavaType) : Prop :=
  ∃ place, t.above? place = some u ∧ ∀ other, t.above? other = some w → place < other

theorem standsBefore_of_idxOf_lt (hlt : t.lineage.idxOf u < t.lineage.idxOf w) :
    t.StandsBefore u w := by
  have hu : u ∈ t.lineage :=
    List.idxOf_lt_length_iff.mp (Nat.lt_of_lt_of_le hlt List.idxOf_le_length)
  obtain ⟨before, after, hlineage, hnew⟩ := List.eq_append_cons_of_mem hu
  obtain ⟨place, hplace, hsmaller⟩ := exists_place hlineage
  have hidx : t.lineage.idxOf u = before.length := by
    rw [hlineage, List.idxOf_append_of_notMem hnew, List.idxOf_cons_self, Nat.add_zero]
  refine ⟨place, hplace, fun other hw => ?_⟩
  rcases lt_trichotomy place other with hbefore | rfl | hafter
  · exact hbefore
  · rw [hplace] at hw
    rw [Option.some.inj hw] at hlt
    exact absurd hlt (Nat.lt_irrefl _)
  · -- what stands in front of the first type would be listed before it
    have hmem : w ∈ before := hsmaller other w hafter hw
    have hidxw : t.lineage.idxOf w < before.length := by
      rw [hlineage, List.idxOf_append_of_mem hmem]
      exact List.idxOf_lt_length_of_mem hmem
    omega

/-- The chain is in the order of smallest places. -/
theorem pairwise_chain (t : JavaType) : t.chain.Pairwise t.StandsBefore := by
  rw [chain_eq_firstSeen]
  exact (pairwise_idxOf_firstSeen t.lineage).imp standsBefore_of_idxOf_lt

/-- **Passing over repeats loses nothing.** The chain of a type is its lineage with every later equal of
an entry erased. It begins with the type, has no entry twice, and has exactly the type and its
transitive supertypes, which are the types at the places above it; and it lists them depth-first and
in declaration order, in the order of their smallest places. -/
theorem chain_loses_nothing (t : JavaType) :
    t.chain = t.lineage.eraseDups ∧ t.chain.head? = some t ∧ t.chain.Nodup ∧
      (∀ u, u ∈ t.chain ↔ t.Reaches u) ∧ (∀ u, t.Reaches u ↔ ∃ place, t.above? place = some u) ∧
      t.chain.Pairwise t.StandsBefore := by
  have hchain : t.chain = t.lineage.eraseDups := by
    rw [chain_eq_firstSeen, firstSeen_eq_eraseDups]
  refine ⟨hchain, ?_, ?_, fun u => mem_chain_iff, fun u => exists_above?_iff.symm, pairwise_chain t⟩
  · rw [hchain, lineage_eq, List.eraseDups_cons, List.head?_cons]
  · rw [chain_eq_firstSeen]
    exact nodup_firstSeen _

/-- Behind the second supertype the walk meets the top again and passes over it, but not over what
follows. -/
example :
    let top := declared "com.example" "Top" [] []
    let left := declared "com.example" "Left" [] [top]
    let right := declared "com.example" "Right" [] [top, path]
    let bottom := declared "com.example" "Bottom" [] [left, right]
    bottom.lineage = [bottom, left, top, right, top, path] ∧
      bottom.chain = [bottom, left, top, right, path] := by
  decide +kernel

end AssertionGen.JavaType
