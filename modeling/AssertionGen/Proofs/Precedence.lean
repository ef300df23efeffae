import AssertionGen.Classify.Classify
import Mathlib.Data.List.Basic
import Mathlib.Order.WellFounded
/-!
# The winning rule

A rule wins on a list of types if it matches one of them and no rule of higher priority matches any
(`Rule.Wins`). Either no rule matches anything, or one wins (`exists_wins_or`), and a search through
the rules in order of priority ends at the winning one (`Wins.findSome?_matching`). Both classifiers are
such searches, so on a type for which a rule wins each is the merge of that rule's shapes
(`Wins.classify_eq`, `Wins.classifyStrict_eq`).
-/

namespace AssertionGen

namespace Rule

variable {r q : Rule} {types : List JavaType} {t : JavaType}

/-- Nothing has the shape of what no other rule matches. -/
theorem ofShape?_object (u : JavaType) : Category.ofShape? .object u = none := by
  cases u <;> rfl

theorem rule_of_ofShape? {u : JavaType} {c : Category} (h : Category.ofShape? r u = some c) :
    c.rule = r := by
  unfold Category.ofShape? at h
  -- the cases of the two rules that take every kind but one leave a conditional
  split at h
  all_goals first
    | cases h
    | split at h <;> cases h
  all_goals rfl

/-- The rule matches one of the types, and no rule of higher priority matches any. -/
structure Wins (r : Rule) (types : List JavaType) : Prop where
  matchesOne : ∃ u ∈ types, Category.ofShape? r u ≠ none
  first : ∀ q, q.priority < r.priority → ∀ u ∈ types, Category.ofShape? q u = none

/-- Some rule wins, unless no rule matches anything. -/
theorem exists_wins_or (types : List JavaType) :
    (∃ r, Wins r types) ∨ ∀ r, ∀ u ∈ types, Category.ofShape? r u = none := by
  by_cases h : ∃ r, ∃ u ∈ types, Category.ofShape? r u ≠ none
  · obtain ⟨r, hr, hmin⟩ := (measure priority).wf.has_min
      {r | ∃ u ∈ types, Category.ofShape? r u ≠ none} h
    refine Or.inl ⟨r, hr, fun q hq u hu => ?_⟩
    exact Classical.byContradiction fun hmatch => hmin q ⟨u, hu, hmatch⟩ hq
  · refine Or.inr fun r u hu => ?_
    exact Classical.byContradiction fun hmatch => h ⟨r, u, hu, hmatch⟩

/-- Only the order of the types is left open by which rule wins. -/
theorem Wins.of_mem_iff {others : List JavaType} (h : Wins r types)
    (hsame : ∀ u, u ∈ types ↔ u ∈ others) : Wins r others := by
  obtain ⟨⟨u, hu, hmatch⟩, hfirst⟩ := h
  exact ⟨⟨u, (hsame u).mp hu, hmatch⟩, fun q hq w hw => hfirst q hq w ((hsame w).mpr hw)⟩

theorem matches_eq_nil_iff :
    r.matches types = [] ↔ ∀ u ∈ types, Category.ofShape? r u = none := by
  rw [Rule.matches, List.filterMap_eq_nil_iff]

/-! ## Searching through the rules -/

theorem findSome?_eq_of_first {α β : Type} [DecidableEq α] {l : List α} {f : α → Option β} {a : α}
    (ha : a ∈ l) (hfirst : ∀ b ∈ l, l.idxOf b < l.idxOf a → f b = none) (hsome : f a ≠ none) :
    l.findSome? f = f a := by
  induction l with
  | nil => cases ha
  | cons x l ih =>
      by_cases hx : x = a
      · subst hx
        obtain ⟨b, hb⟩ := Option.ne_none_iff_exists'.mp hsome
        rw [List.findSome?_cons, hb]
      · have hnone : f x = none := by
          refine hfirst x List.mem_cons_self ?_
          rw [List.idxOf_cons_self, List.idxOf_cons_ne l hx]
          exact Nat.succ_pos _
        rw [List.findSome?_cons, hnone]
        refine ih ((List.mem_cons.mp ha).resolve_left (Ne.symm hx)) fun b hb hlt => ?_
        by_cases hbx : x = b
        · exact hbx ▸ hnone
        · refine hfirst b (List.mem_cons_of_mem x hb) ?_
          rw [List.idxOf_cons_ne l hbx, List.idxOf_cons_ne l hx]
          exact Nat.succ_lt_succ hlt

namespace Wins

theorem mem_matching (h : Wins r types) : r ∈ matching := by
  obtain ⟨⟨u, -, hmatch⟩, -⟩ := h
  cases r
  case object => exact absurd (ofShape?_object u) hmatch
  all_goals decide

/-- A search that passes over the rules without matches ends at the winning rule. -/
theorem findSome?_matching {β : Type} {f : Rule → Option β} (h : Wins r types)
    (hnone : ∀ q, q.matches types = [] → f q = none) (hsome : f r ≠ none) :
    matching.findSome? f = f r := by
  refine findSome?_eq_of_first h.mem_matching (fun q _ hlt => ?_) hsome
  exact hnone q (matches_eq_nil_iff.mpr (h.first q (Nat.succ_lt_succ hlt)))

theorem exists_matches_eq_cons (h : Wins r types) : ∃ c cs, r.matches types = c :: cs := by
  refine List.exists_cons_of_ne_nil fun hnil => ?_
  obtain ⟨u, hu, hmatch⟩ := h.matchesOne
  exact hmatch (matches_eq_nil_iff.mp hnil u hu)

theorem classify_eq (h : Wins r t.chain) {c : Category} {cs : List Category}
    (hshapes : r.matches t.chain = c :: cs) : classify t = cs.foldl Category.refine c := by
  have hsearch := h.findSome?_matching (f := fun q => Category.merge (q.matches t.chain))
    (fun q hq => by simp only [hq, Category.merge])
    (by simp [hshapes, Category.merge])
  rw [classify, hsearch, hshapes, Category.merge, Option.getD_some]

theorem classifyStrict_eq (h : Wins r t.chain) {c : Category} {cs : List Category}
    (hshapes : r.matches t.chain = c :: cs) :
    classifyStrict t =
      if (cs.foldl Merge.add ⟨c, []⟩).candidates = [] then
        .ok (cs.foldl Merge.add ⟨c, []⟩).current
      else .error ⟨r, (cs.foldl Merge.add ⟨c, []⟩).candidates⟩ := by
  have hverdict : r.verdict t.chain =
      some (if (cs.foldl Merge.add ⟨c, []⟩).candidates = [] then
        .ok (cs.foldl Merge.add ⟨c, []⟩).current
      else .error ⟨r, (cs.foldl Merge.add ⟨c, []⟩).candidates⟩) := by
    rw [verdict, hshapes, Merge.ofShapes, Option.map_some]
  have hsearch := h.findSome?_matching (f := fun q => q.verdict t.chain)
    (fun q hq => by simp only [verdict, hq, Merge.ofShapes, Option.map_none])
    (by simp [hverdict])
  rw [classifyStrict, hsearch, hverdict, Option.getD_some]

end Wins

/-- A type that no rule matches anywhere is an object for both classifiers. -/
theorem classify_of_no_matches (h : ∀ r : Rule, ∀ u ∈ t.chain, Category.ofShape? r u = none) :
    classify t = .object ∧ classifyStrict t = .ok .object := by
  have hnil : ∀ r : Rule, r.matches t.chain = [] := fun r => matches_eq_nil_iff.mpr (h r)
  have hlenient : matching.findSome? (fun r => Category.merge (r.matches t.chain)) = none :=
    List.findSome?_eq_none_iff.mpr fun r _ => by simp only [hnil, Category.merge]
  have hstrict : matching.findSome? (fun r => r.verdict t.chain) = none :=
    List.findSome?_eq_none_iff.mpr fun r _ => by
      simp only [verdict, hnil, Merge.ofShapes, Option.map_none]
  rw [classify, hlenient, classifyStrict, hstrict]
  exact ⟨rfl, rfl⟩

end Rule

end AssertionGen
