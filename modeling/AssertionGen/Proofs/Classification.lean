import AssertionGen.Classify.Classify
/-!
# The two classifiers agree

`classify` passes conflicts over and `classifyStrict` reports them. Where the strict classifier
gives a category, the lenient one gives the same (`classify_of_classifyStrict`).

Both walk the rules in one order and ask each rule for its matches along one chain. A rule without
matches is passed over by both, so they stop at the same rule. There both fold over the same
matches: as long as no candidate is recorded, the strict fold has met no conflict, and its merged
shape is the plain fold of `Category.refine`.
-/

namespace AssertionGen

namespace Merge

/-- A recorded conflict stays recorded. -/
theorem candidates_foldl_add_ne_nil {m : Merge} (h : m.candidates ≠ []) (cs : List Category) :
    (cs.foldl add m).candidates ≠ [] := by
  induction cs generalizing m with
  | nil => exact h
  | cons c cs ih =>
      refine ih ?_
      rw [add]
      split
      · simp
      · exact h

/-- Without a recorded conflict the merged shape is the plain fold. -/
theorem current_foldl_add {m : Merge} {cs : List Category}
    (h : (cs.foldl add m).candidates = []) :
    (cs.foldl add m).current = cs.foldl Category.refine m.current := by
  induction cs generalizing m with
  | nil => rfl
  | cons c cs ih =>
      rw [List.foldl_cons] at h ⊢
      rw [ih h, List.foldl_cons]
      congr 1
      have hadd : (m.add c).candidates = [] :=
        Classical.byContradiction fun hne => candidates_foldl_add_ne_nil hne cs h
      rw [add] at hadd ⊢
      split at hadd
      · simp at hadd
      · next hc => rw [if_neg hc]

end Merge

namespace Rule

theorem merge_of_verdict_eq_none {r : Rule} {chain : List JavaType} (h : r.verdict chain = none) :
    Category.merge (r.matches chain) = none := by
  rw [verdict, Option.map_eq_none_iff] at h
  cases hm : r.matches chain with
  | nil => rfl
  | cons c cs => simp [hm, Merge.ofShapes] at h

theorem merge_of_verdict_eq_ok {r : Rule} {chain : List JavaType} {c : Category}
    (h : r.verdict chain = some (.ok c)) : Category.merge (r.matches chain) = some c := by
  rw [verdict, Option.map_eq_some_iff] at h
  obtain ⟨m, hm, hc⟩ := h
  cases hs : r.matches chain with
  | nil => simp [hs, Merge.ofShapes] at hm
  | cons d ds =>
      simp only [hs, Merge.ofShapes, Option.some.injEq] at hm
      subst hm
      split at hc
      · next hnone =>
        rw [Merge.current_foldl_add hnone] at hc
        exact congrArg some (Except.ok.inj hc)
      · cases hc

/-- Two searches for the first rule with matches, over any list of rules. -/
theorem findSome?_merge_of_verdict {rules : List Rule} {chain : List JavaType} {c : Category}
    (h : (rules.findSome? fun r => r.verdict chain).getD (.ok .object) = .ok c) :
    (rules.findSome? fun r => Category.merge (r.matches chain)).getD .object = c := by
  induction rules with
  | nil => exact Except.ok.inj h
  | cons r rules ih =>
      rw [List.findSome?_cons] at h ⊢
      cases hv : r.verdict chain with
      | none =>
          rw [merge_of_verdict_eq_none hv]
          simp only [hv] at h
          exact ih h
      | some verdict =>
          simp only [hv, Option.getD_some] at h
          -- neither search goes on behind a rule with matches
          subst h
          rw [merge_of_verdict_eq_ok hv]
          rfl

end Rule

/-- A category that the strict classifier gives is the one of the lenient classifier. -/
theorem classify_of_classifyStrict {t : JavaType} {c : Category} (h : classifyStrict t = .ok c) :
    classify t = c :=
  Rule.findSome?_merge_of_verdict h

end AssertionGen
