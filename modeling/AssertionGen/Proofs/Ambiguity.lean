import AssertionGen.Proofs.Classification
import AssertionGen.Proofs.Precedence
import Mathlib.Data.List.Pairwise
/-!
# When a type is ambiguous

The strict classifier compares every shape only with what the shapes before it have been merged to,
and goes on from there even when the two conflict. Nothing escapes it all the same: it refuses a type
exactly if two types of its chain get incompatible categories from the winning rule, wherever they
stand and however many raw ones stand between (`classifyStrict_outcome`).

As long as nothing has been found, the merged shape conflicts with the same categories as the shapes
that went into it do (`conflicts_refine`). So no conflict is found exactly if the shapes are pairwise
free of conflicts (`Merge.candidates_foldl_add_eq_nil_iff`).
-/

namespace AssertionGen

namespace Category

/-- No type can have both shapes. -/
inductive Incompatible : Category → Category → Prop where
  | optional {k l : OptionalKind} (hkind : k ≠ l) : Incompatible (optional k) (optional l)
  | stream {k l : StreamKind} (hkind : k ≠ l) : Incompatible (stream k) (stream l)
  | iterable {d e : JavaType} (helement : d ≠ e) : Incompatible (iterable (some d)) (iterable (some e))
  | containerKind {k l : ContainerKind} {d e : Option JavaType} (hkind : k ≠ l) :
      Incompatible (container k d) (container l e)
  | containerElement {k : ContainerKind} {d e : JavaType} (helement : d ≠ e) :
      Incompatible (container k (some d)) (container k (some e))

variable {c d e : Category}

theorem Incompatible.symm (h : Incompatible c d) : Incompatible d c := by
  cases h with
  | optional hkind => exact .optional hkind.symm
  | stream hkind => exact .stream hkind.symm
  | iterable helement => exact .iterable helement.symm
  | containerKind hkind => exact .containerKind hkind.symm
  | containerElement helement => exact .containerElement helement.symm

theorem not_incompatible_self (c : Category) : ¬ Incompatible c c := by
  intro h
  cases h <;> contradiction

theorem conflicts_iff : c.conflicts d = true ↔ Incompatible c d := by
  constructor
  · intro h
    unfold conflicts at h
    split at h
    · exact .optional (by simpa using h)
    · exact .stream (by simpa using h)
    · next a b =>
      cases a <;> cases b <;> simp only [differ, Bool.false_eq_true, decide_eq_true_eq] at h
      exact .iterable h
    · next k a l b =>
      by_cases hkind : k = l
      · subst hkind
        cases a <;> cases b <;> simp [differ] at h
        exact .containerElement h
      · exact .containerKind hkind
    · cases h
  · intro h
    cases h with
    | optional hkind => simpa [conflicts] using hkind
    | stream hkind => simpa [conflicts] using hkind
    | iterable helement => simpa [conflicts, differ] using helement
    | containerKind hkind => simp [conflicts, hkind]
    | containerElement helement => simpa [conflicts, differ] using helement

theorem rule_refine (c d : Category) : (c.refine d).rule = c.rule := by
  unfold refine
  split <;> rfl

/-- Of two elements that do not differ, the first known one differs from what either differs from. -/
theorem differ_or (a b x : Option JavaType) (h : differ a b = false) :
    differ (a.or b) x = (differ a x || differ b x) := by
  cases a with
  | none => cases x <;> simp [differ]
  | some a =>
      cases b with
      | none => cases x <;> simp [differ]
      | some b =>
          have hab : a = b := by simpa [differ] using h
          subst hab
          rw [Option.some_or, Bool.or_self]

theorem refine_iterable (a b : Option JavaType) :
    (iterable a).refine (iterable b) = iterable (a.or b) := by
  cases a <;> cases b <;> rfl

theorem refine_container (k : ContainerKind) (a b : Option JavaType) :
    (container k a).refine (container k b) = container k (a.or b) := by
  cases a <;> cases b <;> simp [refine]

/-- Two shapes of one rule that do not conflict are merged to one that conflicts with whatever one
of the two conflicts with. -/
theorem conflicts_refine (hrule : c.rule = d.rule) (h : c.conflicts d = false) :
    (c.refine d).conflicts e = (c.conflicts e || d.conflicts e) := by
  cases c with
  | optional k =>
      cases d with
      | optional l =>
          have hkind : k = l := by simpa [conflicts] using h
          subst hkind
          rw [Bool.or_self]
          rfl
      | _ => cases hrule
  | stream k =>
      cases d with
      | stream l =>
          have hkind : k = l := by simpa [conflicts] using h
          subst hkind
          rw [Bool.or_self]
          rfl
      | _ => cases hrule
  | iterable a =>
      cases d with
      | iterable b =>
          rw [refine_iterable]
          cases e with
          | iterable x => exact differ_or a b x h
          | _ => rfl
      | _ => cases hrule
  | container k a =>
      cases d with
      | container l b =>
          simp only [conflicts, Bool.or_eq_false_iff, decide_eq_false_iff_not, not_not] at h
          obtain ⟨rfl, hdiffer⟩ := h
          rw [refine_container]
          cases e with
          | container m x =>
              show (decide (k ≠ m) || differ (a.or b) x) =
                (decide (k ≠ m) || differ a x || (decide (k ≠ m) || differ b x))
              rw [differ_or a b x hdiffer]
              cases decide (k ≠ m) <;> rfl
          | _ => rfl
      | _ => cases hrule
  | _ =>
      -- shapes of the other rules conflict with nothing
      cases d <;> cases hrule
      cases e <;> rfl

end Category

namespace Merge

/-- Of shapes of one rule, each merged into what the ones before it have become, none is found in
conflict exactly if no two of them are. -/
theorem candidates_foldl_add_eq_nil_iff {r : Rule} {m : Merge} {cs : List Category}
    (hm : m.candidates = []) (hcurrent : m.current.rule = r) (hcs : ∀ c ∈ cs, c.rule = r) :
    (cs.foldl add m).candidates = [] ↔
      (∀ c ∈ cs, m.current.conflicts c = false) ∧ cs.Pairwise fun c d => c.conflicts d = false := by
  induction cs generalizing m with
  | nil => simp [hm]
  | cons c cs ih =>
      obtain ⟨hc, hcs⟩ := List.forall_mem_cons.mp hcs
      rw [List.foldl_cons, List.forall_mem_cons, List.pairwise_cons]
      cases hconflict : m.current.conflicts c with
      | true =>
          refine iff_of_false (candidates_foldl_add_ne_nil ?_ cs) (by simp)
          simp [add, hconflict]
      | false =>
          have hadd : m.add c = { m with current := m.current.refine c } := by
            rw [add, if_neg (by simp [hconflict])]
          have hrule : m.current.rule = c.rule := hcurrent.trans hc.symm
          have hrefined : (m.current.refine c).rule = r := by rw [Category.rule_refine, hcurrent]
          have hrest := ih (m := { m with current := m.current.refine c }) hm hrefined hcs
          rw [hadd, hrest]
          simp only [Category.conflicts_refine hrule hconflict, Bool.or_eq_false_iff, forall_and,
            and_assoc, true_and]

/-- A conflict is reported with at least two shapes, all of the one rule. -/
structure WellReported (r : Rule) (m : Merge) : Prop where
  current : m.current.rule = r
  candidates : ∀ c ∈ m.candidates, c.rule = r
  two_le : m.candidates ≠ [] → 2 ≤ m.candidates.length

theorem WellReported.add {r : Rule} {m : Merge} (h : WellReported r m) {c : Category}
    (hc : c.rule = r) : WellReported r (m.add c) := by
  rw [Merge.add]
  split
  · -- the first conflict also reports what was merged before it
    refine ⟨h.current, ?_, fun _ => ?_⟩
    · intro d hd
      rcases List.mem_append.mp hd with hd | hd
      · split at hd
        · rw [List.mem_singleton.mp hd]
          exact h.current
        · exact h.candidates d hd
      · rw [List.mem_singleton.mp hd]
        exact hc
    · rw [List.length_append, List.length_singleton]
      split
      · exact Nat.le_refl 2
      · next hne => exact Nat.le_succ_of_le (h.two_le hne)
  · refine ⟨?_, h.candidates, h.two_le⟩
    rw [Category.rule_refine]
    exact h.current

theorem WellReported.foldl_add {r : Rule} {m : Merge} (h : WellReported r m) {cs : List Category}
    (hcs : ∀ c ∈ cs, c.rule = r) : WellReported r (cs.foldl Merge.add m) := by
  induction cs generalizing m with
  | nil => exact h
  | cons c cs ih =>
      obtain ⟨hc, hcs⟩ := List.forall_mem_cons.mp hcs
      exact ih (h.add hc) hcs

end Merge

namespace Rule

variable {r : Rule} {types : List JavaType} {t : JavaType}

theorem rule_of_mem_matches {c : Category} (h : c ∈ r.matches types) : c.rule = r := by
  obtain ⟨u, -, hu⟩ := List.mem_filterMap.mp h
  exact rule_of_ofShape? hu

/-- The rule gives incompatible categories to two of the types. -/
def Conflicts (r : Rule) (types : List JavaType) : Prop :=
  ∃ u ∈ types, ∃ w ∈ types, ∃ c d, Category.ofShape? r u = some c ∧ Category.ofShape? r w = some d ∧
    c.Incompatible d

/-- Shapes in pairs tell all conflicts there are, since no shape conflicts with itself. -/
theorem pairwise_matches_iff :
    (r.matches types).Pairwise (fun c d => c.conflicts d = false) ↔ ¬ r.Conflicts types := by
  simp only [← Bool.not_eq_true, Category.conflicts_iff]
  constructor
  · rintro hpairs ⟨u, hu, w, hw, c, d, hc, hd, hcd⟩
    have hsymm : Std.Symm fun c d : Category => ¬ c.Incompatible d := ⟨fun _ _ h hdc => h hdc.symm⟩
    exact hpairs.forall_of_forall (fun c _ => Category.not_incompatible_self c)
      (List.mem_filterMap.mpr ⟨u, hu, hc⟩) (List.mem_filterMap.mpr ⟨w, hw, hd⟩) hcd
  · intro hnone
    refine List.pairwise_of_forall_mem_list fun c hc d hd hcd => hnone ?_
    obtain ⟨u, hu, hshape⟩ := List.mem_filterMap.mp hc
    obtain ⟨w, hw, hother⟩ := List.mem_filterMap.mp hd
    exact ⟨u, hu, w, hw, c, d, hshape, hother, hcd⟩

/-- The winning rule gives a first shape and perhaps more, all of its own. -/
theorem Wins.exists_shapes (h : Wins r types) :
    ∃ c cs, r.matches types = c :: cs ∧ c.rule = r ∧ ∀ d ∈ cs, d.rule = r := by
  obtain ⟨c, cs, hshapes⟩ := h.exists_matches_eq_cons
  have hrules : ∀ d ∈ c :: cs, d.rule = r := fun d hd => rule_of_mem_matches (hshapes ▸ hd)
  exact ⟨c, cs, hshapes, List.forall_mem_cons.mp hrules⟩

/-- The strict classifier refuses a type exactly if the winning rule finds a conflict. -/
theorem Wins.classifyStrict_eq_error_iff (h : Wins r t.chain) :
    (∃ a, classifyStrict t = .error a) ↔ r.Conflicts t.chain := by
  obtain ⟨c, cs, hshapes, hc, hcs⟩ := h.exists_shapes
  have hfound : (cs.foldl Merge.add ⟨c, []⟩).candidates = [] ↔ ¬ r.Conflicts t.chain := by
    rw [Merge.candidates_foldl_add_eq_nil_iff rfl hc hcs, ← pairwise_matches_iff, hshapes,
      List.pairwise_cons]
  rw [h.classifyStrict_eq hshapes]
  split
  · next hnone => exact iff_of_false (by simp) (hfound.mp hnone)
  · next hsome => exact iff_of_true ⟨_, rfl⟩ (not_not.mp (mt hfound.mpr hsome))

theorem Wins.wellReported_of_classifyStrict (h : Wins r t.chain) {a : Ambiguity}
    (ha : classifyStrict t = .error a) :
    a.rule = r ∧ 2 ≤ a.candidates.length ∧ ∀ c ∈ a.candidates, c.rule = r := by
  obtain ⟨c, cs, hshapes, hc, hcs⟩ := h.exists_shapes
  have hreport : Merge.WellReported r (cs.foldl Merge.add ⟨c, []⟩) :=
    Merge.WellReported.foldl_add ⟨hc, by simp, by simp⟩ hcs
  rw [h.classifyStrict_eq hshapes] at ha
  split at ha
  · cases ha
  · next hne =>
    have haeq := Except.error.inj ha
    subst haeq
    exact ⟨rfl, hreport.two_le hne, hreport.candidates⟩

end Rule

/-- **The exact outcome of strict classification.** Either no rule matches any type of the chain, and
both classifiers give an object, or one rule wins. Then the strict classifier refuses the type if and
only if two types of the chain get incompatible categories from the winning rule; the report names
that rule and at least two shapes of it. A category that it does give is the one that the lenient
classifier gives. -/
theorem classifyStrict_outcome (t : JavaType) :
    ((∀ r : Rule, ∀ u ∈ t.chain, Category.ofShape? r u = none) ∧
        classify t = .object ∧ classifyStrict t = .ok .object) ∨
      ∃ r : Rule, r.Wins t.chain ∧
        ((∃ a, classifyStrict t = .error a) ↔ r.Conflicts t.chain) ∧
        (∀ a, classifyStrict t = .error a →
          a.rule = r ∧ 2 ≤ a.candidates.length ∧ ∀ c ∈ a.candidates, c.rule = r) ∧
        ∀ c, classifyStrict t = .ok c → c = classify t := by
  rcases Rule.exists_wins_or t.chain with ⟨r, hr⟩ | hnone
  · exact Or.inr ⟨r, hr, hr.classifyStrict_eq_error_iff, fun a ha => hr.wellReported_of_classifyStrict ha,
      fun c hc => (classify_of_classifyStrict hc).symm⟩
  · exact Or.inl ⟨hnone, Rule.classify_of_no_matches hnone⟩

/-- Raw collections before and between two element types do not hide that they differ. -/
example : classifyStrict (.declared "com.example" "Rows" [] [.collection .list none,
    .collection .set (some .path), .collection .iterable none,
    .collection .queue (some (.boxed .int))]) =
      .error ⟨.iterable, [.iterable (some .path), .iterable (some (.boxed .int))]⟩ := by
  decide +kernel

end AssertionGen
