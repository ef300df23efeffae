import AssertionGen.Proofs.Ambiguity
import AssertionGen.Proofs.Chains
/-!
# Rearranged supertypes

No rule matches a declared type. So of the supertypes of a type only those count for its category
that are not declared, and the strict classifier depends on them as a set: on no order, no repeats,
and no declared types in between (`classifyStrict_of_sameShapes`).

The classifier itself goes by the order. It merges the shapes of the winning rule one after the other,
and what it keeps of two is the first, perhaps with the element type of the second. The order does not
show, because two shapes either conflict, and are refused wherever they stand, or one of them says all
that the other one does (`Category.fills_total`). Then the merge keeps that one, and in the end has
the shape that says all that any of them does (`Category.foldl_refine_greatest`), of which there is
only one.

Five rules compare nothing and take the first shape that they match. For these the order shows.
-/

namespace AssertionGen

/-! ## Types with the same shapes -/

namespace JavaType

variable {t u : JavaType}

/-- The type is a declared class or interface; no other type has supertypes. -/
def isDeclared : JavaType → Bool
  | declared _ _ _ _ => true
  | _ => false

/-- Both types reach the same types that are not declared. -/
def SameShapes (t u : JavaType) : Prop :=
  ∀ w, w.isDeclared = false → (t.Reaches w ↔ u.Reaches w)

theorem SameShapes.symm (h : t.SameShapes u) : u.SameShapes t := fun w hw => (h w hw).symm

theorem sameShapes_iff_lineage :
    t.SameShapes u ↔ ∀ w ∈ t.lineage ++ u.lineage, w.isDeclared = false →
      (w ∈ t.lineage ↔ w ∈ u.lineage) := by
  simp only [SameShapes, ← mem_lineage_iff]
  refine forall_congr' fun w => ⟨fun h _ => h, fun h hw => ?_⟩
  by_cases hlisted : w ∈ t.lineage ++ u.lineage
  · exact h hlisted hw
  · rw [List.mem_append, not_or] at hlisted
    exact iff_of_false hlisted.1 hlisted.2

instance (t u : JavaType) : Decidable (t.SameShapes u) :=
  decidable_of_iff _ sameShapes_iff_lineage.symm

/-- No rule matches a declared type. -/
theorem ofShape?_of_isDeclared (h : t.isDeclared = true) (r : Rule) :
    Category.ofShape? r t = none := by
  cases t with
  | declared p n as ss => cases r <;> rfl
  | _ => cases h

theorem SameShapes.mem_matches_iff (h : t.SameShapes u) {r : Rule} {c : Category} :
    c ∈ r.matches t.chain ↔ c ∈ r.matches u.chain := by
  have hkept : ∀ {t u : JavaType}, t.SameShapes u → c ∈ r.matches t.chain →
      c ∈ r.matches u.chain := by
    intro t u h hc
    obtain ⟨w, hw, hshape⟩ := List.mem_filterMap.mp hc
    have hundeclared : w.isDeclared = false := by
      refine Bool.eq_false_iff.mpr fun hdeclared => ?_
      rw [ofShape?_of_isDeclared hdeclared] at hshape
      cases hshape
    have hreach := (h w hundeclared).mp (mem_chain_iff.mp hw)
    exact List.mem_filterMap.mpr ⟨w, mem_chain_iff.mpr hreach, hshape⟩
  exact ⟨hkept h, hkept h.symm⟩

end JavaType

/-! ## Shapes that say all that another one does -/

/-- The rules that take the first shape they match, whatever comes after it. -/
def Rule.takesFirst : Rule → Bool
  | primitive | boxed | primitiveArray | objectArray | typeVariable => true
  | _ => false

namespace Category

/-- The first category is the second, perhaps with an element type that the second leaves open. -/
inductive Fills : Category → Category → Prop where
  | refl (c : Category) : Fills c c
  | iterable (e : Option JavaType) : Fills (iterable e) (iterable none)
  | container (k : ContainerKind) (e : Option JavaType) : Fills (container k e) (container k none)

variable {c d e : Category}

theorem Fills.trans (hcd : Fills c d) (hde : Fills d e) : Fills c e := by
  cases hcd with
  | refl => exact hde
  | iterable a => cases hde <;> exact .iterable a
  | container k a => cases hde <;> exact .container k a

theorem Fills.antisymm (hcd : Fills c d) (hdc : Fills d c) : c = d := by
  cases hcd with
  | refl => rfl
  | iterable a => cases hdc <;> rfl
  | container k a => cases hdc <;> rfl

theorem Fills.refine_left (h : Fills c d) : c.refine d = c := by
  cases h with
  | refl => cases c <;> simp [refine]
  | iterable a => rw [refine_iterable, Option.or_none]
  | container k a => rw [refine_container, Option.or_none]

theorem Fills.refine_right (h : Fills d c) : c.refine d = d := by
  cases h with
  | refl => exact (Fills.refl c).refine_left
  | iterable a => rw [refine_iterable, Option.none_or]
  | container k a => rw [refine_container, Option.none_or]

/-- Elements that do not differ are the same, unless one of them is missing. -/
theorem eq_or_missing_of_differ {a b : Option JavaType} (h : differ a b = false) :
    a = b ∨ a = none ∨ b = none := by
  cases a with
  | none => exact Or.inr (Or.inl rfl)
  | some a =>
      cases b with
      | none => exact Or.inr (Or.inr rfl)
      | some b => exact Or.inl (by simpa [differ] using h)

/-- Of two shapes of a rule that compares them, one says all that the other does, unless they
conflict. -/
theorem fills_total (hrule : c.rule = d.rule) (hcompared : c.rule.takesFirst = false)
    (h : c.conflicts d = false) : Fills c d ∨ Fills d c := by
  cases c with
  | primitive k | boxed k | primitiveArray k | objectArray a | typeVariable n => cases hcompared
  | boolean | boxedBoolean | map | classRef | path | object =>
      cases d <;> cases hrule
      exact Or.inl (.refl _)
  | optional k | stream k =>
      cases d <;> cases hrule
      next l =>
      have hkind : k = l := by simpa [conflicts] using h
      rw [hkind]
      exact Or.inl (.refl _)
  | iterable a =>
      cases d <;> cases hrule
      next b =>
      rcases eq_or_missing_of_differ h with rfl | rfl | rfl
      · exact Or.inl (.refl _)
      · exact Or.inr (.iterable b)
      · exact Or.inl (.iterable a)
  | container k a =>
      cases d <;> cases hrule
      next l b =>
      simp only [conflicts, Bool.or_eq_false_iff, decide_eq_false_iff_not, not_not] at h
      obtain ⟨rfl, hdiffer⟩ := h
      rcases eq_or_missing_of_differ hdiffer with rfl | rfl | rfl
      · exact Or.inl (.refl _)
      · exact Or.inr (.container k b)
      · exact Or.inl (.container k a)

theorem rule_foldl_refine (c : Category) (cs : List Category) : (cs.foldl refine c).rule = c.rule := by
  induction cs generalizing c with
  | nil => rfl
  | cons d cs ih => rw [List.foldl_cons, ih, rule_refine]

/-- The merge of two such shapes is one of them, and it says all that both do. -/
theorem refine_fills (hrule : c.rule = d.rule) (hcompared : c.rule.takesFirst = false)
    (h : c.conflicts d = false) :
    (c.refine d = c ∨ c.refine d = d) ∧ (c.refine d).Fills c ∧ (c.refine d).Fills d := by
  rcases fills_total hrule hcompared h with hcd | hdc
  · rw [hcd.refine_left]
    exact ⟨Or.inl rfl, .refl c, hcd⟩
  · rw [hdc.refine_right]
    exact ⟨Or.inr rfl, hdc, .refl d⟩

/-- Shapes of such a rule, no two of which conflict, are merged to one of them, which says all that
each of them does. -/
theorem foldl_refine_greatest {r : Rule} {cs : List Category} (hcompared : r.takesFirst = false)
    (hrules : ∀ d ∈ c :: cs, d.rule = r)
    (hpairs : (c :: cs).Pairwise fun c d => c.conflicts d = false) :
    cs.foldl refine c ∈ c :: cs ∧ ∀ d ∈ c :: cs, Fills (cs.foldl refine c) d := by
  induction cs generalizing c with
  | nil => simpa using Fills.refl c
  | cons d cs ih =>
      have hc : c.rule = r := hrules c List.mem_cons_self
      have hd : d.rule = r := hrules d (List.mem_cons_of_mem c List.mem_cons_self)
      have hfree : c.conflicts d = false := (List.pairwise_cons.mp hpairs).1 d List.mem_cons_self
      obtain ⟨hone, hfirst, hsecond⟩ := refine_fills (hc.trans hd.symm) (hc ▸ hcompared) hfree
      -- the merge goes on with one of the two, so what is left to merge are some of the shapes
      have hsub : (c.refine d :: cs).Sublist (c :: d :: cs) := by
        rcases hone with hone | hone <;> rw [hone]
        · exact (List.sublist_cons_self d cs).cons_cons c
        · exact List.sublist_cons_self c (d :: cs)
      obtain ⟨hmem, hfills⟩ := ih (fun e he => hrules e (hsub.subset he)) (hpairs.sublist hsub)
      have hmerged := hfills (c.refine d) List.mem_cons_self
      rw [List.foldl_cons]
      refine ⟨hsub.subset hmem, ?_⟩
      rw [List.forall_mem_cons, List.forall_mem_cons]
      exact ⟨hmerged.trans hfirst, hmerged.trans hsecond,
        fun e he => hfills e (List.mem_cons_of_mem _ he)⟩

end Category

/-! ## The verdict on a type -/

namespace Rule

variable {r : Rule} {t : JavaType} {c : Category}

/-- Which rule wins is decided by the shapes that the rules match. -/
theorem Wins.of_mem_matches_iff {types others : List JavaType} (h : Wins r types)
    (hsame : ∀ (q : Rule) (c : Category), c ∈ q.matches types ↔ c ∈ q.matches others) :
    Wins r others := by
  have hnone : ∀ q : Rule, q.matches types = [] ↔ q.matches others = [] := by
    intro q
    simp only [List.eq_nil_iff_forall_not_mem, hsame]
  constructor
  · obtain ⟨c, cs, hshapes⟩ := h.exists_matches_eq_cons
    have hc : c ∈ r.matches others := (hsame r c).mp (hshapes ▸ List.mem_cons_self)
    obtain ⟨u, hu, hshape⟩ := List.mem_filterMap.mp hc
    exact ⟨u, hu, by simp [hshape]⟩
  · intro q hq
    exact matches_eq_nil_iff.mp ((hnone q).mp (matches_eq_nil_iff.mpr (h.first q hq)))

theorem conflicts_iff_exists_mem_matches {types : List JavaType} :
    r.Conflicts types ↔ ∃ c ∈ r.matches types, ∃ d ∈ r.matches types, c.Incompatible d := by
  simp only [Conflicts, Rule.matches, List.mem_filterMap]
  constructor
  · rintro ⟨u, hu, w, hw, c, d, hc, hd, hcd⟩
    exact ⟨c, ⟨u, hu, hc⟩, d, ⟨w, hw, hd⟩, hcd⟩
  · rintro ⟨c, ⟨u, hu, hc⟩, d, ⟨w, hw, hd⟩, hcd⟩
    exact ⟨u, hu, w, hw, c, d, hc, hd, hcd⟩

/-- A refusal is the winning rule's, for its conflicts. -/
theorem Wins.refused_iff (h : Wins r t.chain) {q : Rule} :
    (∃ a, classifyStrict t = .error a ∧ a.rule = q) ↔ r = q ∧ r.Conflicts t.chain := by
  constructor
  · rintro ⟨a, ha, rfl⟩
    exact ⟨(h.wellReported_of_classifyStrict ha).1.symm, h.classifyStrict_eq_error_iff.mp ⟨a, ha⟩⟩
  · rintro ⟨rfl, hconflicts⟩
    obtain ⟨a, ha⟩ := h.classifyStrict_eq_error_iff.mpr hconflicts
    exact ⟨a, ha, (h.wellReported_of_classifyStrict ha).1⟩

/-- What is accepted is the merge of the winning rule's shapes, no two of which conflict. -/
theorem Wins.exists_merge_of_classifyStrict (h : Wins r t.chain) (hc : classifyStrict t = .ok c) :
    ∃ d ds, r.matches t.chain = d :: ds ∧ c = ds.foldl Category.refine d ∧
      (d :: ds).Pairwise fun c d => c.conflicts d = false := by
  obtain ⟨d, ds, hshapes, hd, hds⟩ := h.exists_shapes
  rw [h.classifyStrict_eq hshapes] at hc
  split at hc
  · next hnone =>
    have hmerged := Merge.current_foldl_add hnone
    have hpairs := (Merge.candidates_foldl_add_eq_nil_iff rfl hd hds).mp hnone
    exact ⟨d, ds, hshapes, (Except.ok.inj hc).symm.trans hmerged, List.pairwise_cons.mpr hpairs⟩
  · cases hc

theorem Wins.rule_of_classifyStrict (h : Wins r t.chain) (hc : classifyStrict t = .ok c) :
    c.rule = r := by
  obtain ⟨d, ds, hshapes, rfl, -⟩ := h.exists_merge_of_classifyStrict hc
  have hd : d ∈ r.matches t.chain := hshapes ▸ List.mem_cons_self
  rw [Category.rule_foldl_refine, rule_of_mem_matches hd]

/-- What is accepted is the shape that says all that any of the winning rule's shapes does. -/
theorem Wins.greatest_of_classifyStrict (h : Wins r t.chain) (hcompared : r.takesFirst = false)
    (hc : classifyStrict t = .ok c) :
    c ∈ r.matches t.chain ∧ ∀ d ∈ r.matches t.chain, c.Fills d := by
  obtain ⟨d, ds, hshapes, rfl, hpairs⟩ := h.exists_merge_of_classifyStrict hc
  rw [hshapes]
  exact Category.foldl_refine_greatest hcompared (fun e he => rule_of_mem_matches (hshapes ▸ he)) hpairs

end Rule

/-- **The strict classifier sees only which shapes are reached.** Two types that reach the same types
that are not declared, by whatever supertypes and in whatever order, are both refused or both
accepted, in each case by the same rule. If they are accepted by a rule that compares its shapes, they
get the same category, element type included. -/
theorem classifyStrict_of_sameShapes {t u : JavaType} (hsame : t.SameShapes u) :
    (∀ r : Rule, (∃ a, classifyStrict t = .error a ∧ a.rule = r) ↔
        ∃ a, classifyStrict u = .error a ∧ a.rule = r) ∧
      ∀ c d, classifyStrict t = .ok c → classifyStrict u = .ok d →
        c.rule = d.rule ∧ (c.rule.takesFirst = false → c = d) := by
  have hmatches : ∀ (q : Rule) (c : Category), c ∈ q.matches t.chain ↔ c ∈ q.matches u.chain :=
    fun _ _ => hsame.mem_matches_iff
  rcases Rule.exists_wins_or t.chain with ⟨r, ht⟩ | hnone
  · have hu : r.Wins u.chain := ht.of_mem_matches_iff hmatches
    constructor
    · intro q
      simp only [ht.refused_iff, hu.refused_iff, Rule.conflicts_iff_exists_mem_matches, hmatches]
    · intro c d hc hd
      have hrule : c.rule = r := ht.rule_of_classifyStrict hc
      refine ⟨hrule.trans (hu.rule_of_classifyStrict hd).symm, fun hcompared => ?_⟩
      rw [hrule] at hcompared
      obtain ⟨hcmem, hcfills⟩ := ht.greatest_of_classifyStrict hcompared hc
      obtain ⟨hdmem, hdfills⟩ := hu.greatest_of_classifyStrict hcompared hd
      exact (hcfills d ((hmatches r d).mpr hdmem)).antisymm (hdfills c ((hmatches r c).mp hcmem))
  · have hunmatched : ∀ q : Rule, ∀ w ∈ u.chain, Category.ofShape? q w = none := by
      intro q
      rw [← Rule.matches_eq_nil_iff, List.eq_nil_iff_forall_not_mem]
      simp only [← hmatches, ← List.eq_nil_iff_forall_not_mem, Rule.matches_eq_nil_iff]
      exact hnone q
    rw [(Rule.classify_of_no_matches hnone).2, (Rule.classify_of_no_matches hunmatched).2]
    refine ⟨fun _ => Iff.rfl, fun c d hc hd => ?_⟩
    rw [← Except.ok.inj hc, ← Except.ok.inj hd]
    exact ⟨rfl, fun _ => rfl⟩

namespace Sample

/-- A raw list, and behind a class of its own a set of paths. -/
def rows : JavaType :=
  .declared "com.example" "Rows" []
    [.collection .list none, .declared "com.example" "Paths" [] [.collection .set (some .path)]]

/-- The same shapes the other way round, one of them twice. -/
def columns : JavaType :=
  .declared "com.example" "Columns" []
    [.collection .set (some .path), .declared "com.example" "Base" []
      [.declared "com.example" "Raw" [] [.collection .list none], .collection .set (some .path)]]

/-- A type with two primitive supertypes, in this order. -/
def primitives (k l : Primitive) : JavaType :=
  .declared "com.example" "Primitives" [] [.primitive k, .primitive l]

end Sample

theorem classifyStrict_of_sameShapes_rows :
    Sample.rows.SameShapes Sample.columns ∧
      classifyStrict Sample.rows = .ok (.iterable (some .path)) ∧
      classifyStrict Sample.columns = .ok (.iterable (some .path)) := by
  have hsame : Sample.rows.SameShapes Sample.columns := by decide +kernel
  have hrows : classifyStrict Sample.rows = .ok (.iterable (some .path)) := by decide +kernel
  obtain ⟨hrefused, haccepted⟩ := classifyStrict_of_sameShapes hsame
  cases hcolumns : classifyStrict Sample.columns with
  | error a =>
      obtain ⟨b, hb, -⟩ := (hrefused a.rule).mpr ⟨a, hcolumns, rfl⟩
      rw [hrows] at hb
      cases hb
  | ok d =>
      have hd : .iterable (some .path) = d := (haccepted _ d hrows hcolumns).2 rfl
      rw [hd] at hrows ⊢
      exact ⟨hsame, hrows, rfl⟩

/-- Primitive types are not compared, and the first one counts. -/
example : (Sample.primitives .int .long).SameShapes (Sample.primitives .long .int) ∧
    classifyStrict (Sample.primitives .int .long) = .ok (.primitive .int) ∧
    classifyStrict (Sample.primitives .long .int) = .ok (.primitive .long) := by
  decide +kernel

end AssertionGen
