import AssertionGen.Check.Handle
import AssertionGen.Proofs.ValueEquality
import Mathlib.Data.List.Perm.Basic
import Mathlib.Data.List.Perm.Subperm
/-!
# What is missing and what is unexpected

The expected elements are taken one after the other, and for each the first equal one that is left of
the actual elements is struck off. What finds none is missing, what is left at the end is unexpected.
The elements struck off pair off with those that struck them (`Value.difference_pairs`).

Taking the first that is equal is never wrong, because what equals an element equals all that equal it,
and so it does not matter to any later element which of them is gone. The counts follow
(`Value.countEqv_difference`): of each value as many are missing as are expected more often than they
are there, and as many unexpected as are there more often. This needs equality to be one, so neither
list may have a map in it that repeats a key.
-/

namespace AssertionGen

namespace Value

variable {v w e : Value} {vs ws actual expected rest : List Value}

/-! ## Counting up to equality -/

theorem eqv_congr_left (hv : v.KeysDistinct) (h : v.Equal w) (u : Value) : v.eqv u = w.eqv u := by
  rw [Bool.eq_iff_iff]
  constructor
  · intro hvu
    exact (Equal.symm hv h).trans hvu
  · intro hwu
    exact h.trans hwu

theorem countEqv_cons (v w : Value) (ws : List Value) :
    countEqv v (w :: ws) = countEqv v ws + if w.eqv v then 1 else 0 :=
  List.countP_cons

theorem countEqv_of_perm (h : vs.Perm ws) (v : Value) : countEqv v vs = countEqv v ws :=
  h.countP_eq _

theorem countEqv_of_subperm (h : vs.Subperm ws) (v : Value) : countEqv v vs ≤ countEqv v ws :=
  h.countP_le _

/-- Lists of equal values count alike. -/
theorem countEqv_of_forall₂ (hvs : ∀ v ∈ vs, v.KeysDistinct) (h : List.Forall₂ Equal vs ws)
    (u : Value) : countEqv u vs = countEqv u ws := by
  induction h with
  | nil => rfl
  | cons hvw _ ih =>
      rw [List.forall_mem_cons] at hvs
      rw [countEqv_cons, countEqv_cons, ih hvs.2, eqv_congr_left hvs.1 hvw]

theorem eq_nil_of_countEqv (h : ∀ v, countEqv v vs = 0) : vs = [] := by
  cases vs with
  | nil => rfl
  | cons v vs =>
      have hv := h v
      rw [countEqv_cons, if_pos (Equal.refl v)] at hv
      omega

/-! ## Striking off -/

theorem removeFirst?_eq_some (h : removeFirst? e actual = some rest) :
    ∃ a, a.Equal e ∧ actual.Perm (a :: rest) := by
  induction actual generalizing rest with
  | nil => cases h
  | cons a as ih =>
      rw [removeFirst?] at h
      split at h
      · next heq =>
        obtain rfl := Option.some.inj h
        exact ⟨a, heq, .refl _⟩
      · obtain ⟨rest', hrest, rfl⟩ := Option.map_eq_some_iff.mp h
        obtain ⟨b, hb, hperm⟩ := ih hrest
        exact ⟨b, hb, (hperm.cons a).trans (.swap b a rest')⟩

theorem removeFirst?_eq_none (h : removeFirst? e actual = none) : ∀ a ∈ actual, ¬ a.Equal e := by
  induction actual with
  | nil => exact fun a ha => absurd ha List.not_mem_nil
  | cons a as ih =>
      rw [removeFirst?] at h
      split at h
      · cases h
      · next hne =>
        rw [List.forall_mem_cons]
        exact ⟨hne, ih (Option.map_eq_none_iff.mp h)⟩

theorem difference_of_found (h : removeFirst? e actual = some rest) (es : List Value) :
    difference actual (e :: es) = difference rest es := by
  rw [difference, h]

theorem difference_of_not_found (h : removeFirst? e actual = none) (es : List Value) :
    difference actual (e :: es) =
      (e :: (difference actual es).1, (difference actual es).2) := by
  rw [difference, h]

/-- But for what is missing and what is unexpected, the lists pair off. -/
theorem difference_pairs (actual expected : List Value) :
    ∃ vs ws, actual.Perm (vs ++ (difference actual expected).2) ∧
      expected.Perm (ws ++ (difference actual expected).1) ∧ List.Forall₂ Equal vs ws := by
  induction expected generalizing actual with
  | nil => exact ⟨[], [], .refl _, .refl _, .nil⟩
  | cons e es ih =>
      cases hfound : removeFirst? e actual with
      | some rest =>
          obtain ⟨a, ha, hactual⟩ := removeFirst?_eq_some hfound
          obtain ⟨vs, ws, hvs, hws, hpairs⟩ := ih rest
          rw [difference_of_found hfound]
          exact ⟨a :: vs, e :: ws, hactual.trans (hvs.cons a), hws.cons e, .cons ha hpairs⟩
      | none =>
          obtain ⟨vs, ws, hvs, hws, hpairs⟩ := ih actual
          rw [difference_of_not_found hfound]
          exact ⟨vs, ws, hvs, (hws.cons e).trans List.perm_middle.symm, hpairs⟩

/-- Of each value as many are missing and unexpected as the counts of the two lists differ. -/
theorem countEqv_difference (hactual : ∀ a ∈ actual, a.KeysDistinct)
    (hexpected : ∀ e ∈ expected, e.KeysDistinct) (v : Value) :
    countEqv v (difference actual expected).1 = countEqv v expected - countEqv v actual ∧
      countEqv v (difference actual expected).2 = countEqv v actual - countEqv v expected := by
  induction expected generalizing actual with
  | nil =>
      have hnone : countEqv v [] = 0 := rfl
      rw [difference, hnone, Nat.zero_sub, Nat.sub_zero]
      exact ⟨rfl, rfl⟩
  | cons e es ih =>
      rw [List.forall_mem_cons] at hexpected
      cases hfound : removeFirst? e actual with
      | some rest =>
          obtain ⟨a, ha, hperm⟩ := removeFirst?_eq_some hfound
          have hmem : ∀ x ∈ a :: rest, x.KeysDistinct := fun x hx => hactual x (hperm.mem_iff.mpr hx)
          rw [List.forall_mem_cons] at hmem
          obtain ⟨hmissing, hunexpected⟩ := ih hmem.2 hexpected.2
          -- the pair struck off counts alike on both sides
          have hsame : a.eqv v = e.eqv v := eqv_congr_left hmem.1 ha v
          rw [difference_of_found hfound, hmissing, hunexpected, countEqv_of_perm hperm,
            countEqv_cons, countEqv_cons, hsame]
          omega
      | none =>
          obtain ⟨hmissing, hunexpected⟩ := ih hactual hexpected.2
          rw [difference_of_not_found hfound, countEqv_cons, countEqv_cons, hmissing, hunexpected]
          by_cases hev : e.Equal v
          · -- an element that equals `v` would have been found for `e`
            have hnone : countEqv v actual = 0 := by
              refine List.countP_eq_zero.mpr fun a ha hav => ?_
              exact removeFirst?_eq_none hfound a ha (Equal.trans hav (Equal.symm hexpected.1 hev))
            rw [if_pos hev, hnone]
            omega
          · rw [if_neg hev]
            omega

/-! ## When nothing is missing -/

/-- The values can be put in an order in which they equal the others one by one. -/
def EqualInAnyOrder (vs ws : List Value) : Prop := ∃ us, us.Perm vs ∧ List.Forall₂ Equal us ws

/-- Among the values there is one of its own for each of the others that equals it. -/
def Covers (vs ws : List Value) : Prop := ∃ us, us.Subperm vs ∧ List.Forall₂ Equal us ws

/-- A pairing can follow the order of either list. -/
theorem exists_perm_forall₂ (hpairs : List.Forall₂ Equal vs ws) (hperm : ws.Perm expected) :
    ∃ us, us.Perm vs ∧ List.Forall₂ Equal us expected := by
  obtain ⟨us, hus, hvs⟩ := List.perm_comp_forall₂ hperm.symm hpairs.flip
  exact ⟨us, hvs, hus.flip⟩

theorem missing_eq_nil_iff (hactual : ∀ a ∈ actual, a.KeysDistinct)
    (hexpected : ∀ e ∈ expected, e.KeysDistinct) :
    (difference actual expected).1 = [] ↔ Covers actual expected := by
  constructor
  · intro hmissing
    obtain ⟨vs, ws, hvs, hws, hpairs⟩ := difference_pairs actual expected
    rw [hmissing, List.append_nil] at hws
    obtain ⟨us, hus, hpairs⟩ := exists_perm_forall₂ hpairs hws.symm
    have hsub : vs.Subperm (vs ++ (difference actual expected).2) :=
      (List.sublist_append_left _ _).subperm
    exact ⟨us, hus.subperm.trans (hsub.trans hvs.symm.subperm), hpairs⟩
  · rintro ⟨us, hus, hpairs⟩
    refine eq_nil_of_countEqv fun v => ?_
    have hkeys : ∀ u ∈ us, u.KeysDistinct := fun u hu => hactual u (hus.subset hu)
    have hle := countEqv_of_subperm hus v
    rw [countEqv_of_forall₂ hkeys hpairs] at hle
    rw [(countEqv_difference hactual hexpected v).1]
    omega

theorem difference_eq_nil_iff (hactual : ∀ a ∈ actual, a.KeysDistinct)
    (hexpected : ∀ e ∈ expected, e.KeysDistinct) :
    (difference actual expected).1 = [] ∧ (difference actual expected).2 = [] ↔
      EqualInAnyOrder actual expected := by
  constructor
  · rintro ⟨hmissing, hunexpected⟩
    obtain ⟨vs, ws, hvs, hws, hpairs⟩ := difference_pairs actual expected
    rw [hunexpected, List.append_nil] at hvs
    rw [hmissing, List.append_nil] at hws
    obtain ⟨us, hus, hpairs⟩ := exists_perm_forall₂ hpairs hws.symm
    exact ⟨us, hus.trans hvs.symm, hpairs⟩
  · rintro ⟨us, hus, hpairs⟩
    have hkeys : ∀ u ∈ us, u.KeysDistinct := fun u hu => hactual u (hus.mem_iff.mp hu)
    have hcounts : ∀ v, countEqv v actual = countEqv v expected := by
      intro v
      rw [← countEqv_of_perm hus, countEqv_of_forall₂ hkeys hpairs]
    constructor
    · refine eq_nil_of_countEqv fun v => ?_
      rw [(countEqv_difference hactual hexpected v).1, hcounts, Nat.sub_self]
    · refine eq_nil_of_countEqv fun v => ?_
      rw [(countEqv_difference hactual hexpected v).2, hcounts, Nat.sub_self]

end Value

/-! ## Containment -/

namespace Handle

variable {h : Handle} {op : Operation} {actual expected missing unexpected : List Value}

theorem containment_eq_pass_iff :
    h.containment op missing unexpected = .pass ↔ missing = [] ∧ unexpected = [] := by
  unfold containment
  split
  · next hempty => simpa using hempty
  · next hfound => simpa using hfound

theorem containment_of_found (hfound : ¬ (missing = [] ∧ unexpected = [])) :
    h.containment op missing unexpected =
      .fail (.containment h.displayName op missing unexpected) := by
  unfold containment
  exact if_neg (by simpa using hfound)

theorem containsExactly_eq (hkind : isIterable h.kind = true) (hitems : h.actual.elements? = some actual)
    (expected : List Value) :
    h.containsExactly expected = .ok (h.containment .containsExactly
      (Value.difference actual expected).1 (Value.difference actual expected).2) := by
  rw [containsExactly, elements, if_pos hkind, hitems]
  rfl

theorem containsAtLeast_eq (hkind : isIterable h.kind = true)
    (hitems : h.actual.elements? = some actual) (expected : List Value) :
    h.containsAtLeast expected = .ok (h.containment .containsAtLeast
      (Value.difference actual expected).1 []) := by
  rw [containsAtLeast, elements, if_pos hkind, hitems]
  rfl

end Handle

/-- **Containment counts.** Of each value as many elements are missing as are expected more often than
they are there, and as many are unexpected as are there more often. On every handle with elements,
these are what the exact containment reports; it passes exactly if the two lists are each other's up
to order and equality. The containment of at least the expected elements passes exactly if each of
them has an equal of its own, and reports only what is missing. -/
theorem containment_counts {actual expected : List Value} (hactual : ∀ a ∈ actual, a.KeysDistinct)
    (hexpected : ∀ e ∈ expected, e.KeysDistinct) :
    (∀ v, Value.countEqv v (Value.difference actual expected).1 =
        Value.countEqv v expected - Value.countEqv v actual ∧
      Value.countEqv v (Value.difference actual expected).2 =
        Value.countEqv v actual - Value.countEqv v expected) ∧
    ∀ h : Handle, Handle.isIterable h.kind = true → h.actual.elements? = some actual →
      (h.containsExactly expected = .ok .pass ↔ Value.EqualInAnyOrder actual expected) ∧
      (¬ Value.EqualInAnyOrder actual expected → h.containsExactly expected =
        .ok (.fail (.containment h.displayName .containsExactly
          (Value.difference actual expected).1 (Value.difference actual expected).2))) ∧
      (h.containsAtLeast expected = .ok .pass ↔ Value.Covers actual expected) ∧
      (¬ Value.Covers actual expected → h.containsAtLeast expected =
        .ok (.fail (.containment h.displayName .containsAtLeast
          (Value.difference actual expected).1 []))) := by
  refine ⟨Value.countEqv_difference hactual hexpected, fun h hkind hitems => ?_⟩
  rw [Handle.containsExactly_eq hkind hitems, Handle.containsAtLeast_eq hkind hitems]
  refine ⟨?_, ?_, ?_, ?_⟩
  · rw [Except.ok.injEq, Handle.containment_eq_pass_iff]
    exact Value.difference_eq_nil_iff hactual hexpected
  · intro hne
    rw [← Value.difference_eq_nil_iff hactual hexpected] at hne
    rw [Handle.containment_of_found hne]
  · rw [Except.ok.injEq, Handle.containment_eq_pass_iff, and_iff_left rfl]
    exact Value.missing_eq_nil_iff hactual hexpected
  · intro hne
    rw [← Value.missing_eq_nil_iff hactual hexpected] at hne
    rw [Handle.containment_of_found fun hnone => hne hnone.1]

namespace Sample

/-- A map and the same number twice. -/
def counted : List Value := [.map readings, .int 1, .int 1]

/-- The number once, and an equal map. -/
def demanded : List Value := [.int 1, .map readingsAgain]

def bag : Handle := ⟨"getValues()", .multiset, .list counted⟩

theorem difference_counted : Value.difference counted demanded = ([], [.int 1]) := by
  have hmap : (Value.map readings).eqv (.int 1) = false := by decide +kernel
  have hnumber : (Value.int 1).eqv (.int 1) = true := by decide +kernel
  have hagain : (Value.map readings).eqv (.map readingsAgain) = true := by decide +kernel
  simp [counted, demanded, Value.difference, Value.removeFirst?, hmap, hnumber, hagain]

end Sample

/-- Everything expected is in the bag, and the number once more. -/
theorem containment_counts_bag :
    (∀ a ∈ Sample.counted, a.KeysDistinct) ∧ (∀ e ∈ Sample.demanded, e.KeysDistinct) ∧
      Value.countEqv (.int 1) [.int 1] =
        Value.countEqv (.int 1) Sample.counted - Value.countEqv (.int 1) Sample.demanded ∧
      Sample.bag.containsAtLeast Sample.demanded = .ok .pass ∧
      Sample.bag.containsExactly Sample.demanded =
        .ok (.fail (.containment "getValues()" .containsExactly [] [.int 1])) := by
  have hone : (Value.int 1).KeysDistinct := .of_parts_eq_nil rfl
  have hcounted : ∀ a ∈ Sample.counted, a.KeysDistinct := by
    simp [Sample.counted, hone, Sample.keysDistinct_readings]
  have hdemanded : ∀ e ∈ Sample.demanded, e.KeysDistinct := by
    simp [Sample.demanded, hone, Sample.keysDistinct_readingsAgain]
  obtain ⟨hcounts, hchecks⟩ := containment_counts hcounted hdemanded
  obtain ⟨-, hexactly, hatLeast, -⟩ := hchecks Sample.bag rfl rfl
  have hcovers : Value.Covers Sample.counted Sample.demanded := by
    refine ⟨[.int 1, .map Sample.readings], ?_, .cons (Value.Equal.refl _) (.cons ?_ .nil)⟩
    · have hperm : [Value.int 1, .map Sample.readings].Perm [.map Sample.readings, .int 1] :=
        .swap _ _ _
      have hsub : [Value.map Sample.readings, .int 1].Sublist Sample.counted :=
        .cons_cons _ (.cons_cons _ (.cons _ .slnil))
      exact hperm.subperm.trans hsub.subperm
    · decide +kernel
  have hlonger : ¬ Value.EqualInAnyOrder Sample.counted Sample.demanded := by
    rintro ⟨us, hus, hpairs⟩
    have hlength := hus.length_eq.symm.trans hpairs.length_eq
    exact absurd hlength (by decide)
  have hunexpected := (hcounts (.int 1)).2
  have hfails := hexactly hlonger
  rw [Sample.difference_counted] at hunexpected hfails
  exact ⟨hcounted, hdemanded, hunexpected, hatLeast.mpr hcovers, hfails⟩

end AssertionGen
