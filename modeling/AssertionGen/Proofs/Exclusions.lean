import AssertionGen.Proofs.Differences
/-!
# What an exclusion reports

The excluded values are taken one after the other. One that some element equals is a hit, and a hit is
reported unless an earlier one equals it. So the report is the list of the hits without its repeats
(`Value.hits_eq`), and nothing is reported exactly if no excluded value is among the elements.

The same question can be put to the containment of one value, which goes another way: it strikes the
value off the elements and reports it as missing if that fails. Both agree on each value
(`exclusion_reports`), and as the answer is one for each value, neither the order nor the number of
the excluded values matters to whether an exclusion passes. To what it reports they do matter, since
of equal values it is the first that stands in the report.
-/

namespace AssertionGen

/-! ## Repeats -/

section Repeats

variable {α : Type} {r s : α → α → Bool} {l : List α}

theorem eraseDupsBy_eq_nil_iff : l.eraseDupsBy r = [] ↔ l = [] := by
  cases l with
  | nil => simp
  | cons a as => simp [List.eraseDupsBy_cons]

/-- Only what the relation says of the entries of the list matters. -/
theorem eraseDupsBy_congr (h : ∀ a ∈ l, ∀ b ∈ l, r a b = s a b) :
    l.eraseDupsBy r = l.eraseDupsBy s := by
  -- by induction on the length: the rest of the list is filtered before its repeats are dropped
  induction hlength : l.length using Nat.strong_induction_on generalizing l with
  | h n ih =>
      cases l with
      | nil => rfl
      | cons a as =>
          have hfilter : (as.filter fun b => decide (r b a = false)) =
              as.filter fun b => decide (s b a = false) := by
            refine List.filter_congr fun b hb => ?_
            rw [h b (List.mem_cons_of_mem a hb) a List.mem_cons_self]
          have hshorter : (as.filter fun b => decide (s b a = false)).length < n := by
            rw [← hlength, List.length_cons]
            exact Nat.lt_succ_of_le (List.length_filter_le _ _)
          have hrest : ∀ b ∈ as.filter fun b => decide (s b a = false), b ∈ a :: as := fun b hb =>
            List.mem_cons_of_mem a (List.mem_filter.mp hb).1
          rw [List.eraseDupsBy_cons, List.eraseDupsBy_cons, hfilter,
            ih _ hshorter (fun b hb c hc => h b (hrest b hb) c (hrest c hc)) rfl]

end Repeats

namespace Value

variable {v w e : Value} {actual excluded found : List Value}

/-! ## Hits -/

/-- Between values without maps that repeat a key, equality has no direction. -/
theorem eqv_comm (hv : v.KeysDistinct) (hw : w.KeysDistinct) : v.eqv w = w.eqv v := by
  rw [Bool.eq_iff_iff]
  exact ⟨Equal.symm hv, Equal.symm hw⟩

/-- What the search adds to earlier hits are the hits that equal none of them, without repeats. -/
theorem hits_eq (actual found excluded : List Value) :
    hits actual found excluded = found ++
      (excluded.filter fun e => actual.any (fun a => a.eqv e) &&
        !found.any fun u => u.eqv e).eraseDupsBy fun later earlier => earlier.eqv later := by
  induction excluded generalizing found with
  | nil => simp [hits]
  | cons e es ih =>
      rw [hits, ih, List.filter_cons]
      split
      · -- a new hit drops what equals it now, and as an earlier hit it does so ever after
        have hrest : (es.filter fun x => actual.any (fun a => a.eqv x) &&
              !(found ++ [e]).any fun u => u.eqv x) =
            (es.filter fun x => actual.any (fun a => a.eqv x) &&
              !found.any fun u => u.eqv x).filter fun x => decide (e.eqv x = false) := by
          rw [List.filter_filter]
          refine List.filter_congr fun x _ => ?_
          rw [List.any_append, List.any_cons, List.any_nil, Bool.or_false]
          cases e.eqv x <;> simp
        rw [hrest, List.eraseDupsBy_cons, List.append_assoc, List.singleton_append]
      · rfl

theorem mem_of_mem_hits (h : w ∈ hits actual found excluded) : w ∈ found ∨ w ∈ excluded := by
  induction excluded generalizing found with
  | nil => exact Or.inl h
  | cons e es ih =>
      rcases ih h with hfound | hlater
      · split at hfound
        · rcases List.mem_append.mp hfound with hbefore | hself
          · exact Or.inl hbefore
          · rw [List.mem_singleton.mp hself]
            exact Or.inr List.mem_cons_self
        · exact Or.inl hfound
      · exact Or.inr (List.mem_cons_of_mem e hlater)

/-- No hit equals a later one, if none did before. -/
theorem pairwise_hits (h : found.Pairwise fun u w => ¬ u.Equal w) :
    (hits actual found excluded).Pairwise fun u w => ¬ u.Equal w := by
  induction excluded generalizing found with
  | nil => exact h
  | cons e es ih =>
      refine ih ?_
      split
      · next hnew =>
        rw [Bool.and_eq_true, Bool.not_eq_true', List.any_eq_false] at hnew
        refine List.pairwise_append.mpr ⟨h, List.pairwise_singleton _ e, fun u hu w hw => ?_⟩
        rw [List.mem_singleton.mp hw]
        exact hnew.2 u hu
      · exact h

/-- The excluded values that equal some element, in their order and without later repeats. -/
def excludedHits (actual excluded : List Value) : List Value :=
  (excluded.filter fun e => actual.any fun a => e.eqv a).eraseDupsBy eqv

theorem hits_eq_excludedHits (hactual : ∀ a ∈ actual, a.KeysDistinct)
    (hexcluded : ∀ e ∈ excluded, e.KeysDistinct) :
    hits actual [] excluded = excludedHits actual excluded := by
  have hfilter : (excluded.filter fun e => actual.any (fun a => a.eqv e) &&
      !([] : List Value).any fun u => u.eqv e) =
        excluded.filter fun e => actual.any fun a => e.eqv a := by
    refine List.filter_congr fun e he => ?_
    rw [List.any_nil, Bool.not_false, Bool.and_true, Bool.eq_iff_iff, List.any_eq_true,
      List.any_eq_true]
    refine exists_congr fun a => and_congr_right fun ha => ?_
    rw [eqv_comm (hactual a ha) (hexcluded e he)]
  rw [hits_eq, List.nil_append, hfilter, excludedHits]
  refine eraseDupsBy_congr fun u hu w hw => ?_
  exact eqv_comm (hexcluded w (List.mem_filter.mp hw).1) (hexcluded u (List.mem_filter.mp hu).1)

/-- Nothing is found exactly if no excluded value is among the elements. -/
theorem hits_eq_nil_iff :
    hits actual [] excluded = [] ↔ ∀ e ∈ excluded, ∀ a ∈ actual, ¬ a.Equal e := by
  rw [hits_eq, List.nil_append, eraseDupsBy_eq_nil_iff, List.filter_eq_nil_iff]
  refine forall₂_congr fun e _ => ?_
  simp only [List.any_nil, Bool.not_false, Bool.and_true, List.any_eq_true, not_exists, not_and]

/-- A single value is missing exactly if none of the elements equals it. -/
theorem missing_singleton_ne_nil_iff (e : Value) :
    (difference actual [e]).1 ≠ [] ↔ ∀ a ∈ actual, ¬ a.Equal e := by
  cases hfound : removeFirst? e actual with
  | some rest =>
      obtain ⟨a, ha, hperm⟩ := removeFirst?_eq_some hfound
      have hmem : a ∈ actual := hperm.mem_iff.mpr List.mem_cons_self
      have hmissing : (difference actual [e]).1 = [] := by rw [difference_of_found hfound, difference]
      exact iff_of_false (fun hne => hne hmissing) fun hnone => hnone a hmem ha
  | none =>
      rw [difference_of_not_found hfound]
      exact iff_of_true (List.cons_ne_nil e _) (removeFirst?_eq_none hfound)

end Value

/-! ## Exclusion and containment -/

namespace Handle

variable {h : Handle} {actual : List Value}

theorem containsNoneOf_eq (hkind : isIterable h.kind = true) (hitems : h.actual.elements? = some actual)
    (excluded : List Value) :
    h.containsNoneOf excluded =
      .ok (h.containment .containsNoneOf [] (Value.hits actual [] excluded)) := by
  rw [containsNoneOf, elements, if_pos hkind, hitems]
  rfl

theorem containsNoneOf_eq_pass_iff (hkind : isIterable h.kind = true)
    (hitems : h.actual.elements? = some actual) (excluded : List Value) :
    h.containsNoneOf excluded = .ok .pass ↔ ∀ e ∈ excluded, ∀ a ∈ actual, ¬ a.Equal e := by
  rw [containsNoneOf_eq hkind hitems, Except.ok.injEq, containment_eq_pass_iff, and_iff_right rfl]
  exact Value.hits_eq_nil_iff

/-- The containment of one value fails exactly if none of the elements equals it. -/
theorem containsAtLeast_singleton_fails_iff (hkind : isIterable h.kind = true)
    (hitems : h.actual.elements? = some actual) (e : Value) :
    (∃ record, h.containsAtLeast [e] = .ok (.fail record)) ↔ ∀ a ∈ actual, ¬ a.Equal e := by
  rw [containsAtLeast_eq hkind hitems, ← Value.missing_singleton_ne_nil_iff]
  by_cases hmissing : (Value.difference actual [e]).1 = []
  · rw [containment_eq_pass_iff.mpr ⟨hmissing, rfl⟩]
    exact iff_of_false (by simp) fun hne => hne hmissing
  · rw [containment_of_found fun hnone => hmissing hnone.1]
    exact iff_of_true ⟨_, rfl⟩ hmissing

end Handle

/-- **An exclusion reports each hit once.** On every handle with elements, what is reported are the
excluded values that equal some element, in their order and without later repeats; the exclusion
passes exactly if there are none. No two of the reported values are equal, whichever is compared with
which. An exclusion is the dual of containment: it passes exactly if of every excluded value alone the
containment fails. So it passes for the same values in any other order and number as well. -/
theorem exclusion_reports {actual excluded : List Value} (hactual : ∀ a ∈ actual, a.KeysDistinct)
    (hexcluded : ∀ e ∈ excluded, e.KeysDistinct) {h : Handle}
    (hkind : Handle.isIterable h.kind = true) (hitems : h.actual.elements? = some actual) :
    (Value.excludedHits actual excluded = [] ∧ h.containsNoneOf excluded = .ok .pass ∨
      Value.excludedHits actual excluded ≠ [] ∧ h.containsNoneOf excluded =
        .ok (.fail (.containment h.displayName .containsNoneOf []
          (Value.excludedHits actual excluded)))) ∧
    ((Value.excludedHits actual excluded).Pairwise fun u w => ¬ u.Equal w ∧ ¬ w.Equal u) ∧
    (h.containsNoneOf excluded = .ok .pass ↔
      ∀ e ∈ excluded, ∃ record, h.containsAtLeast [e] = .ok (.fail record)) ∧
    ∀ others : List Value, (∀ e, e ∈ others ↔ e ∈ excluded) →
      (h.containsNoneOf others = .ok .pass ↔ h.containsNoneOf excluded = .ok .pass) := by
  have hhits := Value.hits_eq_excludedHits hactual hexcluded
  refine ⟨?_, ?_, ?_, ?_⟩
  · rw [Handle.containsNoneOf_eq hkind hitems, hhits]
    by_cases hnone : Value.excludedHits actual excluded = []
    · exact Or.inl ⟨hnone, by rw [Handle.containment_eq_pass_iff.mpr ⟨rfl, hnone⟩]⟩
    · exact Or.inr ⟨hnone, by rw [Handle.containment_of_found fun hempty => hnone hempty.2]⟩
  · rw [← hhits]
    refine (Value.pairwise_hits List.Pairwise.nil).imp_of_mem ?_
    intro u w hu hw hne
    have hkeys : ∀ x ∈ Value.hits actual [] excluded, x.KeysDistinct := fun x hx =>
      hexcluded x ((Value.mem_of_mem_hits hx).resolve_left List.not_mem_nil)
    exact ⟨hne, fun hwu => hne (Value.Equal.symm (hkeys w hw) hwu)⟩
  · rw [Handle.containsNoneOf_eq_pass_iff hkind hitems]
    exact forall₂_congr fun e _ => (Handle.containsAtLeast_singleton_fails_iff hkind hitems e).symm
  · intro others hsame
    rw [Handle.containsNoneOf_eq_pass_iff hkind hitems, Handle.containsNoneOf_eq_pass_iff hkind hitems]
    exact forall_congr' fun e => imp_congr_left (hsame e)

namespace Sample

/-- A number twice, a map that a bag has with other bits and in another order, and a number that it
does not have. -/
def unwanted : List Value := [.int 1, .map readingsAgain, .int 2, .int 1]

theorem excludedHits_unwanted :
    Value.excludedHits counted unwanted = [.int 1, .map readingsAgain] := by
  have hnumber : (Value.int 1).eqv (.int 1) = true := by decide +kernel
  have hother : (Value.int 2).eqv (.int 1) = false := by decide +kernel
  have hmap : (Value.map readingsAgain).eqv (.map readings) = true := by decide +kernel
  have hmixed : (Value.map readingsAgain).eqv (.int 1) = false := by decide +kernel
  have hmixed' : (Value.int 2).eqv (.map readings) = false := by decide +kernel
  simp [Value.excludedHits, counted, unwanted, List.eraseDupsBy_cons, hnumber, hother, hmap, hmixed,
    hmixed']

end Sample

/-- The bag has the number and an equal map; each is reported once, and without the first value, which
is repeated by the last, the values are refused as well. -/
theorem exclusion_reports_bag :
    (∀ a ∈ Sample.counted, a.KeysDistinct) ∧ (∀ e ∈ Sample.unwanted, e.KeysDistinct) ∧
      Handle.isIterable Sample.bag.kind = true ∧
      Sample.bag.actual.elements? = some Sample.counted ∧
      Sample.bag.containsNoneOf Sample.unwanted = .ok (.fail (.containment "getValues()"
        .containsNoneOf [] [.int 1, .map Sample.readingsAgain])) ∧
      Sample.bag.containsNoneOf Sample.unwanted.tail ≠ .ok .pass := by
  have hkeys : ∀ n, (Value.int n).KeysDistinct := fun n => .of_parts_eq_nil rfl
  have hcounted : ∀ a ∈ Sample.counted, a.KeysDistinct := by
    simp [Sample.counted, hkeys, Sample.keysDistinct_readings]
  have hunwanted : ∀ e ∈ Sample.unwanted, e.KeysDistinct := by
    simp [Sample.unwanted, hkeys, Sample.keysDistinct_readingsAgain]
  obtain ⟨hreport, -, -, hothers⟩ :=
    exclusion_reports hcounted hunwanted (h := Sample.bag) rfl rfl
  rw [Sample.excludedHits_unwanted] at hreport
  have hfails : Sample.bag.containsNoneOf Sample.unwanted = .ok (.fail (.containment "getValues()"
      .containsNoneOf [] [.int 1, .map Sample.readingsAgain])) :=
    (hreport.resolve_left fun hnone => List.cons_ne_nil _ _ hnone.1).2
  have hsame : ∀ e, e ∈ Sample.unwanted.tail ↔ e ∈ Sample.unwanted := by
    intro e
    refine ⟨List.mem_of_mem_tail, fun he => ?_⟩
    rcases List.mem_cons.mp he with rfl | hlater
    · simp [Sample.unwanted]
    · exact hlater
  refine ⟨hcounted, hunwanted, rfl, rfl, hfails, fun hpasses => ?_⟩
  have hpasses' := (hothers _ hsame).mp hpasses
  rw [hfails] at hpasses'
  cases hpasses'

end AssertionGen
