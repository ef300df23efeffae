import AssertionGen.Proofs.Storage
import Mathlib.Logic.Relation
/-!
# Emitting from many sides at once

Units are kept in memory under a lock, and their emitters run at the same time. An emitter waits until
it takes the lock, looks whether its name is kept, keeps its unit if it is not, and lets go of the lock
with the answer. Which emitter comes next is open at any time, so a run is any sequence of steps
(`Emission.Run`), and any order of the units is the order of some run.

What a run has done so far can be told from the emitters of one name at a time (`Served`): the first of
them succeeded and its source is kept, the others were refused. Each step preserves this
(`Sound.step`), hence each run does (`Run.sound`). Which source is kept may depend on the order; if no
two units share a name nothing does, once what is kept is sorted by name.
-/

namespace AssertionGen

open Java (SourceUnit)

namespace KeptUnits

variable {kept : KeptUnits} {u : SourceUnit}

/-- The answer to an emitter that has the lock, and what is kept when it lets go. A unit that is refused
changes nothing. -/
def emit (kept : KeptUnits) (u : SourceUnit) : Except DuplicateUnit Unit × KeptUnits :=
  match kept.keep u with
  | .error d => (.error d, kept)
  | .ok more => (.ok (), more)

theorem emit_of_notMem (h : u.qualifiedName ∉ Entries.keys kept) :
    kept.emit u = (.ok (), Entries.insert kept u.qualifiedName u.source) := by
  rw [emit, keep_of_notMem h]

theorem emit_of_mem (h : u.qualifiedName ∈ Entries.keys kept) :
    kept.emit u = (.error ⟨u.qualifiedName⟩, kept) := by
  rw [emit, keep_of_mem h]

example : emit [("a.AutoUser", "first")] ⟨"a", "AutoUser", "second"⟩ =
    (.error ⟨"a.AutoUser"⟩, [("a.AutoUser", "first")]) := rfl

theorem nodup_keys_emit (h : (Entries.keys kept).Nodup) (u : SourceUnit) :
    (Entries.keys (kept.emit u).2).Nodup := by
  by_cases hmem : u.qualifiedName ∈ Entries.keys kept
  · rw [emit_of_mem hmem]
    exact h
  · rw [emit_of_notMem hmem]
    exact Entries.nodup_keys_insert h _ _

theorem get?_emit_of_ne {name : String} (hname : u.qualifiedName ≠ name) :
    Entries.get? (kept.emit u).2 name = Entries.get? kept name := by
  by_cases hmem : u.qualifiedName ∈ Entries.keys kept
  · rw [emit_of_mem hmem]
  · rw [emit_of_notMem hmem, Entries.get?_insert, if_neg hname]

/-- What is kept of a unit. -/
def entry (u : SourceUnit) : String × String := (u.qualifiedName, u.source)

/-- Sorted by names that are all different, what is kept does not show the order it came in. -/
theorem sorted_eq_of_perm {more : KeptUnits} (hperm : kept.Perm more)
    (hdistinct : (Entries.keys more).Nodup) : kept.sorted = more.sorted := by
  have hsame : kept.sorted.Perm more.sorted :=
    (List.mergeSort_perm _ _).trans (hperm.trans (List.mergeSort_perm _ _).symm)
  have hdistinct' : (Entries.keys kept).Nodup := (hperm.map Prod.fst).nodup_iff.mpr hdistinct
  exact hsame.eq_of_pairwise (fun a b _ _ hab hba => absurd hba (String.lt_asymm hab))
    (pairwise_lt_mergeSort Prod.fst hdistinct') (pairwise_lt_mergeSort Prod.fst hdistinct)

end KeptUnits

/-! ## Runs -/

/-- Emitters that share what is kept, in the middle of a run. -/
structure Emission where
  /-- The units of the emitters that have not come to the lock yet. -/
  waiting : List SourceUnit
  /-- The units in the order in which their emitters took the lock. -/
  taken : List SourceUnit
  /-- The unit of the emitter that has the lock. -/
  holder : Option SourceUnit
  /-- What emitters were told, in the order in which they let go of the lock. -/
  answered : List (SourceUnit × Except DuplicateUnit Unit)
  kept : KeptUnits

namespace Emission

/-- Nobody has come to the lock, and nothing is kept. -/
def start (us : List SourceUnit) : Emission := ⟨us, [], none, [], []⟩

/-- One emitter makes a step. -/
inductive Step : Emission → Emission → Prop where
  /-- Any emitter that waits may take the lock if nobody has it. -/
  | take (before after : List SourceUnit) (u : SourceUnit) (taken : List SourceUnit)
      (answered : List (SourceUnit × Except DuplicateUnit Unit)) (kept : KeptUnits) :
      Step ⟨before ++ u :: after, taken, none, answered, kept⟩
        ⟨before ++ after, taken ++ [u], some u, answered, kept⟩
  /-- The emitter that has the lock lets go of it with its answer. Nobody else sees what is kept before
  that. -/
  | release (waiting taken : List SourceUnit) (u : SourceUnit)
      (answered : List (SourceUnit × Except DuplicateUnit Unit)) (kept : KeptUnits) :
      Step ⟨waiting, taken, some u, answered, kept⟩
        ⟨waiting, taken, none, answered ++ [(u, (kept.emit u).1)], (kept.emit u).2⟩

/-- What the emitters of these units can come to. -/
def Run (us : List SourceUnit) : Emission → Prop := Relation.ReflTransGen Step (start us)

/-- All emitters are answered. -/
def Finished (e : Emission) : Prop := e.waiting = [] ∧ e.holder = none

/-- What the emitters of units of one name were told. -/
def told (e : Emission) (name : String) : List (SourceUnit × Except DuplicateUnit Unit) :=
  e.answered.filter fun a => decide (a.1.qualifiedName = name)

/-! ## What a step preserves -/

/-- The emitters of a name are told that the first of them succeeded, whose source is then kept, and that
the others come too late. -/
inductive Served (name : String) :
    List (SourceUnit × Except DuplicateUnit Unit) → Option String → Prop where
  | nobody : Served name [] none
  | somebody (u : SourceUnit) (late : List (SourceUnit × Except DuplicateUnit Unit))
      (refused : ∀ a ∈ late, a.2 = .error ⟨name⟩) :
      Served name ((u, .ok ()) :: late) (some u.source)

/-- Where a run can be: nobody is lost, answers come in the order of the lock, and all names are
served. -/
structure Sound (us : List SourceUnit) (e : Emission) : Prop where
  units : (e.taken ++ e.waiting).Perm us
  inOrder : e.taken = e.answered.map Prod.fst ++ e.holder.toList
  distinct : (Entries.keys e.kept).Nodup
  served : ∀ name, Served name (e.told name) (Entries.get? e.kept name)

variable {us : List SourceUnit} {e f : Emission}

/-- One more emitter is told what it gets from what is kept. -/
theorem Served.emit {name : String} {u : SourceUnit} {kept : KeptUnits}
    {told : List (SourceUnit × Except DuplicateUnit Unit)} (hname : u.qualifiedName = name)
    (h : Served name told (Entries.get? kept name)) :
    Served name (told ++ [(u, (kept.emit u).1)]) (Entries.get? (kept.emit u).2 name) := by
  subst hname
  by_cases hmem : u.qualifiedName ∈ Entries.keys kept
  · rw [KeptUnits.emit_of_mem hmem]
    generalize hget : Entries.get? kept u.qualifiedName = source at h
    cases h with
    | nobody => exact absurd hmem (Entries.get?_eq_none_iff.mp hget)
    | somebody first late refused =>
        refine .somebody first _ fun a ha => ?_
        rcases List.mem_append.mp ha with ha | ha
        · exact refused a ha
        · rw [List.mem_singleton.mp ha]
  · have hnone := Entries.get?_eq_none_iff.mpr hmem
    rw [hnone] at h
    rw [KeptUnits.emit_of_notMem hmem, Entries.get?_insert, if_pos rfl]
    cases h
    exact .somebody u [] fun a ha => absurd ha List.not_mem_nil

/-- Whoever is answered changes what the emitters of its own name are told, and nothing for others. -/
theorem Served.release {answered : List (SourceUnit × Except DuplicateUnit Unit)} {kept : KeptUnits}
    {name : String} (u : SourceUnit)
    (h : Served name (answered.filter fun a => decide (a.1.qualifiedName = name))
      (Entries.get? kept name)) :
    Served name
      ((answered ++ [(u, (kept.emit u).1)]).filter fun a => decide (a.1.qualifiedName = name))
      (Entries.get? (kept.emit u).2 name) := by
  rw [List.filter_append]
  by_cases hname : u.qualifiedName = name
  · rw [List.filter_cons_of_pos (by simpa using hname), List.filter_nil]
    exact h.emit hname
  · rw [List.filter_cons_of_neg (by simpa using hname), List.filter_nil, List.append_nil,
      KeptUnits.get?_emit_of_ne hname]
    exact h

theorem Sound.start (us : List SourceUnit) : Sound us (start us) where
  units := .refl us
  inOrder := rfl
  distinct := List.nodup_nil
  served _ := .nobody

theorem Sound.step (h : Sound us e) (hstep : Step e f) : Sound us f := by
  obtain ⟨hunits, hinOrder, hdistinct, hserved⟩ := h
  cases hstep with
  | take before after u taken answered kept =>
      refine ⟨?_, ?_, hdistinct, hserved⟩
      · show (taken ++ [u] ++ (before ++ after)).Perm us
        rw [List.append_assoc, List.singleton_append]
        exact (List.Perm.append_left taken List.perm_middle.symm).trans hunits
      · show taken ++ [u] = answered.map Prod.fst ++ [u]
        rw [show taken = answered.map Prod.fst ++ [] from hinOrder, List.append_nil]
  | release waiting taken u answered kept =>
      refine ⟨hunits, ?_, KeptUnits.nodup_keys_emit hdistinct u, fun name => (hserved name).release u⟩
      show taken = (answered ++ [(u, (kept.emit u).1)]).map Prod.fst ++ []
      rw [List.map_append, List.append_nil]
      exact hinOrder

theorem Run.sound (h : Run us e) : Sound us e := by
  induction h with
  | refl => exact Sound.start us
  | tail _ hstep ih => exact ih.step hstep

/-! ## What a run comes to -/

/-- Exactly the names of answered emitters are kept. -/
theorem Sound.mem_keys_iff (h : Sound us e) (name : String) :
    name ∈ Entries.keys e.kept ↔ name ∈ e.answered.map fun a => a.1.qualifiedName := by
  have hkept : name ∈ Entries.keys e.kept ↔ Entries.get? e.kept name ≠ none := by
    rw [ne_eq, Entries.get?_eq_none_iff, Decidable.not_not]
  have htold : (name ∈ e.answered.map fun a => a.1.qualifiedName) ↔ e.told name ≠ [] := by
    rw [told, ne_eq, List.filter_eq_nil_iff]
    simp
  rw [hkept, htold]
  have hserved := h.served name
  generalize e.told name = told, Entries.get? e.kept name = source at hserved
  cases hserved with
  | nobody => exact iff_of_false (fun h => h rfl) fun h => h rfl
  | somebody u late refused => exact iff_of_true (Option.some_ne_none _) (List.cons_ne_nil _ _)

/-- Without two units of one name nobody is refused, and what is kept is what was answered. -/
theorem Run.answered_of_distinct (hdistinct : (us.map SourceUnit.qualifiedName).Nodup)
    (h : Run us e) :
    (∀ a ∈ e.answered, a.2 = .ok ()) ∧ e.kept = (e.answered.map Prod.fst).map KeptUnits.entry := by
  induction h with
  | refl => exact ⟨fun a ha => absurd ha List.not_mem_nil, rfl⟩
  | tail hrun hstep ih =>
      have hsound : Sound us _ := Run.sound hrun
      cases hstep with
      | take before after u taken answered kept => exact ih
      | release waiting taken u answered kept =>
          obtain ⟨hanswers, hkept⟩ := ih
          have hnew : u.qualifiedName ∉ Entries.keys kept := by
            rw [hsound.mem_keys_iff]
            have hnames := (hsound.units.map SourceUnit.qualifiedName).nodup_iff.mpr hdistinct
            rw [hsound.inOrder, List.map_append, List.map_append, List.map_map] at hnames
            have hdisjoint := (List.nodup_append.mp (List.nodup_append.mp hnames).1).2.2
            exact fun hmem => hdisjoint _ hmem u.qualifiedName List.mem_cons_self rfl
          rw [KeptUnits.emit_of_notMem hnew, Entries.insert_of_notMem hnew]
          refine ⟨fun a ha => ?_, ?_⟩
          · rcases List.mem_append.mp ha with ha | ha
            · exact hanswers a ha
            · rw [List.mem_singleton.mp ha]
          · rw [List.map_append, List.map_append]
            exact congrArg (· ++ [KeptUnits.entry u]) hkept

/-- The emitters that wait can come to the lock in any order. -/
theorem exists_finished (order : List SourceUnit) :
    ∀ (e : Emission), e.holder = none → order.Perm e.waiting →
      ∃ f, Relation.ReflTransGen Step e f ∧ f.Finished ∧ f.taken = e.taken ++ order := by
  induction order with
  | nil =>
      intro e hholder hperm
      exact ⟨e, .refl, ⟨hperm.nil_eq.symm, hholder⟩, (List.append_nil _).symm⟩
  | cons u order ih =>
      rintro ⟨waiting, taken, _, answered, kept⟩ rfl hperm
      obtain ⟨before, after, rfl⟩ := List.append_of_mem (hperm.subset List.mem_cons_self)
      have hrest : order.Perm (before ++ after) := (hperm.trans List.perm_middle).cons_inv
      obtain ⟨f, hrun, hfinished, htaken⟩ := ih ⟨before ++ after, taken ++ [u], none,
        answered ++ [(u, (kept.emit u).1)], (kept.emit u).2⟩ rfl hrest
      refine ⟨f, ?_, hfinished, ?_⟩
      · exact (Relation.ReflTransGen.single (.take ..)).trans
          ((Relation.ReflTransGen.single (.release ..)).trans hrun)
      · rw [htaken, List.append_assoc, List.singleton_append]

/-- What the emitter that has the lock does when it lets go of it. -/
theorem Run.release (h : Run us e) {u : SourceUnit} (hholder : e.holder = some u) (hstep : Step e f) :
    (u.qualifiedName ∉ (e.answered.map fun a => a.1.qualifiedName) →
        f.answered = e.answered ++ [(u, .ok ())] ∧ f.kept = e.kept ++ [KeptUnits.entry u]) ∧
      (u.qualifiedName ∈ (e.answered.map fun a => a.1.qualifiedName) →
        f.answered = e.answered ++ [(u, .error ⟨u.qualifiedName⟩)] ∧ f.kept = e.kept) := by
  have hkeys := h.sound.mem_keys_iff u.qualifiedName
  cases hstep with
  | take before after w taken answered kept => cases hholder
  | release waiting taken w answered kept =>
      cases hholder
      rw [← hkeys]
      refine ⟨fun hnew => ?_, fun hmem => ?_⟩
      · rw [KeptUnits.emit_of_notMem hnew, Entries.insert_of_notMem hnew]
        exact ⟨rfl, rfl⟩
      · rw [KeptUnits.emit_of_mem hmem]
        exact ⟨rfl, rfl⟩

/-- When all are answered, the answers are in the order of the lock, and nobody is missing. -/
theorem Run.order_of_finished (h : Run us e) (hfinished : e.Finished) :
    e.answered.map Prod.fst = e.taken ∧ e.taken.Perm us := by
  obtain ⟨hwaiting, hholder⟩ := hfinished
  have hunits := h.sound.units
  have hinOrder := h.sound.inOrder
  rw [hwaiting, List.append_nil] at hunits
  rw [hholder, Option.toList_none, List.append_nil] at hinOrder
  exact ⟨hinOrder.symm, hunits⟩

/-- The names of those who were answered in the end are the names there were. -/
theorem Run.mem_names_iff (h : Run us e) (hfinished : e.Finished) (name : String) :
    (name ∈ e.answered.map fun a => a.1.qualifiedName) ↔ name ∈ us.map SourceUnit.qualifiedName := by
  obtain ⟨hanswered, hperm⟩ := h.order_of_finished hfinished
  rw [← (hperm.map SourceUnit.qualifiedName).mem_iff, ← hanswered, List.map_map]
  rfl

/-- **Each name is kept once, in whatever order.** Emitters of any units can come to the lock in any
order, and all are answered in that order. Whoever is the first of its name succeeds and adds its source;
everyone else of that name is refused as a duplicate of it and changes nothing. In the end each name is
kept once, with the source of its first emitter. Without two units of one name everyone succeeds, and
what is kept, sorted by name, is the same for all orders. -/
theorem once_per_name (us : List SourceUnit) :
    (∀ order, (∃ e, Run us e ∧ e.Finished ∧ e.taken = order) ↔ order.Perm us) ∧
      (∀ e f u, Run us e → e.holder = some u → Step e f →
        (u.qualifiedName ∉ (e.answered.map fun a => a.1.qualifiedName) →
            f.answered = e.answered ++ [(u, .ok ())] ∧ f.kept = e.kept ++ [KeptUnits.entry u]) ∧
          (u.qualifiedName ∈ (e.answered.map fun a => a.1.qualifiedName) →
            f.answered = e.answered ++ [(u, .error ⟨u.qualifiedName⟩)] ∧ f.kept = e.kept)) ∧
      (∀ e, Run us e → e.Finished →
        e.answered.map Prod.fst = e.taken ∧
          (∀ name ∈ us.map SourceUnit.qualifiedName, ∃ u late,
            e.told name = (u, .ok ()) :: late ∧ (∀ a ∈ late, a.2 = .error ⟨name⟩) ∧
              Entries.get? e.kept name = some u.source) ∧
          (Entries.keys e.kept).Nodup ∧
          ∀ name, name ∈ Entries.keys e.kept ↔ name ∈ us.map SourceUnit.qualifiedName) ∧
      ((us.map SourceUnit.qualifiedName).Nodup →
        ∃ out, out.Perm (us.map KeptUnits.entry) ∧ (out.Pairwise fun a b => a.1 < b.1) ∧
          ∀ e, Run us e → e.Finished → (∀ a ∈ e.answered, a.2 = .ok ()) ∧ e.kept.sorted = out) := by
  refine ⟨fun order => ⟨?_, fun hperm => ?_⟩, fun e f u hrun => hrun.release, fun e hrun hfinished => ?_,
    fun hdistinct => ?_⟩
  · rintro ⟨e, hrun, hfinished, rfl⟩
    exact (hrun.order_of_finished hfinished).2
  · exact exists_finished order (start us) rfl hperm
  · have hkeys : ∀ name, name ∈ Entries.keys e.kept ↔ name ∈ us.map SourceUnit.qualifiedName :=
      fun name => (hrun.sound.mem_keys_iff name).trans (hrun.mem_names_iff hfinished name)
    refine ⟨(hrun.order_of_finished hfinished).1, fun name hname => ?_, hrun.sound.distinct, hkeys⟩
    have hserved := hrun.sound.served name
    generalize e.told name = told, hsource : Entries.get? e.kept name = source at hserved
    cases hserved with
    | nobody => exact absurd ((hkeys name).mpr hname) (Entries.get?_eq_none_iff.mp hsource)
    | somebody u late refused => exact ⟨u, late, rfl, refused, rfl⟩
  · have hkeys : (Entries.keys (us.map KeptUnits.entry)).Nodup := by
      rw [Entries.keys, List.map_map]
      exact hdistinct
    refine ⟨KeptUnits.sorted (us.map KeptUnits.entry), List.mergeSort_perm _ _,
      pairwise_lt_mergeSort Prod.fst hkeys, fun e hrun hfinished => ?_⟩
    obtain ⟨hanswers, hkept⟩ := hrun.answered_of_distinct hdistinct
    obtain ⟨hanswered, hperm⟩ := hrun.order_of_finished hfinished
    refine ⟨hanswers, KeptUnits.sorted_eq_of_perm ?_ hkeys⟩
    rw [hkept, hanswered]
    exact hperm.map KeptUnits.entry

end Emission

end AssertionGen
