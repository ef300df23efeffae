import AssertionGen.Proofs.Linkage
import Mathlib.Data.Finset.Card
/-!
# The rounds of settling

A batch is settled by a loop. Each round generates all value types against the table, and stops if no
failed one is listed; otherwise the names of the failed ones that are listed are taken off, one after
the other, and the next round begins. `LinkTable.Settles` is this loop as a relation between a table
and the tables of the rounds that begin with it.

What one round does is said by `takeOff_unlinked`: it takes off the failed types, and there is another
round exactly if the table has become shorter. By induction on the rounds follow the bound on their
number, the descent of their tables, and what holds on exit. `settling_terminates` puts these
together for the table of a whole batch.
-/

namespace AssertionGen

variable {settings : Settings} {batch : List ValueType} {t : LinkTable} {ts : List LinkTable}

namespace LinkTable

/-! ## The loop -/

/-- The names that a round takes off: those of failed types, as far as they are listed. -/
def unlinked (settings : Settings) (batch : List ValueType) (t : LinkTable) : List String :=
  (failedNames (generateAll settings t batch)).filter fun name => (Entries.get? t name).isSome

/-- The table after some names have been taken off, one after the other. -/
def takeOff (t : LinkTable) (names : List String) : LinkTable :=
  names.foldl (fun t name => Entries.without t [name]) t

/-- The rounds that begin with a table, each with the table against which it generates. -/
inductive Settles (settings : Settings) (batch : List ValueType) : LinkTable → List LinkTable → Prop
  | last {t : LinkTable} (h : t.unlinked settings batch = []) : Settles settings batch t [t]
  | another {t : LinkTable} {ts : List LinkTable} (h : t.unlinked settings batch ≠ [])
      (rest : Settles settings batch (t.takeOff (t.unlinked settings batch)) ts) :
      Settles settings batch t (t :: ts)

/-! ## One round -/

theorem mem_unlinked_iff {name : String} :
    name ∈ t.unlinked settings batch ↔ name ∈ Entries.keys t ∧ t.Refuses settings batch name := by
  have hlisted : (Entries.get? t name).isSome = true ↔ name ∈ Entries.keys t := by
    rw [Option.isSome_iff_ne_none, Ne, Entries.get?_eq_none_iff, not_not]
  rw [unlinked, List.mem_filter, hlisted, and_comm]
  rfl

/-- Nothing is taken off exactly if no listed type fails. -/
theorem unlinked_eq_nil_iff :
    t.unlinked settings batch = [] ↔ ∀ name ∈ Entries.keys t, ¬ t.Refuses settings batch name := by
  simp only [List.eq_nil_iff_forall_not_mem, mem_unlinked_iff, not_and]

/-- The order in which names are taken off does not count. -/
theorem takeOff_eq_without (t : LinkTable) (names : List String) :
    t.takeOff names = Entries.without t names := by
  induction names generalizing t with
  | nil => simp [takeOff, Entries.without]
  | cons name names ih =>
      have hstep : t.takeOff (name :: names) = takeOff (Entries.without t [name]) names := rfl
      rw [hstep, ih, Entries.without, Entries.without, List.filter_filter, Entries.without]
      exact List.filter_congr fun entry _ => by simp [Bool.and_comm]

/-- A round takes off all types that fail; that some of them are not listed makes no difference. -/
theorem takeOff_unlinked (t : LinkTable) :
    t.takeOff (t.unlinked settings batch) = t.shrink settings batch := by
  rw [takeOff_eq_without]
  refine List.filter_congr fun entry hentry => ?_
  have hlisted : entry.1 ∈ Entries.keys t := List.mem_map_of_mem hentry
  have hsame : entry.1 ∈ t.unlinked settings batch ↔ t.Refuses settings batch entry.1 := by
    rw [mem_unlinked_iff]
    exact and_iff_right hlisted
  exact decide_eq_decide.mpr (not_congr hsame)

theorem length_shrink_lt_iff_unlinked :
    (t.shrink settings batch).length < t.length ↔ t.unlinked settings batch ≠ [] := by
  rw [length_shrink_lt_iff, Ne, unlinked_eq_nil_iff]
  push Not
  rfl

/-! ## All rounds -/

/-- The loop does come to an end, with these rounds. -/
theorem settles_rounds (settings : Settings) (batch : List ValueType) (t : LinkTable) :
    t.Settles settings batch (t.rounds settings batch) := by
  fun_induction rounds settings batch t with
  | case1 t hshrinks ih =>
      refine .another (length_shrink_lt_iff_unlinked.mp hshrinks) ?_
      rw [takeOff_unlinked]
      exact ih
  | case2 t hsettled =>
      exact .last (not_not.mp fun hne => hsettled (length_shrink_lt_iff_unlinked.mpr hne))

namespace Settles

/-- The rounds are determined by the table they begin with. -/
theorem eq_rounds (h : t.Settles settings batch ts) : ts = t.rounds settings batch := by
  induction h with
  | last hnil =>
      rw [rounds, if_neg fun hlt => length_shrink_lt_iff_unlinked.mp hlt hnil]
  | another hne rest ih =>
      rw [takeOff_unlinked] at ih
      rw [rounds, if_pos (length_shrink_lt_iff_unlinked.mpr hne), ih]

theorem exists_eq_cons (h : t.Settles settings batch ts) : ∃ later, ts = t :: later := by
  cases h with
  | last hnil => exact ⟨_, rfl⟩
  | another hne rest => exact ⟨_, rfl⟩

/-- In every round but the last the table loses entries and gets none. -/
theorem isChain (h : t.Settles settings batch ts) :
    ts.IsChain fun earlier later => later.Sublist earlier ∧ later.length < earlier.length := by
  induction h with
  | last hnil => exact .singleton _
  | another hne rest ih =>
      obtain ⟨later, rfl⟩ := rest.exists_eq_cons
      refine .cons_cons ?_ ih
      rw [takeOff_unlinked]
      exact ⟨List.filter_sublist, length_shrink_lt_iff_unlinked.mpr hne⟩

/-- There are at most as many further rounds as the table has entries. -/
theorem length_le (h : t.Settles settings batch ts) : ts.length ≤ t.length + 1 := by
  induction h with
  | last hnil => simp
  | another hne rest ih =>
      rw [takeOff_unlinked] at ih
      have hlt := length_shrink_lt_iff_unlinked.mpr hne
      rw [List.length_cons]
      omega

/-- On exit nothing is left to take off. -/
theorem unlinked_eq_nil_of_getLast? (h : t.Settles settings batch ts) {u : LinkTable}
    (hu : ts.getLast? = some u) : u.unlinked settings batch = [] := by
  induction h with
  | last hnil =>
      rw [← Option.some.inj hu]
      exact hnil
  | another hne rest ih =>
      obtain ⟨later, rfl⟩ := rest.exists_eq_cons
      rw [List.getLast?_cons_cons] at hu
      exact ih hu

end Settles

/-! ## The table of a whole batch -/

theorem length_ofBatch_le (settings : Settings) (batch : List ValueType) :
    (ofBatch settings batch).length ≤
      ((batch.filter fun v => !v.isGeneric).map ValueType.qualifiedName).toFinset.card := by
  have hnodup : (Entries.keys (ofBatch settings batch)).Nodup := Entries.nodup_keys_ofList _
  have hnames : (Entries.keys (ofBatch settings batch)).toFinset ⊆
      ((batch.filter fun v => !v.isGeneric).map ValueType.qualifiedName).toFinset := by
    intro name hname
    have hlisted : Entries.get? (ofBatch settings batch) name ≠ none :=
      fun hnone => Entries.get?_eq_none_iff.mp hnone (List.mem_toFinset.mp hname)
    obtain ⟨l, hl⟩ := Option.ne_none_iff_exists'.mp hlisted
    obtain ⟨v, hv, hplain, rfl, -⟩ := exists_of_get?_ofBatch hl
    have hkept : v ∈ batch.filter fun v => !v.isGeneric :=
      List.mem_filter.mpr ⟨hv, by simp [ValueType.isGeneric, hplain]⟩
    exact List.mem_toFinset.mpr (List.mem_map_of_mem hkept)
  calc (ofBatch settings batch).length
      = (Entries.keys (ofBatch settings batch)).length := (List.length_map _).symm
    _ = (Entries.keys (ofBatch settings batch)).toFinset.card :=
        (List.toFinset_card_of_nodup hnodup).symm
    _ ≤ _ := Finset.card_le_card hnames

end LinkTable

/-- **Settling terminates.** From the table of a whole batch the loop has exactly one course, whose
tables are those of `rounds`. It takes at most one round more than there are distinct names of value
types without declared type parameters. Every round but the last takes at least one entry off the
table and none puts one on, and on exit, with the settled table, the name of no failed value type is
listed. -/
theorem settling_terminates (settings : Settings) (batch : List ValueType) :
    ∃ ts : List LinkTable,
      (∀ us, (LinkTable.ofBatch settings batch).Settles settings batch us ↔ us = ts) ∧
      ts = (LinkTable.ofBatch settings batch).rounds settings batch ∧
      ts.length ≤
        ((batch.filter fun v => !v.isGeneric).map ValueType.qualifiedName).toFinset.card + 1 ∧
      (ts.IsChain fun earlier later => later.Sublist earlier ∧ later.length < earlier.length) ∧
      ts.getLast? = some (settledTable settings batch) ∧
      ∀ v ∈ batch, ∀ e, generate settings (settledTable settings batch) v = .error e →
        Entries.get? (settledTable settings batch) v.qualifiedName = none := by
  have hsettles := LinkTable.settles_rounds settings batch (LinkTable.ofBatch settings batch)
  have hlast : ((LinkTable.ofBatch settings batch).rounds settings batch).getLast? =
      some (settledTable settings batch) := List.getLast?_eq_some_getLast _
  refine ⟨_, fun us => ⟨fun hus => hus.eq_rounds, ?_⟩, rfl, ?_, hsettles.isChain, hlast, ?_⟩
  · rintro rfl
    exact hsettles
  · have hrounds := hsettles.length_le
    have hlisted := LinkTable.length_ofBatch_le settings batch
    omega
  · intro v hv e he
    have hexit := LinkTable.unlinked_eq_nil_iff.mp (hsettles.unlinked_eq_nil_of_getLast? hlast)
    have hrefuses : (settledTable settings batch).Refuses settings batch v.qualifiedName :=
      LinkTable.refuses_iff.mpr ⟨v, hv, rfl, by simp [he]⟩
    exact Entries.get?_eq_none_iff.mpr fun hlisted => hexit _ hlisted hrefuses

end AssertionGen
