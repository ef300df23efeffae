import AssertionGen.Naming.ReservedWord
import AssertionGen.Naming.Unique
import Mathlib.Data.List.Nodup
/-!
# Names that methods may carry

Two facts decide whether the names of a subject are good: no two of its methods share one, and none
is a reserved word of the language.

`clash?` finds nothing exactly if the names are pairwise distinct (`clash?_eq_none_iff`), and what
it finds is the first repetition: `Clash.StandsAt` names the two positions, and nothing before the
later one is repeated. The check carries a table of the names it has seen; read as a list, that
table is the checked part of the input itself, and this is the invariant of both proofs. Where keys
are pairwise distinct, searching for one finds its own entry (`find?_eq_some_of_nodup_map`).

A reserved word is never the result of `escapeReserved`, and never begins with the verb of an
assertion (`assertionVerbs`).
-/

namespace AssertionGen

/-! ## The first repetition -/

/-- The clash is between the entries at `i` and `j`, and no name comes twice before `j`. -/
structure Clash.StandsAt (c : Clash) (names : List (String × String)) (i j : Nat) : Prop where
  before : i < j
  first : names[i]? = some (c.name, c.first)
  second : names[j]? = some (c.name, c.second)
  distinct : ((names.take j).map Prod.fst).Nodup

/-- A clash after the names in `seen` is the first repetition in the list as a whole. -/
theorem clashAfter?_eq_some {seen : Entries String String} {rest : List (String × String)} {c : Clash}
    (hseen : seen.keys.Nodup) (h : clashAfter? seen rest = some c) :
    ∃ i j, c.StandsAt (seen ++ rest) i j := by
  induction rest generalizing seen with
  | nil => cases h
  | cons e rest ih =>
      obtain ⟨name, owner⟩ := e
      rw [clashAfter?] at h
      cases hget : seen.get? name with
      | some first =>
          simp only [hget, Option.some.injEq] at h
          subst h
          obtain ⟨i, hi⟩ := List.mem_iff_getElem?.mp (Entries.mem_of_get? hget)
          have hlt : i < seen.length := (List.getElem?_eq_some_iff.mp hi).1
          refine ⟨i, seen.length, hlt, ?_, by simp, ?_⟩
          · rw [List.getElem?_append_left hlt]
            exact hi
          · rw [List.take_left]
            exact hseen
      | none =>
          simp only [hget] at h
          have hnew : name ∉ seen.keys := Entries.get?_eq_none_iff.mp hget
          obtain ⟨i, j, hij⟩ := ih (Entries.nodup_keys_insert hseen name owner) h
          -- the table after this step is the checked prefix, one entry longer
          rw [Entries.insert_of_notMem hnew, List.append_assoc] at hij
          exact ⟨i, j, hij⟩

theorem clashAfter?_eq_none_iff {seen : Entries String String} {rest : List (String × String)}
    (hseen : seen.keys.Nodup) :
    clashAfter? seen rest = none ↔ ((seen ++ rest).map Prod.fst).Nodup := by
  induction rest generalizing seen with
  | nil =>
      rw [List.append_nil]
      exact iff_of_true rfl hseen
  | cons e rest ih =>
      obtain ⟨name, owner⟩ := e
      rw [clashAfter?]
      cases hget : seen.get? name with
      | some first =>
          have hmem : name ∈ seen.map Prod.fst :=
            List.mem_map.mpr ⟨_, Entries.mem_of_get? hget, rfl⟩
          -- the name stands in the checked part and again at its end
          refine iff_of_false (by simp) fun hnd => ?_
          rw [List.map_append, List.nodup_append] at hnd
          exact hnd.2.2 name hmem name (by simp) rfl
      | none =>
          have hnew : name ∉ seen.keys := Entries.get?_eq_none_iff.mp hget
          have hstep := ih (Entries.nodup_keys_insert hseen name owner)
          rw [Entries.insert_of_notMem hnew, List.append_assoc] at hstep
          simpa [Entries.insert_of_notMem hnew] using hstep

theorem clash?_eq_some {names : List (String × String)} {c : Clash} (h : clash? names = some c) :
    ∃ i j, c.StandsAt names i j := by
  have hnil : (Entries.keys ([] : Entries String String)).Nodup := List.nodup_nil
  exact clashAfter?_eq_some hnil h

theorem clash?_eq_none_iff {names : List (String × String)} :
    clash? names = none ↔ (names.map Prod.fst).Nodup := by
  have hnil : (Entries.keys ([] : Entries String String)).Nodup := List.nodup_nil
  exact clashAfter?_eq_none_iff hnil

/-! ## Finding by a key -/

/-- Where keys are pairwise distinct, a search for an entry's key finds that entry. -/
theorem find?_eq_some_of_nodup_map {α β : Type} [DecidableEq β] {f : α → β} {xs : List α}
    (hdistinct : (xs.map f).Nodup) {x : α} (hx : x ∈ xs) :
    (xs.find? fun y => f y = f x) = some x := by
  cases hfind : xs.find? fun y => f y = f x with
  | none =>
      have hother : f x ≠ f x := by simpa using List.find?_eq_none.mp hfind x hx
      exact absurd rfl hother
  | some y =>
      have hy : y ∈ xs := List.mem_of_find?_eq_some hfind
      have hkey : f y = f x := by simpa using List.find?_some hfind
      rw [List.inj_on_of_nodup_map hdistinct hy hx hkey]

/-! ## Reserved words -/

theorem escapeReserved_notMem (name : String) : escapeReserved name ∉ reservedWords := by
  have hbar : ∀ w ∈ reservedWords, w.toList.getLast? ≠ some '_' := by decide +kernel
  rw [escapeReserved]
  split
  · intro hmem
    exact hbar _ hmem (by simp)
  · assumption

/-- The verbs that assertions begin with. -/
def assertionVerbs : List String := ["is", "isNot", "has", "doesNotHave"]

/-- What begins with a verb is not reserved, since no reserved word does. -/
theorem verb_append_notMem {verb : String} (hverb : verb ∈ assertionVerbs) (rest : String) :
    verb ++ rest ∉ reservedWords := by
  have hnone : ∀ verb ∈ assertionVerbs, ∀ w ∈ reservedWords, ¬ verb.toList <+: w.toList := by
    decide +kernel
  intro hmem
  refine hnone verb hverb _ hmem ?_
  rw [String.toList_append]
  exact List.prefix_append _ _

end AssertionGen
