import AssertionGen.Proofs.Chains
import Mathlib.Data.List.Basic
import Mathlib.Data.List.Induction
/-!
# Which type variables a type mentions

A type variable occurs in a type if it is that type or occurs in one of its components
(`JavaType.Occurs`). The listing of variable names has exactly the variables that occur
(`mem_variableNames_iff`), each once, and in the order in which they come first
(`pairwise_idxOf_firstSeen`). Supertypes are no components: what stands in them alone does not occur.

Components and supertypes are smaller than the type that they belong to, and what holds of a type if
it holds of these holds of every type (`parts_induction`).
-/

namespace AssertionGen

/-! ## First-seen order -/

section FirstSeen

variable {α : Type} [DecidableEq α]

theorem firstSeen_concat (xs : List α) (x : α) :
    firstSeen (xs ++ [x]) = if x ∈ xs then firstSeen xs else firstSeen xs ++ [x] := by
  rw [firstSeen, firstSeenAfter_append]
  show firstSeenAfter (firstSeen xs) [x] = _
  simp only [firstSeenAfter, mem_firstSeen]

/-- Of two entries, the one that comes first is listed first. -/
theorem pairwise_idxOf_firstSeen (xs : List α) :
    (firstSeen xs).Pairwise fun a b => xs.idxOf a < xs.idxOf b := by
  -- induction from the end, where the only entry that can be new is the last one
  induction xs using List.reverseRecOn with
  | nil => exact List.Pairwise.nil
  | append_singleton xs x ih =>
      have hkept : (firstSeen xs).Pairwise fun a b =>
          (xs ++ [x]).idxOf a < (xs ++ [x]).idxOf b := by
        refine ih.imp_of_mem ?_
        intro a b ha hb hab
        rw [List.idxOf_append_of_mem (mem_firstSeen.mp ha),
          List.idxOf_append_of_mem (mem_firstSeen.mp hb)]
        exact hab
      rw [firstSeen_concat]
      split
      · exact hkept
      · next hx =>
        refine List.pairwise_append.mpr ⟨hkept, List.pairwise_singleton _ _, ?_⟩
        intro a ha b hb
        rw [List.mem_singleton.mp hb, List.idxOf_append_of_mem (mem_firstSeen.mp ha),
          List.idxOf_append_of_notMem hx]
        have hlt : xs.idxOf a < xs.length := List.idxOf_lt_length_of_mem (mem_firstSeen.mp ha)
        omega

end FirstSeen

namespace JavaType

variable {t u : JavaType} {n : String}

/-! ## Parts -/

theorem sizeOf_component_lt (h : u ∈ t.components) : sizeOf u < sizeOf t := by
  -- a missing component is none; a component that is there is one level below
  have hoption : ∀ {e : Option JavaType}, u ∈ e.toList → sizeOf u < sizeOf e := by
    intro e hu
    rw [Option.mem_toList] at hu
    rw [hu, Option.some.sizeOf_spec]
    omega
  cases t with
  | array e =>
      rw [List.mem_singleton.mp h, array.sizeOf_spec]
      omega
  | collection k e | optional k e | stream k e | classRef e | wildcard e =>
      have hlt := hoption h
      simp only [collection.sizeOf_spec, optional.sizeOf_spec, stream.sizeOf_spec,
        classRef.sizeOf_spec, wildcard.sizeOf_spec]
      omega
  | map k a b =>
      rw [map.sizeOf_spec]
      rcases List.mem_append.mp h with h | h
      · have hlt := hoption h
        omega
      · have hlt := hoption h
        omega
  | container k as =>
      have hlt : sizeOf u < sizeOf as := List.sizeOf_lt_of_mem h
      rw [container.sizeOf_spec]
      omega
  | declared p m as ss =>
      have hlt : sizeOf u < sizeOf as := List.sizeOf_lt_of_mem h
      rw [declared.sizeOf_spec]
      omega
  | primitive k | boxed k | path | typeVariable m | verbatim m => cases h

/-- What holds of a type if it holds of its components and its direct supertypes holds of every
type. -/
@[elab_as_elim]
theorem parts_induction {motive : JavaType → Prop}
    (step : ∀ t, (∀ u ∈ t.components, motive u) → (∀ u ∈ t.supertypes, motive u) → motive t)
    (t : JavaType) : motive t :=
  step t (fun u _ => parts_induction step u) fun u _ => parts_induction step u
termination_by sizeOf t
decreasing_by
  · exact sizeOf_component_lt ‹_›
  · exact sizeOf_supertype_lt ‹_›

/-! ## Occurrences -/

/-- The type variable is the type itself, or occurs in one of its components. -/
inductive Occurs (n : String) : JavaType → Prop where
  | here : Occurs n (.typeVariable n)
  | inside {t u : JavaType} (hu : u ∈ t.components) (h : Occurs n u) : Occurs n t

theorem occurs_typeVariable_iff {m : String} : Occurs n (.typeVariable m) ↔ n = m := by
  constructor
  · intro h
    cases h with
    | here => rfl
    | inside hu h => cases hu
  · rintro rfl
    exact .here

/-- In every type that is no variable itself, what occurs occurs in a component. -/
theorem occurs_iff_of_ne (ht : ∀ m, t ≠ .typeVariable m) :
    Occurs n t ↔ ∃ u ∈ t.components, Occurs n u := by
  constructor
  · intro h
    cases h with
    | here => exact absurd rfl (ht n)
    | inside hu h => exact ⟨_, hu, h⟩
  · rintro ⟨u, hu, h⟩
    exact .inside hu h

theorem occurrencesList_eq (ts : List JavaType) : occurrencesList ts = ts.flatMap occurrences := by
  induction ts with
  | nil => rfl
  | cons t ts ih => rw [occurrencesList, List.flatMap_cons, ih]

theorem occurrencesOption_eq (e : Option JavaType) :
    occurrencesOption e = e.toList.flatMap occurrences := by
  cases e <;> simp [occurrencesOption]

/-- In every type that is no variable itself, the occurrences are those in its components, in order. -/
theorem occurrences_of_ne (ht : ∀ m, t ≠ .typeVariable m) :
    t.occurrences = t.components.flatMap occurrences := by
  cases t with
  | typeVariable m => exact absurd rfl (ht m)
  | array e => simp only [occurrences, components, List.flatMap_singleton]
  | collection k e | optional k e | stream k e | classRef e | wildcard e =>
      simp only [occurrences, components, occurrencesOption_eq]
  | map k a b => simp only [occurrences, components, occurrencesOption_eq, List.flatMap_append]
  | container k as | declared p m as ss => simp only [occurrences, components, occurrencesList_eq]
  | primitive k | boxed k | path | verbatim m => simp [occurrences, components]

theorem mem_occurrences_iff : n ∈ t.occurrences ↔ Occurs n t := by
  induction t using parts_induction with
  | step t hcomponents hsupertypes =>
      by_cases ht : ∃ m, t = .typeVariable m
      · obtain ⟨m, rfl⟩ := ht
        rw [occurs_typeVariable_iff, occurrences, List.mem_singleton]
      · have hne : ∀ m, t ≠ .typeVariable m := fun m h => ht ⟨m, h⟩
        rw [occurrences_of_ne hne, List.mem_flatMap, occurs_iff_of_ne hne]
        exact exists_congr fun u => and_congr_right fun hu => hcomponents u hu

theorem mem_variableNames_iff : n ∈ t.variableNames ↔ Occurs n t := by
  rw [mem_variableNames, mem_occurrences_iff]

theorem mentionsVariable_iff : t.mentionsVariable = true ↔ ∃ n, Occurs n t := by
  rw [mentionsVariable, Bool.not_eq_true', List.isEmpty_eq_false_iff_exists_mem]
  exact exists_congr fun n => mem_variableNames_iff

/-- What stands in a supertype alone does not occur. -/
example : variableNames (.declared "com.example" "Names" [.wildcard (some (.typeVariable "U"))]
    [.collection .list (some (.typeVariable "T"))]) = ["U"] := by
  decide +kernel

end JavaType

end AssertionGen
