/-!
# First-seen order

`firstSeen xs` keeps the first occurrence of every entry of `xs` and drops the later ones. It has
the members of `xs` (`mem_firstSeen`), each once (`nodup_firstSeen`), and a search finds in it what
it finds in `xs` (`findSome?_firstSeen`). It is the list without its later repeats
(`firstSeen_eq_eraseDups`).

Lists may be gone through one by one with repeats dropped within each and then across all: this is
first-seen order of the lists put together (`firstSeenAfter_firstSeen`).
-/

namespace AssertionGen

variable {α : Type} [DecidableEq α]

/-- The entries of `xs` that `seen` lacks are put behind it, in order and each once. -/
def firstSeenAfter (seen : List α) : List α → List α
  | [] => seen
  | x :: xs => firstSeenAfter (if x ∈ seen then seen else seen ++ [x]) xs

/-- The entries of a list in first-seen order, each once. -/
def firstSeen (xs : List α) : List α := firstSeenAfter [] xs

theorem mem_firstSeenAfter {seen xs : List α} {a : α} :
    a ∈ firstSeenAfter seen xs ↔ a ∈ seen ∨ a ∈ xs := by
  induction xs generalizing seen with
  | nil => simp [firstSeenAfter]
  | cons x xs ih =>
    by_cases h : x ∈ seen
    · have hx : a = x → a ∈ seen := fun e => e ▸ h
      simp only [firstSeenAfter, if_pos h, ih, List.mem_cons]
      exact ⟨Or.imp_right Or.inr, fun k => k.elim Or.inl fun k => k.elim (Or.inl ∘ hx) Or.inr⟩
    · simp [firstSeenAfter, if_neg h, ih, or_assoc]

@[simp] theorem mem_firstSeen {xs : List α} {a : α} : a ∈ firstSeen xs ↔ a ∈ xs := by
  simp [firstSeen, mem_firstSeenAfter]

theorem nodup_firstSeenAfter {seen : List α} (xs : List α) (h : seen.Nodup) :
    (firstSeenAfter seen xs).Nodup := by
  induction xs generalizing seen with
  | nil => exact h
  | cons x xs ih =>
    by_cases hx : x ∈ seen
    · simpa [firstSeenAfter, if_pos hx] using ih h
    · rw [firstSeenAfter, if_neg hx]
      refine ih (List.nodup_append.mpr ⟨h, by simp, ?_⟩)
      intro a ha b hb
      rw [List.mem_singleton.mp hb]
      exact fun e => hx (e ▸ ha)

theorem nodup_firstSeen (xs : List α) : (firstSeen xs).Nodup :=
  nodup_firstSeenAfter xs List.nodup_nil

theorem firstSeenAfter_append (seen xs ys : List α) :
    firstSeenAfter seen (xs ++ ys) = firstSeenAfter (firstSeenAfter seen xs) ys := by
  induction xs generalizing seen with
  | nil => rfl
  | cons x xs ih => exact ih _

/-- What has been seen altogether adds nothing. -/
theorem firstSeenAfter_of_forall_mem {seen xs : List α} (h : ∀ x ∈ xs, x ∈ seen) :
    firstSeenAfter seen xs = seen := by
  induction xs with
  | nil => rfl
  | cons x xs ih =>
    rw [firstSeenAfter, if_pos (h x List.mem_cons_self)]
    exact ih fun y hy => h y (List.mem_cons_of_mem _ hy)

/-- Repeats that a list has within itself add nothing. -/
theorem firstSeenAfter_firstSeen (seen xs : List α) :
    firstSeenAfter seen (firstSeen xs) = firstSeenAfter seen xs := by
  have hinside : ∀ more : List α,
      firstSeenAfter seen (firstSeenAfter more xs) = firstSeenAfter (firstSeenAfter seen more) xs := by
    induction xs with
    | nil => exact fun more => rfl
    | cons x xs ih =>
      intro more
      rw [firstSeenAfter, ih, firstSeenAfter]
      by_cases hx : x ∈ more
      · rw [if_pos hx, if_pos (mem_firstSeenAfter.mpr (Or.inr hx))]
      · rw [if_neg hx, firstSeenAfter_append]
        rfl
  exact hinside []

/-- What is left out of a list is left out of its first occurrences. -/
theorem filter_firstSeenAfter (p : α → Bool) (seen xs : List α) :
    (firstSeenAfter seen xs).filter p = firstSeenAfter (seen.filter p) (xs.filter p) := by
  induction xs generalizing seen with
  | nil => rfl
  | cons x xs ih =>
    rw [firstSeenAfter, ih]
    by_cases hp : p x = true
    · rw [List.filter_cons_of_pos hp, firstSeenAfter]
      by_cases hx : x ∈ seen
      · rw [if_pos hx, if_pos (List.mem_filter.mpr ⟨hx, hp⟩)]
      · rw [if_neg hx, if_neg fun h => hx (List.mem_filter.mp h).1, List.filter_append,
          List.filter_cons_of_pos hp, List.filter_nil]
    · rw [List.filter_cons_of_neg hp]
      by_cases hx : x ∈ seen
      · rw [if_pos hx]
      · rw [if_neg hx, List.filter_append, List.filter_cons_of_neg hp, List.filter_nil,
          List.append_nil]

theorem filter_firstSeen (p : α → Bool) (xs : List α) :
    (firstSeen xs).filter p = firstSeen (xs.filter p) := filter_firstSeenAfter p [] xs

theorem firstSeenAfter_eq_append (seen xs : List α) :
    firstSeenAfter seen xs = seen ++ (xs.filter (· ∉ seen)).eraseDups := by
  induction xs generalizing seen with
  | nil => simp [firstSeenAfter]
  | cons x xs ih =>
    rw [firstSeenAfter, ih]
    by_cases hx : x ∈ seen
    · rw [if_pos hx, List.filter_cons_of_neg (by simpa using hx)]
    · -- what is still new is neither in `seen` nor a repeat of `x`
      have hrest : xs.filter (· ∉ seen ++ [x]) = (xs.filter (· ∉ seen)).filter fun b => !b == x := by
        rw [List.filter_filter]
        refine List.filter_congr fun b _ => ?_
        by_cases hb : b = x <;> simp [hb]
      rw [if_neg hx, List.filter_cons_of_pos (by simpa using hx), List.eraseDups_cons, hrest,
        List.append_assoc, List.singleton_append]

/-- First-seen order is what is left when every later equal of an entry is erased. -/
theorem firstSeen_eq_eraseDups (xs : List α) : firstSeen xs = xs.eraseDups := by
  have hall : xs.filter (· ∉ ([] : List α)) = xs := List.filter_eq_self.mpr fun x _ => by simp
  rw [firstSeen, firstSeenAfter_eq_append, List.nil_append, hall]

theorem findSome?_firstSeenAfter {β : Type} (seen xs : List α) (f : α → Option β) :
    (firstSeenAfter seen xs).findSome? f = (seen.findSome? f).or (xs.findSome? f) := by
  induction xs generalizing seen with
  | nil => simp [firstSeenAfter]
  | cons x xs ih =>
    rw [firstSeenAfter, ih]
    by_cases hx : x ∈ seen
    · rw [if_pos hx]
      cases hseen : seen.findSome? f with
      | some b => rfl
      | none =>
        -- the repeated entry is passed over at its first place already
        have hnone : f x = none := List.findSome?_eq_none_iff.mp hseen x hx
        simp [hnone]
    · rw [if_neg hx, List.findSome?_append, Option.or_assoc, List.findSome?_cons,
        List.findSome?_cons]
      cases f x <;> simp

/-- A search finds the same in both lists, since what is dropped has an equal before it. -/
theorem findSome?_firstSeen {β : Type} (xs : List α) (f : α → Option β) :
    (firstSeen xs).findSome? f = xs.findSome? f := by
  rw [firstSeen, findSome?_firstSeenAfter, List.findSome?_nil, Option.none_or]

end AssertionGen
