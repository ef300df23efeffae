/-!
# Keyed entries in insertion order

A list of pairs read as a map whose keys keep the order in which they first came. `insert` replaces
the value of a key that is there and otherwise puts the pair at the end; `get?` finds the value of
a key. With pairwise distinct keys, which `insert` keeps (`nodup_keys_insert`), this is a map:
`get?_insert` says what each key has after an insertion.
-/

namespace AssertionGen

/-- Keyed entries, in the order in which their keys were first put. -/
abbrev Entries (κ ν : Type) := List (κ × ν)

namespace Entries

variable {κ ν : Type} [DecidableEq κ]

/-- The keys, in order. -/
def keys (es : Entries κ ν) : List κ := es.map Prod.fst

/-- The value of the first entry with this key. -/
def get? (es : Entries κ ν) (k : κ) : Option ν :=
  match es with
  | [] => none
  | (l, v) :: es => if l = k then some v else get? es k

/-- Replaces the value of a key where it stands, or puts a new entry at the end. -/
def insert (es : Entries κ ν) (k : κ) (v : ν) : Entries κ ν :=
  match es with
  | [] => [(k, v)]
  | (l, w) :: es => if l = k then (k, v) :: es else (l, w) :: insert es k v

/-- Drops the entries with these keys. -/
def without (es : Entries κ ν) (ks : List κ) : Entries κ ν :=
  es.filter fun e => decide (e.1 ∉ ks)

/-- The entries put one after the other. -/
def ofList (ps : List (κ × ν)) : Entries κ ν := ps.foldl (fun es p => insert es p.1 p.2) []

/-! ## Laws -/

@[simp] theorem get?_nil (k : κ) : get? ([] : Entries κ ν) k = none := rfl

theorem get?_insert (es : Entries κ ν) (k l : κ) (v : ν) :
    (es.insert k v).get? l = if k = l then some v else es.get? l := by
  induction es with
  | nil => simp [insert, get?]
  | cons e es ih =>
    obtain ⟨m, w⟩ := e
    by_cases hm : m = k
    · subst hm
      by_cases hl : m = l <;> simp [insert, get?, hl]
    · by_cases hl : m = l
      · subst hl
        simp [insert, get?, hm, Ne.symm hm]
      · simp [insert, get?, hm, hl, ih]

theorem get?_eq_none_iff {es : Entries κ ν} {k : κ} : es.get? k = none ↔ k ∉ es.keys := by
  induction es with
  | nil => simp [keys]
  | cons e es ih =>
    obtain ⟨m, w⟩ := e
    by_cases hm : m = k
    · subst hm
      simp [get?, keys]
    · have := Ne.symm hm
      simp_all [get?, keys]

theorem mem_of_get? {es : Entries κ ν} {k : κ} {v : ν} (h : es.get? k = some v) : (k, v) ∈ es := by
  induction es with
  | nil => simp at h
  | cons e es ih =>
    obtain ⟨m, w⟩ := e
    by_cases hm : m = k
    · subst hm
      simp_all [get?]
    · simp only [get?, hm, if_false] at h
      exact List.mem_cons_of_mem _ (ih h)

theorem keys_insert (es : Entries κ ν) (k : κ) (v : ν) :
    (es.insert k v).keys = if k ∈ es.keys then es.keys else es.keys ++ [k] := by
  induction es with
  | nil => simp [insert, keys]
  | cons e es ih =>
    obtain ⟨m, w⟩ := e
    by_cases hm : m = k
    · subst hm
      simp [insert, keys]
    · have hk : k ≠ m := Ne.symm hm
      simp only [insert, hm, if_false, keys, List.map_cons, List.mem_cons, hk, false_or]
      simp only [keys] at ih
      rw [ih]
      by_cases hes : k ∈ List.map Prod.fst es <;> simp [hes]

theorem insert_of_notMem {es : Entries κ ν} {k : κ} (h : k ∉ es.keys) (v : ν) :
    es.insert k v = es ++ [(k, v)] := by
  induction es with
  | nil => rfl
  | cons e es ih =>
    obtain ⟨m, w⟩ := e
    simp only [keys, List.map_cons, List.mem_cons, not_or] at h
    rw [insert, if_neg (Ne.symm h.1), ih h.2, List.cons_append]

theorem nodup_keys_insert {es : Entries κ ν} (h : es.keys.Nodup) (k : κ) (v : ν) :
    (es.insert k v).keys.Nodup := by
  rw [keys_insert]
  split
  · exact h
  · rename_i hk
    refine List.nodup_append.mpr ⟨h, by simp, ?_⟩
    intro a ha b hb
    rw [List.mem_singleton.mp hb]
    exact fun e => hk (e ▸ ha)

theorem without_cons (e : κ × ν) (es : Entries κ ν) (ks : List κ) :
    without (e :: es) ks = if e.1 ∈ ks then without es ks else e :: without es ks := by
  by_cases h : e.1 ∈ ks <;> simp [without, h]

theorem get?_without (es : Entries κ ν) (ks : List κ) (k : κ) :
    (es.without ks).get? k = if k ∈ ks then none else es.get? k := by
  induction es with
  | nil => simp [without]
  | cons e es ih =>
    obtain ⟨l, v⟩ := e
    rw [without_cons]
    by_cases hk : l = k
    · subst hk
      by_cases hl : l ∈ ks
      · simp [hl, ih]
      · simp [hl, get?]
    · by_cases hl : l ∈ ks <;> simp [hl, ih, get?, hk]

theorem length_without_lt_iff {es : Entries κ ν} {ks : List κ} :
    (es.without ks).length < es.length ↔ ∃ k ∈ es.keys, k ∈ ks := by
  unfold without keys
  rw [List.length_filter_lt_length_iff_exists]
  constructor
  · rintro ⟨e, he, hk⟩
    exact ⟨e.1, List.mem_map_of_mem he, by simpa using hk⟩
  · rintro ⟨k, hk, hks⟩
    obtain ⟨e, he, rfl⟩ := List.mem_map.mp hk
    exact ⟨e, he, by simpa using hks⟩

/-! ## Entries made of a list -/

theorem mem_of_get?_foldl_insert {ps : List (κ × ν)} {es : Entries κ ν} {k : κ} {v : ν}
    (h : (ps.foldl (fun es p => insert es p.1 p.2) es).get? k = some v) :
    (k, v) ∈ ps ∨ es.get? k = some v := by
  induction ps generalizing es with
  | nil => exact Or.inr h
  | cons p ps ih =>
    rcases ih h with hp | hp
    · exact Or.inl (List.mem_cons_of_mem _ hp)
    · rw [get?_insert] at hp
      split at hp
      · next hk =>
        have hv : p.2 = v := Option.some.inj hp
        exact Or.inl (by rw [← hk, ← hv]; exact List.mem_cons_self)
      · exact Or.inr hp

theorem mem_of_get?_ofList {ps : List (κ × ν)} {k : κ} {v : ν} (h : (ofList ps).get? k = some v) :
    (k, v) ∈ ps := by
  rcases mem_of_get?_foldl_insert h with hp | hp
  · exact hp
  · simp at hp

theorem nodup_keys_ofList (ps : List (κ × ν)) : (ofList ps).keys.Nodup := by
  have hkept : ∀ es : Entries κ ν, es.keys.Nodup →
      (keys (ps.foldl (fun es p => insert es p.1 p.2) es)).Nodup := by
    induction ps with
    | nil => exact fun es hes => hes
    | cons p ps ih => exact fun es hes => ih _ (nodup_keys_insert hes p.1 p.2)
  exact hkept [] List.nodup_nil

theorem get?_foldl_insert_of_notMem {ps : List (κ × ν)} {k : κ} (h : k ∉ ps.map Prod.fst)
    (es : Entries κ ν) : (ps.foldl (fun es p => insert es p.1 p.2) es).get? k = es.get? k := by
  induction ps generalizing es with
  | nil => rfl
  | cons p ps ih =>
    simp only [List.map_cons, List.mem_cons, not_or] at h
    rw [List.foldl_cons, ih h.2, get?_insert, if_neg (Ne.symm h.1)]

theorem get?_ofList_of_mem {ps : List (κ × ν)} (hd : (ps.map Prod.fst).Nodup) {k : κ} {v : ν}
    (h : (k, v) ∈ ps) : (ofList ps).get? k = some v := by
  unfold ofList
  generalize ([] : Entries κ ν) = es
  induction ps generalizing es with
  | nil => cases h
  | cons p ps ih =>
    rw [List.map_cons, List.nodup_cons] at hd
    rcases List.mem_cons.mp h with rfl | h
    · rw [List.foldl_cons, get?_foldl_insert_of_notMem hd.1, get?_insert, if_pos rfl]
    · exact ih hd.2 h _

/-- With distinct keys, what is found is what was put in. -/
theorem get?_ofList_eq_some_iff {ps : List (κ × ν)} (hd : (ps.map Prod.fst).Nodup) {k : κ} {v : ν} :
    (ofList ps).get? k = some v ↔ (k, v) ∈ ps :=
  ⟨mem_of_get?_ofList, get?_ofList_of_mem hd⟩

/-- Pairs of distinct keys may be put in any order. -/
theorem get?_ofList_perm {ps qs : List (κ × ν)} (hperm : ps.Perm qs)
    (hd : (qs.map Prod.fst).Nodup) (k : κ) : (ofList ps).get? k = (ofList qs).get? k := by
  have hd' : (ps.map Prod.fst).Nodup := (hperm.map Prod.fst).nodup_iff.mpr hd
  refine Option.ext fun v => ?_
  rw [get?_ofList_eq_some_iff hd', get?_ofList_eq_some_iff hd]
  exact hperm.mem_iff

end Entries

end AssertionGen
