import AssertionGen.Proofs.Generation
import AssertionGen.Proofs.Occurrences
/-!
# Which type parameters a subject has

A subject redeclares the type parameters of its value type and infers one for every type variable that
a property uses undeclared. The inferred ones stand in the order in which a reader meets them who goes
through the properties in turn, and through each type from left to right and from the outside in.

This order is said by places. A place in a type is the way to it: the number of a component, and then a
place in that component. Of two places the one that is smaller in lexicographic order is met first.
`JavaType.exists_listing` says that the listing of occurrences is the walk through all places in
ascending order, and from this follows that the inferred parameters are ordered by the first places of
their variables (`freeVariables_infers`), which fixes their list (`Infers.unique`).
-/

namespace AssertionGen

/-! ## Listings by place -/

section Listings

/-- What stands at places, listed in ascending order of the places. -/
structure IsListing (At : String → List Nat → Prop) (ps : List (List Nat × String)) : Prop where
  ascending : ps.Pairwise fun x y => x.1 < y.1
  mem_iff : ∀ place n, (place, n) ∈ ps ↔ At n place

/-- Listings put together; the places in each go on from a number, which is one more for the next. -/
def joinListings (k : Nat) : List (List (List Nat × String)) → List (List Nat × String)
  | [] => []
  | ps :: pss => ps.map (fun x => (k :: x.1, x.2)) ++ joinListings (k + 1) pss

theorem map_snd_joinListings (k : Nat) (pss : List (List (List Nat × String))) :
    (joinListings k pss).map Prod.snd = pss.flatMap fun ps => ps.map Prod.snd := by
  induction pss generalizing k with
  | nil => rfl
  | cons ps pss ih =>
      rw [joinListings, List.map_append, List.map_map, ih]
      rfl

theorem mem_joinListings_iff {k : Nat} {pss : List (List (List Nat × String))} {place : List Nat}
    {n : String} :
    (place, n) ∈ joinListings k pss ↔
      ∃ i rest ps, place = (k + i) :: rest ∧ pss[i]? = some ps ∧ (rest, n) ∈ ps := by
  induction pss generalizing k with
  | nil => simp [joinListings]
  | cons ps pss ih =>
      rw [joinListings, List.mem_append, List.mem_map, ih]
      constructor
      · rintro (⟨⟨rest, m⟩, hmem, heq⟩ | ⟨i, rest, qs, rfl, hqs, hmem⟩)
        · cases heq
          exact ⟨0, rest, ps, rfl, rfl, hmem⟩
        · refine ⟨i + 1, rest, qs, ?_, hqs, hmem⟩
          rw [Nat.add_assoc, Nat.add_comm 1 i]
      · rintro ⟨i, rest, qs, rfl, hqs, hmem⟩
        cases i with
        | zero =>
            cases hqs
            exact Or.inl ⟨(rest, n), hmem, rfl⟩
        | succ i =>
            refine Or.inr ⟨i, rest, qs, ?_, hqs, hmem⟩
            rw [Nat.add_assoc, Nat.add_comm 1 i]

theorem pairwise_joinListings {k : Nat} {pss : List (List (List Nat × String))}
    (h : ∀ ps ∈ pss, ps.Pairwise fun x y => x.1 < y.1) :
    (joinListings k pss).Pairwise fun x y => x.1 < y.1 := by
  induction pss generalizing k with
  | nil => exact List.Pairwise.nil
  | cons ps pss ih =>
      have hfirst : (ps.map fun x => (k :: x.1, x.2)).Pairwise fun x y => x.1 < y.1 := by
        rw [List.pairwise_map]
        exact (h ps List.mem_cons_self).imp fun hlt => List.cons_lt_cons_iff.mpr (Or.inr ⟨rfl, hlt⟩)
      have hrest := ih (k := k + 1) fun qs hqs => h qs (List.mem_cons_of_mem _ hqs)
      refine List.pairwise_append.mpr ⟨hfirst, hrest, ?_⟩
      -- all later places begin with a greater number
      rintro x hx ⟨place, n⟩ hy
      obtain ⟨y, -, rfl⟩ := List.mem_map.mp hx
      obtain ⟨i, rest, qs, rfl, -, -⟩ := mem_joinListings_iff.mp hy
      exact List.cons_lt_cons_iff.mpr (Or.inl (by omega))

/-- Things that are listed each by itself are listed together in their order. -/
theorem IsListing.join {α : Type} {At : α → String → List Nat → Prop}
    {listing : α → List (List Nat × String)} {xs : List α}
    (h : ∀ x ∈ xs, IsListing (At x) (listing x)) :
    IsListing (fun n place => ∃ i rest x, place = i :: rest ∧ xs[i]? = some x ∧ At x n rest)
      (joinListings 0 (xs.map listing)) where
  ascending := by
    refine pairwise_joinListings fun ps hps => ?_
    obtain ⟨x, hx, rfl⟩ := List.mem_map.mp hps
    exact (h x hx).ascending
  mem_iff := by
    intro place n
    rw [mem_joinListings_iff]
    simp only [Nat.zero_add, List.getElem?_map, Option.map_eq_some_iff]
    constructor
    · rintro ⟨i, rest, ps, hplace, ⟨x, hx, rfl⟩, hmem⟩
      exact ⟨i, rest, x, hplace, hx, ((h x (List.mem_of_getElem? hx)).mem_iff rest n).mp hmem⟩
    · rintro ⟨i, rest, x, hplace, hx, hat⟩
      exact ⟨i, rest, _, hplace, ⟨x, hx, rfl⟩,
        ((h x (List.mem_of_getElem? hx)).mem_iff rest n).mpr hat⟩

/-- What comes first in a listing stands somewhere before all places of what comes later. -/
theorem IsListing.exists_first {At : String → List Nat → Prop} {ps : List (List Nat × String)}
    (h : IsListing At ps) {a b : String} (ha : a ∈ ps.map Prod.snd)
    (hab : (ps.map Prod.snd).idxOf a < (ps.map Prod.snd).idxOf b) :
    ∃ first, At a first ∧ ∀ place, At b place → first < place := by
  have hlisted : ∃ first, (first, a) ∈ ps ∧ ∀ place, (place, b) ∈ ps → first < place := by
    have hascending := h.ascending
    clear h
    induction ps with
    | nil => cases ha
    | cons x ps ih =>
        rw [List.pairwise_cons] at hascending
        rw [List.map_cons] at ha hab
        by_cases hxb : x.2 = b
        · rw [hxb, List.idxOf_cons_self] at hab
          exact absurd hab (Nat.not_lt_zero _)
        · by_cases hxa : x.2 = a
          · refine ⟨x.1, hxa ▸ List.mem_cons_self, fun place hplace => ?_⟩
            rcases List.mem_cons.mp hplace with rfl | hplace
            · exact absurd rfl hxb
            · exact hascending.1 _ hplace
          · rw [List.idxOf_cons_ne _ hxa, List.idxOf_cons_ne _ hxb] at hab
            have hmem : a ∈ ps.map Prod.snd := (List.mem_cons.mp ha).resolve_left (Ne.symm hxa)
            obtain ⟨first, hfirst, hbefore⟩ := ih hmem (by omega) hascending.2
            refine ⟨first, List.mem_cons_of_mem _ hfirst, fun place hplace => ?_⟩
            rcases List.mem_cons.mp hplace with rfl | hplace
            · exact absurd rfl hxb
            · exact hbefore place hplace
  obtain ⟨first, hfirst, hbefore⟩ := hlisted
  exact ⟨first, (h.mem_iff first a).mp hfirst,
    fun place hplace => hbefore place ((h.mem_iff place b).mpr hplace)⟩

end Listings

/-! ## Places in a type -/

namespace JavaType

variable {t : JavaType} {n : String} {place : List Nat}

/-- A type variable stands at a place in a type. -/
inductive StandsAt (n : String) : List Nat → JavaType → Prop where
  | here : StandsAt n [] (.typeVariable n)
  | inside {t u : JavaType} {i : Nat} {rest : List Nat} (hu : t.components[i]? = some u)
      (h : StandsAt n rest u) : StandsAt n (i :: rest) t

theorem standsAt_typeVariable_iff {m : String} :
    StandsAt n place (.typeVariable m) ↔ place = [] ∧ n = m := by
  constructor
  · intro h
    cases h with
    | here => exact ⟨rfl, rfl⟩
    | inside hu h => cases hu
  · rintro ⟨rfl, rfl⟩
    exact .here

theorem standsAt_iff_of_ne (ht : ∀ m, t ≠ .typeVariable m) :
    StandsAt n place t ↔
      ∃ i rest u, place = i :: rest ∧ t.components[i]? = some u ∧ StandsAt n rest u := by
  constructor
  · intro h
    cases h with
    | here => exact absurd rfl (ht n)
    | inside hu h => exact ⟨_, _, _, rfl, hu, h⟩
  · rintro ⟨i, rest, u, rfl, hu, h⟩
    exact .inside hu h

/-- The occurrences of type variables are listed in ascending order of their places. -/
theorem exists_listing (t : JavaType) :
    ∃ ps, IsListing (fun n place => StandsAt n place t) ps ∧ ps.map Prod.snd = t.occurrences := by
  induction t using parts_induction with
  | step t hcomponents hsupertypes =>
      by_cases ht : ∃ m, t = .typeVariable m
      · obtain ⟨m, rfl⟩ := ht
        refine ⟨[([], m)], ⟨List.pairwise_singleton _ _, fun place n => ?_⟩, by simp [occurrences]⟩
        rw [standsAt_typeVariable_iff, List.mem_singleton, Prod.mk.injEq]
      · have hne : ∀ m, t ≠ .typeVariable m := fun m h => ht ⟨m, h⟩
        choose! listing hlisting hoccurrences using hcomponents
        have hjoined := IsListing.join hlisting
        refine ⟨_, ⟨hjoined.ascending, fun place n => ?_⟩, ?_⟩
        · exact (hjoined.mem_iff place n).trans (standsAt_iff_of_ne hne).symm
        · rw [map_snd_joinListings, List.flatMap_map, occurrences_of_ne hne]
          exact List.flatMap_congr fun u hu => hoccurrences u hu

end JavaType

/-! ## Places in the properties of a value type -/

namespace ValueType

variable {v : ValueType} {ns ms : List String}

/-- A type variable stands at a place in the properties: in the type of the property of this number. -/
def UsesAt (v : ValueType) (n : String) (place : List Nat) : Prop :=
  ∃ i rest p, place = i :: rest ∧ v.properties[i]? = some p ∧ p.type.StandsAt n rest

/-- The variables that a value type uses undeclared: each once, and one before another if it stands
somewhere before all places of the other. -/
structure Infers (v : ValueType) (ns : List String) : Prop where
  nodup : ns.Nodup
  mem_iff : ∀ n, n ∈ ns ↔ n ∉ v.typeParameters.map TypeParameter.name ∧ ∃ place, v.UsesAt n place
  ascending : ns.Pairwise fun a b =>
    ∃ first, v.UsesAt a first ∧ ∀ place, v.UsesAt b place → first < place

theorem exists_listing (v : ValueType) :
    ∃ ps, IsListing v.UsesAt ps ∧ ps.map Prod.snd = v.variableOccurrences := by
  choose listing hlisting hoccurrences using fun p : Property => p.type.exists_listing
  refine ⟨_, IsListing.join fun p _ => hlisting p, ?_⟩
  rw [map_snd_joinListings, List.flatMap_map, variableOccurrences]
  exact List.flatMap_congr fun p _ => hoccurrences p

theorem freeVariables_infers (v : ValueType) : v.Infers v.freeVariables := by
  obtain ⟨ps, hlisting, hoccurrences⟩ := v.exists_listing
  have hused : ∀ n, n ∈ v.variableOccurrences ↔ ∃ place, v.UsesAt n place := by
    intro n
    rw [← hoccurrences, List.mem_map]
    constructor
    · rintro ⟨⟨place, m⟩, hmem, rfl⟩
      exact ⟨place, (hlisting.mem_iff place m).mp hmem⟩
    · rintro ⟨place, hplace⟩
      exact ⟨(place, n), (hlisting.mem_iff place n).mpr hplace, rfl⟩
  refine ⟨nodup_firstSeen _, fun n => ?_, ?_⟩
  · rw [freeVariables, mem_firstSeen, List.mem_filter, decide_eq_true_iff, hused, and_comm]
  · rw [freeVariables, ← filter_firstSeen]
    refine List.Pairwise.filter _ ?_
    refine (pairwise_idxOf_firstSeen v.variableOccurrences).imp_of_mem fun ha hb hab => ?_
    rw [← hoccurrences] at ha hab
    exact hlisting.exists_first (mem_firstSeen.mp ha) hab

/-- There is one such list only: its members and their order are given. -/
theorem Infers.unique (hns : v.Infers ns) (hms : v.Infers ms) : ns = ms := by
  have hperm : ns.Perm ms := (List.perm_ext_iff_of_nodup hns.nodup hms.nodup).mpr fun n =>
    (hns.mem_iff n).trans (hms.mem_iff n).symm
  refine hperm.eq_of_pairwise (fun a b _ _ hab hba => ?_) hns.ascending hms.ascending
  -- two variables cannot stand before each other
  obtain ⟨first, hfirst, hbefore⟩ := hab
  obtain ⟨second, hsecond, hafter⟩ := hba
  exact absurd (hafter first hfirst) (List.lt_asymm (hbefore second hsecond))

end ValueType

/-- **Which type parameters a subject has.** The declared parameters come first, in order, with their
bounds and not inferred. One unbounded, inferred parameter follows for each type variable that stands
in the type of a property and is not declared; they are ordered by the first places of their variables,
and there is one such list only. A subject that is generated has these type parameters. -/
theorem type_parameters_propagated (v : ValueType) :
    ∃ inferred, (∀ ns, v.Infers ns ↔ ns = inferred) ∧
      v.bindings = v.typeParameters.map (fun p => ⟨p.name, p.bounds, false⟩) ++
        inferred.map (fun n => ⟨n, [], true⟩) ∧
      ∀ settings table s, generate settings table v = .ok s → s.typeParameters = v.bindings := by
  refine ⟨v.freeVariables, fun ns => ⟨fun hns => hns.unique v.freeVariables_infers, ?_⟩, ?_, ?_⟩
  · rintro rfl
    exact v.freeVariables_infers
  · exact v.bindings_eq
  · intro settings table s hs
    rw [eq_assembled_of_generate hs]
    rfl

/-- `V` is met in the first property and again in the last, `K` is declared. -/
example : (ValueType.bindings ⟨"Box", "com.example", [],
    [⟨"entries", "getEntries", .getter, .map .map (some (.typeVariable "K")) (some (.typeVariable "V")),
        false⟩,
      ⟨"first", "getFirst", .getter, .array (.typeVariable "E"), false⟩,
      ⟨"again", "getAgain", .getter, .typeVariable "V", false⟩],
    [⟨"K", []⟩], []⟩).map Binding.name = ["K", "V", "E"] := by
  decide +kernel

end AssertionGen
