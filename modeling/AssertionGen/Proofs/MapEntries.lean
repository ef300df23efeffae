import AssertionGen.Check.Handle
import AssertionGen.Proofs.ValueEquality
import Mathlib.Data.List.Pairwise
/-!
# Keys and entries of maps

The assertion of an entry takes the first entry whose key equals the given one, and looks at nothing
else. Where the keys of a map are distinct this is the only one (`Value.KeysDistinct.eq_of_key`), so
that no other could have held the value, and a failure tells all there is under the key
(`entry_checks`).

A multimap holds lists of values under its keys, and one of the list is enough. A value under a key of
a multimap that is no list counts as it does in a map.
-/

namespace AssertionGen

/-- What is held under a key has the value: a list on a multimap by one of its elements, and everything
else by being equal to it. -/
inductive HandleKind.Has : HandleKind → Value → Value → Prop where
  | element {vs : List Value} {w v : Value} (hmem : w ∈ vs) (h : w.Equal v) :
      Has .multimap (.list vs) v
  | itself {kind : HandleKind} {found v : Value}
      (hother : kind = .multimap → ∀ vs, found ≠ .list vs) (h : found.Equal v) : Has kind found v

/-- Only one entry of a map has the key, if its keys are distinct. -/
theorem Value.KeysDistinct.eq_of_key {es : List (Value × Value)} {e f : Value × Value} {key : Value}
    (hkeys : (Value.map es).KeysDistinct) (he : e ∈ es) (hf : f ∈ es) (hekey : e.1.Equal key)
    (hfkey : f.1.Equal key) : e = f := by
  by_contra hne
  have hback : key.Equal f.1 := Equal.symm (hkeys.of_mem (key_mem_parts hf)) hfkey
  have hapart : KeysApart e f := hkeys.pairwise.forall he hf hne
  exact hapart.1 (hekey.trans hback)

namespace Handle

variable {h : Handle} {es : List (Value × Value)} {e : Value × Value} {key : Value}

theorem holds_iff {found v : Value} : h.holds found v = true ↔ h.kind.Has found v := by
  unfold holds
  split
  · next vs hkind =>
    rw [hkind, List.any_eq_true]
    constructor
    · rintro ⟨w, hw, heq⟩
      exact .element hw heq
    · intro hhas
      cases hhas with
      | element hw heq => exact ⟨_, hw, heq⟩
      | itself hother _ => exact absurd rfl (hother rfl vs)
  · next hother =>
    constructor
    · exact .itself fun hkind vs hvs => hother vs hkind hvs
    · intro hhas
      generalize h.kind = kind at hother hhas
      cases hhas with
      | element hw heq => exact absurd rfl (hother _ rfl)
      | itself _ heq => exact heq

theorem entries_of_map (hkind : isMapLike h.kind = true) (hactual : h.actual = .map es)
    (op : Operation) : h.entries op = .ok (some es) := by
  rw [entries, if_pos hkind, hactual]

theorem containsKey_of_mem (hkind : isMapLike h.kind = true) (hactual : h.actual = .map es)
    (he : e ∈ es) (hkey : e.1.Equal key) : h.containsKey key = .ok .pass := by
  have hany : (es.any fun e => e.1.eqv key) = true := List.any_eq_true.mpr ⟨e, he, hkey⟩
  rw [containsKey, entries_of_map hkind hactual]
  exact if_pos hany

theorem containsKey_of_notMem (hkind : isMapLike h.kind = true) (hactual : h.actual = .map es)
    (hkey : ∀ e ∈ es, ¬ e.1.Equal key) :
    h.containsKey key = .ok (.fail (.containment h.displayName .containsKey [key] [])) := by
  have hany : ¬ (es.any fun e => e.1.eqv key) = true := by
    rw [List.any_eq_true]
    rintro ⟨e, he, heq⟩
    exact hkey e he heq
  rw [containsKey, entries_of_map hkind hactual]
  exact if_neg hany

/-- With the key in the map, what it holds decides. -/
theorem containsEntry_of_mem (hkind : isMapLike h.kind = true) (hactual : h.actual = .map es)
    (hkeys : (Value.map es).KeysDistinct) (he : e ∈ es) (hkey : e.1.Equal key) (value : Value) :
    h.containsEntry key value = if h.holds e.2 value then .ok .pass
      else .ok (.fail (.comparison (h.displayName ++ ".get(" ++ key.text ++ ")") value e.2)) := by
  -- the first entry with the key is the only one, so it is this one
  have hfind : es.find? (fun e => e.1.eqv key) = some e := by
    cases hfind : es.find? fun e => e.1.eqv key with
    | none => exact absurd hkey (List.find?_eq_none.mp hfind e he)
    | some f =>
        have hfkey := List.find?_some (p := fun e : Value × Value => e.1.eqv key) hfind
        rw [hkeys.eq_of_key (List.mem_of_find?_eq_some hfind) he hfkey hkey]
  rw [containsEntry, entries_of_map hkind hactual]
  simp only [bind, Except.bind, hfind]
  rfl

theorem containsEntry_of_notMem (hkind : isMapLike h.kind = true) (hactual : h.actual = .map es)
    (hkey : ∀ e ∈ es, ¬ e.1.Equal key) (value : Value) :
    h.containsEntry key value =
      .ok (.fail (.containment h.displayName .containsEntry [key] [])) := by
  rw [containsEntry, entries_of_map hkind hactual]
  simp only [bind, Except.bind, List.find?_eq_none.mpr hkey]
  rfl

end Handle

/-- **What the assertions on entries answer.** On a map or a multimap over a map with distinct keys, a
key is there exactly if it equals the key of an entry, and an entry is there exactly if what is held
under such a key has the value. If the entry is not there, the failure tells the missing key exactly
if the assertion of the key fails too; and otherwise it compares the value with what the one entry of
the key holds, which is never the map itself. -/
theorem entry_checks {h : Handle} {es : List (Value × Value)}
    (hkind : Handle.isMapLike h.kind = true) (hactual : h.actual = .map es)
    (hkeys : h.actual.KeysDistinct) (key value : Value) :
    (h.containsKey key = .ok .pass ↔ ∃ e ∈ es, e.1.Equal key) ∧
    (h.containsEntry key value = .ok .pass ↔ ∃ e ∈ es, e.1.Equal key ∧ h.kind.Has e.2 value) ∧
    (h.containsEntry key value ≠ .ok .pass →
      (h.containsEntry key value =
          .ok (.fail (.containment h.displayName .containsEntry [key] [])) ↔
        ∃ record, h.containsKey key = .ok (.fail record)) ∧
      ((¬ ∃ record, h.containsKey key = .ok (.fail record)) →
        ∃ e ∈ es, e.1.Equal key ∧ (∀ f ∈ es, f.1.Equal key → f = e) ∧ e.2 ≠ h.actual ∧
          h.containsEntry key value = .ok (.fail
            (.comparison (h.displayName ++ ".get(" ++ key.text ++ ")") value e.2)))) := by
  rw [hactual] at hkeys
  by_cases hfound : ∃ e ∈ es, e.1.Equal key
  · obtain ⟨e, he, hkey⟩ := hfound
    have honly : ∀ f ∈ es, f.1.Equal key → f = e := fun f hf hfkey =>
      hkeys.eq_of_key hf he hfkey hkey
    -- what is held is smaller than the map that holds it
    have hsmaller : e.2 ≠ h.actual := by
      intro heq
      have hlt := Value.sizeOf_part_lt (Value.held_mem_parts he)
      rw [heq, hactual] at hlt
      exact absurd hlt (Nat.lt_irrefl _)
    rw [Handle.containsKey_of_mem hkind hactual he hkey,
      Handle.containsEntry_of_mem hkind hactual hkeys he hkey]
    refine ⟨iff_of_true rfl ⟨e, he, hkey⟩, ?_⟩
    by_cases hhas : h.holds e.2 value = true
    · rw [if_pos hhas]
      exact ⟨iff_of_true rfl ⟨e, he, hkey, Handle.holds_iff.mp hhas⟩, fun hne => absurd rfl hne⟩
    · rw [if_neg hhas]
      refine ⟨iff_of_false (by simp) ?_, fun _ => ⟨iff_of_false (by simp) (by simp), fun _ => ?_⟩⟩
      · rintro ⟨f, hf, hfkey, hfhas⟩
        rw [honly f hf hfkey] at hfhas
        exact hhas (Handle.holds_iff.mpr hfhas)
      · exact ⟨e, he, hkey, honly, hsmaller, rfl⟩
  · have hnone : ∀ e ∈ es, ¬ e.1.Equal key := fun e he hkey => hfound ⟨e, he, hkey⟩
    rw [Handle.containsKey_of_notMem hkind hactual hnone,
      Handle.containsEntry_of_notMem hkind hactual hnone]
    refine ⟨iff_of_false (by simp) hfound, iff_of_false (by simp) ?_, fun _ => ⟨?_, ?_⟩⟩
    · rintro ⟨e, he, hkey, -⟩
      exact hnone e he hkey
    · exact iff_of_true rfl ⟨_, rfl⟩
    · intro hpasses
      exact absurd ⟨_, rfl⟩ hpasses

namespace Sample

/-- Under one key a list with a map in it, under the other a number. -/
def shelves : List (Value × Value) :=
  [(.str "a", .list [.int 1, .map readings]), (.str "b", .int 2)]

def onShelves : Handle := ⟨"getShelves()", .multimap, .map shelves⟩

theorem keysDistinct_shelves : (Value.map shelves).KeysDistinct := by
  have hlist : (Value.list [.int 1, .map readings]).KeysDistinct := by
    refine .mk (fun es hes => nomatch hes) (List.forall_mem_cons.mpr ⟨.of_parts_eq_nil rfl, ?_⟩)
    exact List.forall_mem_singleton.mpr keysDistinct_readings
  refine .of_entries (by decide +kernel) ?_
  refine List.forall_mem_cons.mpr ⟨⟨.of_parts_eq_nil rfl, hlist⟩, ?_⟩
  exact List.forall_mem_singleton.mpr ⟨.of_parts_eq_nil rfl, .of_parts_eq_nil rfl⟩

end Sample

/-- An equal map is in the list under `a`, and under `b` there is another number. -/
theorem entry_checks_shelves :
    Handle.isMapLike Sample.onShelves.kind = true ∧ Sample.onShelves.actual.KeysDistinct ∧
      Sample.onShelves.containsEntry (.str "a") (.map Sample.readingsAgain) = .ok .pass ∧
      Sample.onShelves.containsKey (.str "b") = .ok .pass ∧
      Sample.onShelves.containsEntry (.str "b") (.int 3) = .ok (.fail (.comparison
        ("getShelves()" ++ ".get(" ++ (Value.str "b").text ++ ")") (.int 3) (.int 2))) := by
  have hchecks := entry_checks (h := Sample.onShelves) rfl rfl Sample.keysDistinct_shelves
  have hagain : (Value.map Sample.readings).Equal (.map Sample.readingsAgain) := by decide +kernel
  have hlisted : ∃ e ∈ Sample.shelves, e.1.Equal (.str "a") ∧
      HandleKind.multimap.Has e.2 (.map Sample.readingsAgain) :=
    ⟨_, List.mem_cons_self, Value.Equal.refl _,
      .element (List.mem_cons_of_mem _ List.mem_cons_self) hagain⟩
  have hkey : Sample.onShelves.containsKey (.str "b") = .ok .pass :=
    (hchecks (.str "b") (.int 3)).1.mpr
      ⟨_, List.mem_cons_of_mem _ List.mem_cons_self, Value.Equal.refl _⟩
  have hkeyed : ∀ e ∈ Sample.shelves, e.1.Equal (.str "b") → e = (.str "b", .int 2) := by
    rintro e he hb
    rcases List.mem_cons.mp he with rfl | he
    · exact absurd hb (by decide +kernel)
    · exact List.mem_singleton.mp he
  have hother : Sample.onShelves.containsEntry (.str "b") (.int 3) ≠ .ok .pass := by
    rw [ne_eq, (hchecks (.str "b") (.int 3)).2.1]
    rintro ⟨e, he, hb, hhas⟩
    rw [hkeyed e he hb, ← Handle.holds_iff (h := Sample.onShelves)] at hhas
    exact absurd hhas (by decide +kernel)
  have hpresent : ¬ ∃ record, Sample.onShelves.containsKey (.str "b") = .ok (.fail record) := by
    rw [hkey]
    rintro ⟨record, hfail⟩
    cases hfail
  obtain ⟨e, he, hb, -, -, hfail⟩ := ((hchecks (.str "b") (.int 3)).2.2 hother).2 hpresent
  rw [hkeyed e he hb] at hfail
  exact ⟨rfl, Sample.keysDistinct_shelves, (hchecks _ _).2.1.mpr hlisted, hkey, hfail⟩

end AssertionGen
