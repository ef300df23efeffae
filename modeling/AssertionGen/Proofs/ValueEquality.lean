import AssertionGen.Check.Equality
import Mathlib.Data.Fintype.EquivFin
import Mathlib.Data.List.Forall2
/-!
# Equality of values is an equality

Two maps are compared by one search: for each entry of the first there is an equal one among those of
the second. Nothing is said of the entries of the second that were not hit, so with `k` twice in one
map and once in the other, the maps may be equal in one direction only.

Where no map has two entries with equal keys, at any depth (`Value.KeysDistinct`), no two entries can
hit the same one, and maps of one length pair off. From this, equality is symmetric
(`Value.Equal.symm`); reflexive and transitive it is on all values. Both the pairing and the symmetry
of the values that contain a map need symmetry and transitivity of its keys, so all laws are first
stated for one level, over any relation of the values inside (`Value.EqualBy`), and then carried
through the value by induction on its parts.
-/

namespace AssertionGen

/-! ## Pairing off -/

/-- Lists of one length pair off by a relation, if each entry of the first has a partner in the
second and no two of them can share one. -/
theorem exists_pairing {α β : Type} {r : α → β → Prop} {as : List α} {bs : List β}
    (hlength : as.length = bs.length) (hfound : ∀ a ∈ as, ∃ b ∈ bs, r a b)
    (hapart : as.Pairwise fun a a' => ∀ b, r a b → ¬ r a' b) :
    ∃ σ : Fin as.length ≃ Fin bs.length, ∀ i, r (as.get i) (bs.get (σ i)) := by
  have hplace : ∀ i : Fin as.length, ∃ j : Fin bs.length, r (as.get i) (bs.get j) := by
    intro i
    obtain ⟨b, hb, hr⟩ := hfound (as.get i) (as.get_mem i)
    obtain ⟨j, rfl⟩ := List.get_of_mem hb
    exact ⟨j, hr⟩
  choose partner hpartner using hplace
  -- being apart speaks of a place and a later one, so the order of the places comes in
  have hlt : ∀ i j : Fin as.length, i < j → partner i ≠ partner j := by
    intro i j hij heq
    have hi : r (as.get i) (bs.get (partner j)) := by
      rw [← heq]
      exact hpartner i
    exact List.pairwise_iff_get.mp hapart i j hij _ hi (hpartner j)
  have hinjective : Function.Injective partner := by
    intro i j heq
    rcases lt_trichotomy i j with hij | hij | hij
    · exact absurd heq (hlt i j hij)
    · exact hij
    · exact absurd heq.symm (hlt j i hij)
  have hcard : Fintype.card (Fin as.length) = Fintype.card (Fin bs.length) := by
    rw [Fintype.card_fin, Fintype.card_fin, hlength]
  have hbijective : Function.Bijective partner :=
    (Fintype.bijective_iff_injective_and_card partner).mpr ⟨hinjective, hcard⟩
  exact ⟨Equiv.ofBijective partner hbijective, hpartner⟩

namespace Value

variable {r : Value → Value → Prop} {u v w : Value} {es fs : List (Value × Value)}

/-! ## Parts -/

/-- The values that stand directly in a value. -/
def parts : Value → List Value
  | array vs | list vs => vs
  | map es => es.map Prod.fst ++ es.map Prod.snd
  | optional v => v.toList
  | object _ fs => fs.map Prod.snd
  | _ => []

theorem key_mem_parts {e : Value × Value} (he : e ∈ es) : e.1 ∈ (map es).parts :=
  List.mem_append_left _ (List.mem_map_of_mem he)

theorem held_mem_parts {e : Value × Value} (he : e ∈ es) : e.2 ∈ (map es).parts :=
  List.mem_append_right _ (List.mem_map_of_mem he)

theorem field_mem_parts {t : String} {fs : List (String × Value)} {f : String × Value}
    (hf : f ∈ fs) : f.2 ∈ (object t fs).parts :=
  List.mem_map_of_mem hf

theorem sizeOf_part_lt (h : w ∈ v.parts) : sizeOf w < sizeOf v := by
  cases v with
  | array vs | list vs =>
      have hlt : sizeOf w < sizeOf vs := List.sizeOf_lt_of_mem h
      simp only [array.sizeOf_spec, list.sizeOf_spec]
      omega
  | map es =>
      have hpair : ∃ e ∈ es, sizeOf w < sizeOf e := by
        rcases List.mem_append.mp h with h | h
        · obtain ⟨⟨k, x⟩, he, rfl⟩ := List.mem_map.mp h
          refine ⟨_, he, ?_⟩
          simp only [Prod.mk.sizeOf_spec]
          omega
        · obtain ⟨⟨k, x⟩, he, rfl⟩ := List.mem_map.mp h
          refine ⟨_, he, ?_⟩
          simp only [Prod.mk.sizeOf_spec]
          omega
      obtain ⟨e, he, hlt⟩ := hpair
      have hmem : sizeOf e < sizeOf es := List.sizeOf_lt_of_mem he
      rw [map.sizeOf_spec]
      omega
  | optional x =>
      rw [Option.mem_toList.mp h, optional.sizeOf_spec, Option.some.sizeOf_spec]
      omega
  | object t fs =>
      obtain ⟨⟨n, x⟩, hf, rfl⟩ := List.mem_map.mp h
      have hmem : sizeOf (n, x) < sizeOf fs := List.sizeOf_lt_of_mem hf
      simp only [Prod.mk.sizeOf_spec] at hmem
      simp only [object.sizeOf_spec]
      omega
  | null | bool _ | int _ | char _ | float _ | str _ | classRef _ _ | path _ | enum _ _ => cases h

/-- What holds of a value if it holds of its parts holds of every value. -/
@[elab_as_elim]
theorem parts_induction {motive : Value → Prop}
    (step : ∀ v, (∀ w ∈ v.parts, motive w) → motive v) (v : Value) : motive v :=
  step v fun w _ => parts_induction step w
termination_by sizeOf v
decreasing_by exact sizeOf_part_lt ‹_›

/-! ## Equality, one level at a time -/

/-- The values that are compared as they stand: all but doubles and those with parts. -/
def isPlain : Value → Bool
  | float _ | array _ | list _ | map _ | optional (some _) | object _ _ => false
  | _ => true

/-- What equality asks of two values, where a relation says which of their parts are equal. -/
inductive EqualBy (r : Value → Value → Prop) : Value → Value → Prop where
  | plain {v : Value} (h : v.isPlain = true) : EqualBy r v v
  | float {a b : UInt64} (h : canonicalBits a = canonicalBits b) : EqualBy r (float a) (float b)
  | array {vs ws : List Value} (h : List.Forall₂ r vs ws) : EqualBy r (array vs) (array ws)
  | list {vs ws : List Value} (h : List.Forall₂ r vs ws) : EqualBy r (list vs) (list ws)
  | map {es fs : List (Value × Value)} (hlength : es.length = fs.length)
      (hfound : ∀ e ∈ es, ∃ f ∈ fs, r e.1 f.1 ∧ r e.2 f.2) : EqualBy r (map es) (map fs)
  | optional {v w : Value} (h : r v w) : EqualBy r (optional (some v)) (optional (some w))
  | object {t : String} {fs gs : List (String × Value)}
      (h : List.Forall₂ (fun f g => f.1 = g.1 ∧ r f.2 g.2) fs gs) :
      EqualBy r (object t fs) (object t gs)

/-- The values are equal. -/
abbrev Equal (v w : Value) : Prop := v.eqv w = true

theorem eqvList_iff {vs ws : List Value} : eqvList vs ws = true ↔ List.Forall₂ Equal vs ws := by
  induction vs generalizing ws with
  | nil => cases ws <;> simp [eqvList]
  | cons v vs ih => cases ws <;> simp [eqvList, ih]

theorem eqvEntries_iff :
    eqvEntries es fs = true ↔ ∀ e ∈ es, ∃ f ∈ fs, Equal e.1 f.1 ∧ Equal e.2 f.2 := by
  induction es with
  | nil => simp [eqvEntries]
  | cons e es ih =>
      rw [eqvEntries, Bool.and_eq_true, ih, List.any_eq_true, List.forall_mem_cons]
      simp only [Bool.and_eq_true]

theorem eqvFields_iff {fs gs : List (String × Value)} :
    eqvFields fs gs = true ↔ List.Forall₂ (fun f g => f.1 = g.1 ∧ Equal f.2 g.2) fs gs := by
  induction fs generalizing gs with
  | nil => cases gs <;> simp [eqvFields]
  | cons f fs ih =>
      cases gs with
      | nil => simp [eqvFields]
      | cons g gs =>
          rw [eqvFields, Bool.and_eq_true, Bool.and_eq_true, ih, List.forall₂_cons, beq_iff_eq]

theorem equal_iff_eq_of_isPlain (hv : v.isPlain = true) : Equal v w ↔ v = w := by
  cases v with
  | null | bool _ | int _ | char _ | str _ | classRef _ _ | path _ | enum _ _ =>
      cases w <;> simp [Equal, eqv]
  | optional x =>
      cases x with
      | none =>
          cases w with
          | optional y => cases y <;> simp [Equal, eqv]
          | _ => simp [Equal, eqv]
      | some x => cases hv
  | float _ | array _ | list _ | map _ | object _ _ => cases hv

/-- Values are equal exactly if they are so up to their parts and the parts are equal. -/
theorem equal_iff : Equal v w ↔ EqualBy Equal v w := by
  constructor
  · intro h
    by_cases hv : v.isPlain = true
    · rw [← (equal_iff_eq_of_isPlain hv).mp h]
      exact .plain hv
    · cases v with
      | float a =>
          cases w with
          | float b =>
              rw [Equal, eqv, beq_iff_eq] at h
              exact .float h
          | _ => simp [Equal, eqv] at h
      | array vs =>
          cases w with
          | array ws =>
              rw [Equal, eqv, eqvList_iff] at h
              exact .array h
          | _ => simp [Equal, eqv] at h
      | list vs =>
          cases w with
          | list ws =>
              rw [Equal, eqv, eqvList_iff] at h
              exact .list h
          | _ => simp [Equal, eqv] at h
      | map es =>
          cases w with
          | map fs =>
              rw [Equal, eqv, Bool.and_eq_true, beq_iff_eq, eqvEntries_iff] at h
              exact .map h.1 h.2
          | _ => simp [Equal, eqv] at h
      | optional x =>
          cases x with
          | none => exact absurd rfl hv
          | some x =>
              cases w with
              | optional y =>
                  cases y with
                  | none => simp [Equal, eqv] at h
                  | some y =>
                      rw [Equal, eqv] at h
                      exact .optional h
              | _ => simp [Equal, eqv] at h
      | object t fs =>
          cases w with
          | object u gs =>
              rw [Equal, eqv, Bool.and_eq_true, beq_iff_eq, eqvFields_iff] at h
              obtain ⟨rfl, hfields⟩ := h
              exact .object hfields
          | _ => simp [Equal, eqv] at h
      | null | bool _ | int _ | char _ | str _ | classRef _ _ | path _ | enum _ _ =>
          exact absurd rfl hv
  · intro h
    cases h with
    | plain hv => exact (equal_iff_eq_of_isPlain hv).mpr rfl
    | float h => rw [Equal, eqv, beq_iff_eq, h]
    | array h | list h => rw [Equal, eqv, eqvList_iff]; exact h
    | map hlength hfound =>
        rw [Equal, eqv, Bool.and_eq_true, beq_iff_eq, eqvEntries_iff]
        exact ⟨hlength, hfound⟩
    | optional h => rw [Equal, eqv]; exact h
    | object h =>
        rw [Equal, eqv, Bool.and_eq_true, beq_iff_eq, eqvFields_iff]
        exact ⟨rfl, h⟩

/-! ## The laws at one level -/

namespace EqualBy

theorem refl (hrefl : ∀ w ∈ v.parts, r w w) : EqualBy r v v := by
  cases v with
  | float a => exact .float rfl
  | array vs => exact .array (List.forall₂_same.mpr hrefl)
  | list vs => exact .list (List.forall₂_same.mpr hrefl)
  | map es =>
      exact .map rfl fun e he => ⟨e, he, hrefl _ (key_mem_parts he), hrefl _ (held_mem_parts he)⟩
  | optional x =>
      cases x with
      | none => exact .plain rfl
      | some x => exact .optional (hrefl x (List.mem_singleton_self x))
  | object t fs =>
      exact .object (List.forall₂_same.mpr fun f hf => ⟨rfl, hrefl _ (field_mem_parts hf)⟩)
  | null | bool _ | int _ | char _ | str _ | classRef _ _ | path _ | enum _ _ => exact .plain rfl

theorem forall₂_trans {α : Type} {s : α → α → Prop} {as bs cs : List α}
    (htrans : ∀ a ∈ as, ∀ b c, s a b → s b c → s a c) (hab : List.Forall₂ s as bs)
    (hbc : List.Forall₂ s bs cs) : List.Forall₂ s as cs := by
  induction hab generalizing cs with
  | nil => exact hbc
  | cons h _ ih =>
      cases hbc with
      | cons h' hbc =>
          refine .cons (htrans _ List.mem_cons_self _ _ h h') (ih ?_ hbc)
          exact fun a ha => htrans a (List.mem_cons_of_mem _ ha)

theorem forall₂_symm {α : Type} {s : α → α → Prop} {as bs : List α}
    (hsymm : ∀ a ∈ as, ∀ b, s a b → s b a) (hab : List.Forall₂ s as bs) :
    List.Forall₂ s bs as := by
  have hswapped : List.Forall₂ (flip s) as bs :=
    ((List.forall₂_and_left as bs).mpr ⟨hsymm, hab⟩).imp fun _ b h => h.1 b h.2
  exact hswapped.flip

theorem trans (htrans : ∀ x ∈ u.parts, ∀ y z, r x y → r y z → r x z) (huv : EqualBy r u v)
    (hvw : EqualBy r v w) : EqualBy r u w := by
  cases huv with
  | plain hu => exact hvw
  | float h =>
      cases hvw with
      | plain hv => cases hv
      | float h' => exact .float (h.trans h')
  | array h =>
      cases hvw with
      | plain hv => cases hv
      | array h' => exact .array (forall₂_trans htrans h h')
  | list h =>
      cases hvw with
      | plain hv => cases hv
      | list h' => exact .list (forall₂_trans htrans h h')
  | map hlength hfound =>
      cases hvw with
      | plain hv => cases hv
      | map hlength' hfound' =>
          refine .map (hlength.trans hlength') fun e he => ?_
          obtain ⟨f, hf, hkey, hheld⟩ := hfound e he
          obtain ⟨g, hg, hkey', hheld'⟩ := hfound' f hf
          exact ⟨g, hg, htrans _ (key_mem_parts he) _ _ hkey hkey',
            htrans _ (held_mem_parts he) _ _ hheld hheld'⟩
  | optional h =>
      cases hvw with
      | plain hv => cases hv
      | optional h' => exact .optional (htrans _ (List.mem_singleton_self _) _ _ h h')
  | object h =>
      cases hvw with
      | plain hv => cases hv
      | object h' =>
          refine .object (forall₂_trans ?_ h h')
          rintro f hf g k ⟨hname, hheld⟩ ⟨hname', hheld'⟩
          exact ⟨hname.trans hname', htrans _ (field_mem_parts hf) _ _ hheld hheld'⟩

/-- Maps pair off if the keys of the first are apart: two entries that hit the same one have equal
keys themselves. -/
theorem exists_pairing_of_map (hsymm : ∀ e ∈ es, ∀ k, r e.1 k → r k e.1)
    (htrans : ∀ x y z, r x y → r y z → r x z) (hapart : es.Pairwise fun e f => ¬ r e.1 f.1)
    (h : EqualBy r (.map es) (.map fs)) :
    ∃ σ : Fin es.length ≃ Fin fs.length, ∀ i,
      r (es.get i).1 (fs.get (σ i)).1 ∧ r (es.get i).2 (fs.get (σ i)).2 := by
  cases h with
  | plain h => cases h
  | map hlength hfound =>
      refine exists_pairing hlength hfound (hapart.imp_of_mem ?_)
      rintro e e' he he' hne f ⟨hkey, -⟩ ⟨hkey', -⟩
      exact hne (htrans _ _ _ hkey (hsymm e' he' _ hkey'))

theorem symm (hsymm : ∀ x ∈ v.parts, ∀ y, r x y → r y x)
    (htrans : ∀ x y z, r x y → r y z → r x z)
    (hapart : ∀ es, v = .map es → es.Pairwise fun e f => ¬ r e.1 f.1) (h : EqualBy r v w) :
    EqualBy r w v := by
  cases h with
  | plain hv => exact .plain hv
  | float h => exact .float h.symm
  | array h => exact .array (forall₂_symm hsymm h)
  | list h => exact .list (forall₂_symm hsymm h)
  | @map es fs hlength hfound =>
      obtain ⟨σ, hσ⟩ := exists_pairing_of_map (fun e he => hsymm _ (key_mem_parts he)) htrans
        (hapart es rfl) (.map hlength hfound)
      refine .map hlength.symm fun f hf => ?_
      obtain ⟨j, rfl⟩ := List.get_of_mem hf
      -- the entry that was paired with this one
      have hmem : es.get (σ.symm j) ∈ es := es.get_mem _
      obtain ⟨hkey, hheld⟩ := hσ (σ.symm j)
      rw [Equiv.apply_symm_apply] at hkey hheld
      exact ⟨_, hmem, hsymm _ (key_mem_parts hmem) _ hkey, hsymm _ (held_mem_parts hmem) _ hheld⟩
  | optional h => exact .optional (hsymm _ (List.mem_singleton_self _) _ h)
  | object h =>
      refine .object (forall₂_symm ?_ h)
      rintro f hf g ⟨hname, hheld⟩
      exact ⟨hname.symm, hsymm _ (field_mem_parts hf) _ hheld⟩

theorem map_congr_left (hperm : es.Perm fs) (h : EqualBy r (.map es) w) : EqualBy r (.map fs) w := by
  cases h with
  | plain h => cases h
  | map hlength hfound =>
      exact .map (hperm.length_eq.symm.trans hlength) fun e he => hfound e (hperm.mem_iff.mpr he)

theorem map_congr_right (hperm : es.Perm fs) (h : EqualBy r v (.map es)) :
    EqualBy r v (.map fs) := by
  cases h with
  | plain h => cases h
  | map hlength hfound =>
      refine .map (hlength.trans hperm.length_eq) fun e he => ?_
      obtain ⟨f, hf, hsame⟩ := hfound e he
      exact ⟨f, hperm.mem_iff.mp hf, hsame⟩

end EqualBy

/-! ## The laws -/

theorem Equal.refl (v : Value) : v.Equal v := by
  induction v using parts_induction with
  | step v ih => exact equal_iff.mpr (.refl ih)

theorem Equal.trans (huv : u.Equal v) (hvw : v.Equal w) : u.Equal w := by
  -- on the first value: its parts are compared with parts of the others that are not known before
  induction u using parts_induction generalizing v w with
  | step u ih =>
      exact equal_iff.mpr ((equal_iff.mp huv).trans (fun x hx _ _ => ih x hx) (equal_iff.mp hvw))

/-- The keys of two entries are equal in neither direction. -/
def KeysApart (e f : Value × Value) : Prop := ¬ e.1.Equal f.1 ∧ ¬ f.1.Equal e.1

instance : DecidableRel KeysApart := fun _ _ => inferInstanceAs (Decidable (_ ∧ _))

instance : Std.Symm KeysApart := ⟨fun _ _ => And.symm⟩

/-- In no map in a value, however deep, do two entries have equal keys. -/
inductive KeysDistinct : Value → Prop where
  | mk {v : Value} (apart : ∀ es, v = map es → es.Pairwise KeysApart)
      (parts : ∀ w ∈ v.parts, w.KeysDistinct) : v.KeysDistinct

theorem KeysDistinct.of_parts_eq_nil (h : v.parts = []) : v.KeysDistinct := by
  refine .mk ?_ ?_
  · rintro es rfl
    rw [List.map_eq_nil_iff.mp (List.append_eq_nil_iff.mp h).1]
    exact .nil
  · rw [h]
    exact fun w hw => absurd hw List.not_mem_nil

theorem KeysDistinct.of_entries (apart : es.Pairwise KeysApart)
    (entries : ∀ e ∈ es, e.1.KeysDistinct ∧ e.2.KeysDistinct) : (map es).KeysDistinct := by
  refine .mk ?_ ?_
  · intro es' hes
    rwa [← map.inj hes]
  · intro w hw
    rcases List.mem_append.mp hw with hw | hw
    · obtain ⟨e, he, rfl⟩ := List.mem_map.mp hw
      exact (entries e he).1
    · obtain ⟨e, he, rfl⟩ := List.mem_map.mp hw
      exact (entries e he).2

theorem KeysDistinct.of_mem (hv : v.KeysDistinct) (hw : w ∈ v.parts) : w.KeysDistinct := by
  cases hv with
  | mk _ parts => exact parts w hw

theorem KeysDistinct.pairwise (h : (map es).KeysDistinct) : es.Pairwise KeysApart := by
  cases h with
  | mk apart _ => exact apart es rfl

theorem Equal.symm (hv : v.KeysDistinct) (h : v.Equal w) : w.Equal v := by
  -- only symmetry is carried by the induction: two entries may hit any entry of the other map, so
  -- transitivity is needed of keys that are no parts of this value
  induction hv generalizing w with
  | mk apart _ ih =>
      refine equal_iff.mpr ((equal_iff.mp h).symm (fun x hx _ => ih x hx)
        (fun _ _ _ => Equal.trans) ?_)
      exact fun es hes => (apart es hes).imp And.left

/-- With a key twice in one map, equality has a direction. -/
example : (map [(null, null), (null, null)]).Equal (map [(null, null), (bool true, null)]) ∧
    ¬ (map [(null, null), (bool true, null)]).Equal (map [(null, null), (null, null)]) := by
  decide +kernel

/-- The pairing of two equal maps, by equality itself. -/
theorem map_equal_iff (hes : (map es).KeysDistinct) :
    (map es).Equal (map fs) ↔ ∃ σ : Fin es.length ≃ Fin fs.length, ∀ i,
      (es.get i).1.Equal (fs.get (σ i)).1 ∧ (es.get i).2.Equal (fs.get (σ i)).2 := by
  constructor
  · intro h
    exact (equal_iff.mp h).exists_pairing_of_map
      (fun e he _ => Equal.symm (hes.of_mem (key_mem_parts he))) (fun _ _ _ => Equal.trans)
      (hes.pairwise.imp And.left)
  · rintro ⟨σ, hσ⟩
    have hlength : es.length = fs.length := by
      rw [← Fintype.card_fin es.length, ← Fintype.card_fin fs.length]
      exact Fintype.card_congr σ
    refine equal_iff.mpr (.map hlength fun e he => ?_)
    obtain ⟨i, rfl⟩ := List.get_of_mem he
    exact ⟨fs.get (σ i), fs.get_mem _, hσ i⟩

/-- The order of the entries does not matter to a map, on either side. -/
theorem map_equal_congr (hperm : es.Perm fs) (v : Value) :
    ((map es).Equal v ↔ (map fs).Equal v) ∧ (v.Equal (map es) ↔ v.Equal (map fs)) := by
  simp only [equal_iff]
  exact ⟨⟨.map_congr_left hperm, .map_congr_left hperm.symm⟩,
    ⟨.map_congr_right hperm, .map_congr_right hperm.symm⟩⟩

/-- All doubles that are no number are equal, and all others are so by their bits. -/
theorem float_equal_iff {a b : UInt64} : (float a).Equal (float b) ↔
    a = b ∨ Decimal.Binary.isNaN a = true ∧ Decimal.Binary.isNaN b = true := by
  have hcanonical : Decimal.Binary.isNaN 0x7ff8000000000000 = true := by decide
  rw [Equal, eqv, beq_iff_eq, canonicalBits, canonicalBits]
  by_cases ha : Decimal.Binary.isNaN a = true
  · by_cases hb : Decimal.Binary.isNaN b = true
    · simp [ha, hb]
    · have hne : a ≠ b := fun h => hb (h ▸ ha)
      have hne' : 0x7ff8000000000000 ≠ b := fun h => hb (h ▸ hcanonical)
      simp [ha, hb, hne, hne']
  · by_cases hb : Decimal.Binary.isNaN b = true
    · have hne : a ≠ b := fun h => ha (h ▸ hb)
      have hne' : a ≠ 0x7ff8000000000000 := fun h => ha (h ▸ hcanonical)
      simp [ha, hb, hne, hne']
    · simp [ha, hb]

/-- **Equality of values is an equality.** Among the values without maps in which two entries have
equal keys it is reflexive, symmetric and transitive. All doubles that are no number are one and
the same value, while zero and negative zero are two. Two such maps are equal exactly if their
entries pair off one to one, equal keys with equal keys and what they hold with what they hold, and
so the order of the entries never matters. -/
theorem equality_laws :
    (Equivalence fun v w : {v : Value // v.KeysDistinct} => v.val.Equal w.val) ∧
    (∀ a b, (float a).Equal (float b) ↔
      a = b ∨ Decimal.Binary.isNaN a = true ∧ Decimal.Binary.isNaN b = true) ∧
    (∀ a b, Decimal.Binary.ofBits a = .zero false → Decimal.Binary.ofBits b = .zero true →
      ¬ (float a).Equal (float b)) ∧
    (∀ es fs, (map es).KeysDistinct → (map fs).KeysDistinct →
      ((map es).Equal (map fs) ↔ ∃ σ : Fin es.length ≃ Fin fs.length, ∀ i,
        (es.get i).1.Equal (fs.get (σ i)).1 ∧ (es.get i).2.Equal (fs.get (σ i)).2)) ∧
    ∀ es fs, es.Perm fs → ∀ v,
      ((map es).Equal v ↔ (map fs).Equal v) ∧ (v.Equal (map es) ↔ v.Equal (map fs)) := by
  refine ⟨⟨?_, ?_, ?_⟩, ?_, ?_, ?_, ?_⟩
  · intro v
    exact Equal.refl v.val
  · intro v w h
    exact Equal.symm v.property h
  · intro u v w huv hvw
    exact huv.trans hvw
  · intro a b
    exact float_equal_iff
  · intro a b ha hb h
    rcases float_equal_iff.mp h with rfl | ⟨hnan, -⟩
    · rw [ha] at hb
      cases hb
    · rw [Decimal.Binary.isNaN, ha] at hnan
      cases hnan
  · intro es fs hes _
    exact map_equal_iff hes
  · intro es fs hperm v
    exact map_equal_congr hperm v

end Value

namespace Sample

/-- Readings, of which one is no number and one a map. -/
def readings : List (Value × Value) :=
  [(.str "low", .float 0x7ff8000000000000), (.optional (some (.int 1)), .map [(.char 'a', .null)])]

/-- The same, in the other order and with other bits for what is no number. -/
def readingsAgain : List (Value × Value) :=
  [(.optional (some (.int 1)), .map [(.char 'a', .null)]), (.str "low", .float 0xfff0000000000001)]

theorem keysDistinct_nested : (Value.map [(.char 'a', .null)]).KeysDistinct :=
  .of_entries (List.pairwise_singleton _ _)
    (List.forall_mem_singleton.mpr ⟨.of_parts_eq_nil rfl, .of_parts_eq_nil rfl⟩)

theorem keysDistinct_one : (Value.optional (some (.int 1))).KeysDistinct := by
  refine .mk (fun es hes => nomatch hes) ?_
  exact List.forall_mem_singleton.mpr (.of_parts_eq_nil rfl)

theorem keysDistinct_readings : (Value.map readings).KeysDistinct := by
  refine .of_entries (by decide +kernel) ?_
  refine List.forall_mem_cons.mpr ⟨⟨.of_parts_eq_nil rfl, .of_parts_eq_nil rfl⟩, ?_⟩
  exact List.forall_mem_singleton.mpr ⟨keysDistinct_one, keysDistinct_nested⟩

theorem keysDistinct_readingsAgain : (Value.map readingsAgain).KeysDistinct := by
  refine .of_entries (by decide +kernel) ?_
  refine List.forall_mem_cons.mpr ⟨⟨keysDistinct_one, keysDistinct_nested⟩, ?_⟩
  exact List.forall_mem_singleton.mpr ⟨.of_parts_eq_nil rfl, .of_parts_eq_nil rfl⟩

end Sample

/-- The readings are equal to themselves in the other order. -/
theorem Value.equality_laws_readings :
    (Value.map Sample.readings).KeysDistinct ∧ (Value.map Sample.readingsAgain).KeysDistinct ∧
      (∃ σ : Fin 2 ≃ Fin 2, ∀ i,
        (Sample.readings.get i).1.Equal (Sample.readingsAgain.get (σ i)).1 ∧
          (Sample.readings.get i).2.Equal (Sample.readingsAgain.get (σ i)).2) ∧
      (Value.map Sample.readingsAgain).Equal (.map Sample.readings) := by
  have hequal : (Value.map Sample.readings).Equal (.map Sample.readingsAgain) := by decide +kernel
  obtain ⟨hequivalence, -, -, hpairs, -⟩ := Value.equality_laws
  have hpaired := (hpairs _ _ Sample.keysDistinct_readings Sample.keysDistinct_readingsAgain).mp hequal
  have hback := hequivalence.symm (x := ⟨_, Sample.keysDistinct_readings⟩)
    (y := ⟨_, Sample.keysDistinct_readingsAgain⟩) hequal
  exact ⟨Sample.keysDistinct_readings, Sample.keysDistinct_readingsAgain, hpaired, hback⟩

end AssertionGen
