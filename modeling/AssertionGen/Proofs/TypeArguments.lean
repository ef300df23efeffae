import AssertionGen.Check.Conformance
import Mathlib.Logic.Relation
/-!
# Following type arguments

A variable stands for the type that is bound to it, and a wildcard for its bound. The way from a type to
what it stands for never forks (`LeadsTo.unique`), so it either comes to an end or into a circle.
`demand?` says which (`asks_demand?`): it gives no answer exactly where a variable on the way reaches
itself, and otherwise asks for what stands at the end.

Without circles every way ends (`Acyclic.acc_leadsTo`). A type with a shape of its own is an end, so a
variable may well be bound to a list of itself (`acyclic_of_isRigid`).
-/

namespace AssertionGen

open Relation

/-- Whether a type has a shape of its own. -/
def JavaType.isRigid : JavaType → Bool
  | .typeVariable _ | .wildcard _ | .verbatim _ => false
  | _ => true

/-- What a type asks for if it leads no further. -/
def JavaType.ownDemand (t : JavaType) : Demand := if t.isRigid then .shape t else .anything

namespace TypeArguments

/-- A bound variable leads to its binding, and a wildcard to its bound. -/
inductive LeadsTo (bind : TypeArguments) : JavaType → JavaType → Prop where
  | binding {n : String} {t : JavaType} (h : bind.get? n = some t) : LeadsTo bind (.typeVariable n) t
  | bound (u : JavaType) : LeadsTo bind (.wildcard (some u)) u

/-- The type leads no further. -/
def Ends (bind : TypeArguments) (t : JavaType) : Prop := ∀ u, ¬ bind.LeadsTo t u

/-- No variable reaches itself through variables and wildcards alone. -/
def Acyclic (bind : TypeArguments) : Prop :=
  ∀ n, ¬ TransGen bind.LeadsTo (.typeVariable n) (.typeVariable n)

variable {bind : TypeArguments} {t u w : JavaType} {n : String}

/-! ## Steps -/

theorem LeadsTo.unique (hu : bind.LeadsTo t u) (hw : bind.LeadsTo t w) : u = w := by
  cases hu with
  | binding h =>
      cases hw with
      | binding h' =>
          rw [h] at h'
          exact Option.some.inj h'
  | bound u =>
      cases hw with
      | bound w => rfl

theorem rightUnique_leadsTo (bind : TypeArguments) : Relator.RightUnique bind.LeadsTo :=
  fun _ _ _ => LeadsTo.unique

theorem ends_of_isRigid (h : t.isRigid = true) : bind.Ends t := by
  intro u hstep
  cases hstep <;> cases h

theorem ends_of_unbound (h : bind.get? n = none) : bind.Ends (.typeVariable n) := by
  intro u hstep
  cases hstep with
  | binding hsome =>
      rw [h] at hsome
      cases hsome

/-! ## Ends and circles -/

theorem Ends.eq_of_reaches (h : bind.Ends t) (hreach : ReflTransGen bind.LeadsTo t u) : t = u := by
  rcases ReflTransGen.cases_head hreach with heq | ⟨x, hstep, -⟩
  · exact heq
  · exact absurd hstep (h x)

theorem Ends.not_cycle (h : bind.Ends t) : ¬ TransGen bind.LeadsTo t t := by
  intro hcycle
  obtain ⟨u, hstep, -⟩ := TransGen.head'_iff.mp hcycle
  exact h u hstep

/-- There is one end of a way. -/
theorem Ends.unique (hu : bind.Ends u) (hw : bind.Ends w) (htu : ReflTransGen bind.LeadsTo t u)
    (htw : ReflTransGen bind.LeadsTo t w) : u = w := by
  rcases ReflTransGen.total_of_right_unique (rightUnique_leadsTo bind) htu htw with h | h
  · exact hu.eq_of_reaches h
  · exact (hw.eq_of_reaches h).symm

/-- A way that ends does not begin in a circle. -/
theorem Ends.not_cycle_before (h : bind.Ends u) (hreach : ReflTransGen bind.LeadsTo t u) :
    ¬ TransGen bind.LeadsTo t t := by
  induction hreach using ReflTransGen.head_induction_on with
  | refl => exact h.not_cycle
  | @head a c hstep hreach ih =>
      -- the circle takes the same first step, so it could begin one step later
      intro hcycle
      obtain ⟨w, hfirst, hback⟩ := TransGen.head'_iff.mp hcycle
      obtain rfl := hstep.unique hfirst
      exact ih (TransGen.tail' hback hstep)

/-- A way that ends does not come into a circle. -/
theorem Ends.not_cycle_on_way (h : bind.Ends u) (htu : ReflTransGen bind.LeadsTo t u)
    (htw : ReflTransGen bind.LeadsTo t w) : ¬ TransGen bind.LeadsTo w w := by
  rcases ReflTransGen.total_of_right_unique (rightUnique_leadsTo bind) htu htw with huw | hwu
  · rw [← h.eq_of_reaches huw]
    exact h.not_cycle
  · exact h.not_cycle_before hwu

/-! ## Demands -/

/-- What a type asks for: nothing has a meaning if the way from it comes into a circle, and otherwise
the end of the way decides. -/
inductive Asks (bind : TypeArguments) (t : JavaType) : Option Demand → Prop where
  | circular {n : String} (hreach : ReflTransGen bind.LeadsTo t (.typeVariable n))
      (hcycle : TransGen bind.LeadsTo (.typeVariable n) (.typeVariable n)) : Asks bind t none
  | ends {u : JavaType} (hreach : ReflTransGen bind.LeadsTo t u) (hend : bind.Ends u) :
      Asks bind t (some u.ownDemand)

theorem Asks.head {d : Option Demand} (hstep : bind.LeadsTo t u) (h : bind.Asks u d) :
    bind.Asks t d := by
  cases h with
  | circular hreach hcycle => exact .circular (.head hstep hreach) hcycle
  | ends hreach hend => exact .ends (.head hstep hreach) hend

/-- A type asks for one thing. -/
theorem Asks.unique {d e : Option Demand} (hd : bind.Asks t d) (he : bind.Asks t e) : d = e := by
  cases hd with
  | circular hreach hcycle =>
      cases he with
      | circular _ _ => rfl
      | ends hreach' hend => exact absurd hcycle (hend.not_cycle_on_way hreach' hreach)
  | ends hreach hend =>
      cases he with
      | circular hreach' hcycle => exact absurd hcycle (hend.not_cycle_on_way hreach hreach')
      | ends hreach' hend' => rw [hend.unique hend' hreach hreach']

/-- `demand?` remembers the variables behind it, each of which leads to where it stands. -/
theorem asks_demand?_of_used {pending : TypeArguments} {used : List String}
    (hpending : ∀ m, pending.get? m = if m ∈ used then none else bind.get? m)
    (hused : ∀ m ∈ used, TransGen bind.LeadsTo (.typeVariable m) t) :
    bind.Asks t (demand? pending used t) := by
  fun_induction demand? pending used t with
  | case1 pending used n hn => exact .circular .refl (hused n hn)
  | case2 pending used n hn hget =>
      rw [hpending, if_neg hn] at hget
      exact .ends .refl (ends_of_unbound hget)
  | case3 pending used n hn t hget ih =>
      have hbind : bind.get? n = some t := by
        rw [← hget, hpending, if_neg hn]
      refine .head (.binding hbind) (ih (fun m => ?_) fun m hm => ?_)
      · rw [Entries.get?_without, hpending]
        by_cases hmn : m = n <;> simp [hmn]
      · rcases List.mem_cons.mp hm with rfl | hm
        · exact .single (.binding hbind)
        · exact (hused m hm).tail (.binding hbind)
  | case4 pending used => exact .ends .refl fun u hstep => by cases hstep
  | case5 pending used n => exact .ends .refl fun u hstep => by cases hstep
  | case6 pending used u ih =>
      exact .head (.bound u) (ih hpending fun m hm => (hused m hm).tail (.bound u))
  | case7 pending used t hvariable hnone hverbatim hsome =>
      have hrigid : t.isRigid = true := by
        cases t with
        | typeVariable n => exact absurd rfl (hvariable n)
        | wildcard upper =>
            cases upper with
            | none => exact absurd rfl hnone
            | some u => exact absurd rfl (hsome u)
        | verbatim n => exact absurd rfl (hverbatim n)
        | _ => rfl
      have hdemand : t.ownDemand = .shape t := if_pos hrigid
      rw [← hdemand]
      exact .ends .refl (ends_of_isRigid hrigid)

theorem asks_demand? (bind : TypeArguments) (t : JavaType) : bind.Asks t (demand? bind [] t) :=
  asks_demand?_of_used (fun m => by simp) fun m hm => absurd hm List.not_mem_nil

theorem demand?_of_leadsTo (h : bind.LeadsTo t u) : demand? bind [] t = demand? bind [] u :=
  (asks_demand? bind t).unique ((asks_demand? bind u).head h)

theorem demand?_of_ends (h : bind.Ends t) : demand? bind [] t = some t.ownDemand :=
  (asks_demand? bind t).unique (.ends .refl h)

theorem demand?_of_cycle (h : TransGen bind.LeadsTo (.typeVariable n) (.typeVariable n)) :
    demand? bind [] (.typeVariable n) = none :=
  (asks_demand? bind _).unique (.circular .refl h)

/-! ## Without circles -/

/-- Without circles every way ends. -/
theorem Acyclic.acc_leadsTo (h : bind.Acyclic) (t : JavaType) :
    Acc (fun u t => bind.LeadsTo t u) t := by
  have hend : ∃ u, ReflTransGen bind.LeadsTo t u ∧ bind.Ends u := by
    have hasks := asks_demand? bind t
    generalize demand? bind [] t = d at hasks
    cases hasks with
    | circular hreach hcycle => exact absurd hcycle (h _)
    | ends hreach hend => exact ⟨_, hreach, hend⟩
  obtain ⟨u, hreach, hend⟩ := hend
  induction hreach using ReflTransGen.head_induction_on with
  | refl => exact .intro _ fun x hx => absurd hx (hend x)
  | head hstep hreach ih =>
      refine .intro _ fun x hx => ?_
      rw [← hstep.unique hx]
      exact ih

/-- Types with a shape of their own lead nowhere, so bindings to such types come into no circle. -/
theorem acyclic_of_isRigid (h : ∀ n t, bind.get? n = some t → t.isRigid = true) : bind.Acyclic := by
  intro n hcycle
  obtain ⟨t, hstep, hback⟩ := TransGen.head'_iff.mp hcycle
  cases hstep with
  | binding hget =>
      have hrigid : t.isRigid = true := h n t hget
      have hself : t = .typeVariable n := (ends_of_isRigid hrigid).eq_of_reaches hback
      rw [hself] at hrigid
      cases hrigid

end TypeArguments

end AssertionGen
