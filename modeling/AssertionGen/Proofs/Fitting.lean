import AssertionGen.Proofs.Calls
import AssertionGen.Proofs.TypeArguments
/-!
# Checks that end

Whether a value fits a type is asked again and again: of the type that a variable is bound to, of the
bound of a wildcard, and of the elements of an array or a list. A binding keeps the value and may make
the type larger, elements make the value smaller, so neither the value nor the type alone says that the
questions end. `TypeArguments.Calls` has the questions to which a question may lead, and
`TypeArguments.Fits` an answer with all the answers behind it, in the order in which they are asked for.

Where no variable reaches itself through variables and wildcards alone, following ends before the
elements are gone into, and they can be gone into as deep as the value is (`wellFounded_calls`). The
test of a value says what the answer is, and nothing where there is none (`conforms?_eq_some_iff`). A
call of a method asks nothing but this of its arguments, so it ends as well (`checks_end_iff`).
-/

namespace AssertionGen

open Relation

/-- The elements of a value that must fit in turn if it is to fit a type, and the type for them. -/
def Value.elementsFor? : Value → JavaType → Option (List Value × JavaType)
  | .array vs, .array e => some (vs, e)
  | .list vs, .collection _ (some e) | .list vs, .stream _ (some e) => some (vs, e)
  | _, _ => none

namespace TypeArguments

variable {bind : TypeArguments} {t u e : JavaType} {n : String} {v w : Value} {ws : List Value}
  {b c : Bool}

/-! ## Questions -/

/-- The questions to which the question leads whether a value fits a type. -/
inductive Calls (bind : TypeArguments) : Value × JavaType → Value × JavaType → Prop where
  | follow {v : Value} {t u : JavaType} (h : bind.LeadsTo t u) : Calls bind (v, t) (v, u)
  | element {v w : Value} {ws : List Value} {t e : JavaType}
      (h : v.elementsFor? t = some (ws, e)) (hw : w ∈ ws) : Calls bind (v, t) (w, e)

theorem isRigid_of_elementsFor? (h : v.elementsFor? t = some (ws, e)) : t.isRigid = true := by
  unfold Value.elementsFor? at h
  split at h
  · rfl
  · rfl
  · rfl
  · cases h

theorem sizeOf_element_lt (h : v.elementsFor? t = some (ws, e)) (hw : w ∈ ws) :
    sizeOf w < sizeOf v := by
  have hlt := List.sizeOf_lt_of_mem hw
  unfold Value.elementsFor? at h
  split at h
  · cases h
    simp only [Value.array.sizeOf_spec]
    omega
  · cases h
    simp only [Value.list.sizeOf_spec]
    omega
  · cases h
    simp only [Value.list.sizeOf_spec]
    omega
  · cases h

/-- Without circles the questions end: following keeps the value and ends, and elements are smaller. -/
theorem Acyclic.wellFounded_calls (h : bind.Acyclic) :
    WellFounded fun q p => bind.Calls p q := by
  refine ⟨fun (v, t) => ?_⟩
  induction hsize : sizeOf v using Nat.strongRecOn generalizing v t with
  | ind size ih =>
      subst hsize
      induction h.acc_leadsTo t with
      | intro t _ ihway =>
          refine .intro _ fun q hq => ?_
          cases hq with
          | follow hstep => exact ihway _ hstep
          | element helements hw => exact ih _ (sizeOf_element_lt helements hw) _ _ rfl

/-! ## Answers -/

/-- Whether a value fits a type, with all that has to be asked for the answer. Elements are asked for
one after the other, and the first that does not fit decides. -/
inductive Fits (bind : TypeArguments) : Value → JavaType → Bool → Prop where
  | follow {v : Value} {t u : JavaType} {b : Bool} (h : bind.LeadsTo t u) (hu : Fits bind v u b) :
      Fits bind v t b
  /-- An unbound variable, a wildcard without a bound or a type that could not be described. -/
  | anything {v : Value} {t : JavaType} (hend : bind.Ends t) (ht : t.isRigid = false) :
      Fits bind v t true
  | all {v : Value} {ws : List Value} {t e : JavaType} (h : v.elementsFor? t = some (ws, e))
      (hws : ∀ w ∈ ws, Fits bind w e true) : Fits bind v t true
  | first {v w : Value} {before after : List Value} {t e : JavaType}
      (h : v.elementsFor? t = some (before ++ w :: after, e))
      (hbefore : ∀ x ∈ before, Fits bind x e true) (hw : Fits bind w e false) : Fits bind v t false
  | shape {v : Value} {t : JavaType} (ht : t.isRigid = true) (h : v.elementsFor? t = none) :
      Fits bind v t (v.hasShape t)

theorem all_true_or_first_false {α : Type} {p : α → Bool → Prop} {xs : List α}
    (h : ∀ x ∈ xs, ∃ b, p x b) :
    (∀ x ∈ xs, p x true) ∨
      ∃ before x after, xs = before ++ x :: after ∧ (∀ y ∈ before, p y true) ∧ p x false := by
  induction xs with
  | nil => exact .inl fun x hx => absurd hx List.not_mem_nil
  | cons x xs ih =>
      obtain ⟨b, hb⟩ := h x List.mem_cons_self
      cases b with
      | false => exact .inr ⟨[], x, xs, rfl, fun y hy => absurd hy List.not_mem_nil, hb⟩
      | true =>
          rcases ih fun y hy => h y (List.mem_cons_of_mem _ hy) with
            hall | ⟨before, y, after, rfl, hbefore, hy⟩
          · exact .inl (List.forall_mem_cons.mpr ⟨hb, hall⟩)
          · exact .inr ⟨x :: before, y, after, rfl, List.forall_mem_cons.mpr ⟨hb, hbefore⟩, hy⟩

/-- If questions end, they have answers. -/
theorem exists_fits (h : WellFounded fun q p => bind.Calls p q) (v : Value) (t : JavaType) :
    ∃ b, bind.Fits v t b := by
  suffices hall : ∀ q : Value × JavaType, ∃ b, bind.Fits q.1 q.2 b from hall (v, t)
  intro q
  induction q using h.induction with
  | _ q ih =>
      obtain ⟨v, t⟩ := q
      by_cases hnext : ∃ u, bind.LeadsTo t u
      · obtain ⟨u, hstep⟩ := hnext
        obtain ⟨b, hb⟩ := ih (v, u) (.follow hstep)
        exact ⟨b, .follow hstep hb⟩
      · cases hrigid : t.isRigid with
        | false => exact ⟨true, .anything (fun u hu => hnext ⟨u, hu⟩) hrigid⟩
        | true =>
            cases helements : v.elementsFor? t with
            | none => exact ⟨_, .shape hrigid helements⟩
            | some found =>
                obtain ⟨ws, e⟩ := found
                have hws : ∀ w ∈ ws, ∃ b, bind.Fits w e b := fun w hw =>
                  ih (w, e) (.element helements hw)
                rcases all_true_or_first_false hws with hall | ⟨before, w, after, rfl, hbefore, hw⟩
                · exact ⟨true, .all helements hall⟩
                · exact ⟨false, .first helements hbefore hw⟩

theorem Fits.of_reaches (hreach : ReflTransGen bind.LeadsTo t u) (h : bind.Fits v u b) :
    bind.Fits v t b := by
  induction hreach using ReflTransGen.head_induction_on with
  | refl => exact h
  | head hstep hreach ih => exact .follow hstep ih

/-! ## The test of a value -/

/-- What the test says of a value from which something is demanded. -/
def answer? (bind : TypeArguments) (v : Value) : Option Demand → Option Bool
  | none => none
  | some .anything => some true
  | some (.shape s) =>
    match v.elementsFor? s with
    | some (ws, e) => Value.allConform? bind ws e
    | none => some (v.hasShape s)

theorem conforms?_eq (bind : TypeArguments) (v : Value) (t : JavaType) :
    v.conforms? bind t = answer? bind v (demand? bind [] t) := by
  unfold Value.conforms?
  cases demand? bind [] t with
  | none => rfl
  | some d =>
      cases d with
      | anything => rfl
      | shape s =>
          cases v with
          | array vs => cases s <;> rfl
          | list vs =>
              cases s with
              | collection k e => cases e <;> rfl
              | stream k e => cases e <;> rfl
              | _ => rfl
          | _ => rfl

theorem conforms?_of_rigid (h : t.isRigid = true) :
    v.conforms? bind t = answer? bind v (some (.shape t)) := by
  rw [TypeArguments.conforms?_eq, demand?_of_ends (ends_of_isRigid h), JavaType.ownDemand, if_pos h]

theorem conforms?_of_anything (hend : bind.Ends t) (h : t.isRigid = false) :
    v.conforms? bind t = some true := by
  rw [TypeArguments.conforms?_eq, demand?_of_ends hend, JavaType.ownDemand, h]
  rfl

theorem conforms?_of_leadsTo (h : bind.LeadsTo t u) : v.conforms? bind t = v.conforms? bind u := by
  rw [TypeArguments.conforms?_eq, TypeArguments.conforms?_eq, demand?_of_leadsTo h]

theorem conforms?_of_reaches (h : ReflTransGen bind.LeadsTo t u) :
    v.conforms? bind t = v.conforms? bind u := by
  induction h using ReflTransGen.head_induction_on with
  | refl => rfl
  | head hstep hreach ih => rw [conforms?_of_leadsTo hstep, ih]

theorem allConform?_eq_true_iff :
    Value.allConform? bind ws e = some true ↔ ∀ w ∈ ws, w.conforms? bind e = some true := by
  induction ws with
  | nil => simp [Value.allConform?]
  | cons w ws ih =>
      rw [Value.allConform?, List.forall_mem_cons, ← ih]
      cases w.conforms? bind e with
      | none => simp
      | some b => cases b <;> simp

theorem allConform?_of_first {before after : List Value}
    (hbefore : ∀ x ∈ before, x.conforms? bind e = some true) (hw : w.conforms? bind e = some false) :
    Value.allConform? bind (before ++ w :: after) e = some false := by
  induction before with
  | nil => rw [List.nil_append, Value.allConform?, hw]
  | cons x before ih =>
      rw [List.forall_mem_cons] at hbefore
      rw [List.cons_append, Value.allConform?, hbefore.1]
      exact ih hbefore.2

theorem exists_first_of_allConform? (h : Value.allConform? bind ws e = some false) :
    ∃ before w after, ws = before ++ w :: after ∧
      (∀ x ∈ before, x.conforms? bind e = some true) ∧ w.conforms? bind e = some false := by
  induction ws with
  | nil => cases h
  | cons w ws ih =>
      rw [Value.allConform?] at h
      cases hw : w.conforms? bind e with
      | none => simp [hw] at h
      | some b =>
          cases b with
          | false => exact ⟨[], w, ws, rfl, fun x hx => absurd hx List.not_mem_nil, hw⟩
          | true =>
              rw [hw] at h
              obtain ⟨before, x, after, rfl, hbefore, hx⟩ := ih h
              exact ⟨w :: before, x, after, rfl, List.forall_mem_cons.mpr ⟨hw, hbefore⟩, hx⟩

/-- The test says what the answer is. -/
theorem Fits.conforms?_eq (h : bind.Fits v t b) : v.conforms? bind t = some b := by
  induction h with
  | follow hstep hu ih => rw [conforms?_of_leadsTo hstep, ih]
  | anything hend ht => exact conforms?_of_anything hend ht
  | all helements hws ih =>
      rw [conforms?_of_rigid (isRigid_of_elementsFor? helements), answer?, helements]
      exact allConform?_eq_true_iff.mpr ih
  | first helements hbefore hw ihbefore ihw =>
      rw [conforms?_of_rigid (isRigid_of_elementsFor? helements), answer?, helements]
      exact allConform?_of_first ihbefore ihw
  | shape hrigid helements => rw [conforms?_of_rigid hrigid, answer?, helements]

/-- What the test says is an answer. -/
theorem fits_of_conforms? (h : v.conforms? bind t = some b) : bind.Fits v t b := by
  induction hsize : sizeOf v using Nat.strongRecOn generalizing v t b with
  | ind size ih =>
      subst hsize
      have hasks := asks_demand? bind t
      generalize hd : demand? bind [] t = d at hasks
      cases hasks with
      | circular hreach hcycle =>
          rw [TypeArguments.conforms?_eq, hd] at h
          cases h
      | @ends u hreach hend =>
          refine .of_reaches hreach ?_
          rw [conforms?_of_reaches hreach] at h
          cases hrigid : u.isRigid with
          | false =>
              rw [conforms?_of_anything hend hrigid] at h
              cases h
              exact .anything hend hrigid
          | true =>
              rw [conforms?_of_rigid hrigid, answer?] at h
              cases helements : v.elementsFor? u with
              | none =>
                  rw [helements] at h
                  cases h
                  exact .shape hrigid helements
              | some found =>
                  obtain ⟨ws, e⟩ := found
                  rw [helements] at h
                  have hinner : ∀ w ∈ ws, ∀ c, w.conforms? bind e = some c → bind.Fits w e c :=
                    fun w hw c hc => ih _ (sizeOf_element_lt helements hw) hc rfl
                  cases b with
                  | true =>
                      have hws := allConform?_eq_true_iff.mp h
                      exact .all helements fun w hw => hinner w hw true (hws w hw)
                  | false =>
                      obtain ⟨before, w, after, rfl, hbefore, hw⟩ := exists_first_of_allConform? h
                      refine .first helements (fun x hx => ?_) (hinner w (by simp) false hw)
                      exact hinner x (by simp [hx]) true (hbefore x hx)

theorem conforms?_eq_some_iff : v.conforms? bind t = some b ↔ bind.Fits v t b :=
  ⟨fits_of_conforms?, Fits.conforms?_eq⟩

/-- In a circle nothing has an answer. -/
theorem not_fits_of_cycle (h : TransGen bind.LeadsTo (.typeVariable n) (.typeVariable n)) :
    ¬ bind.Fits v (.typeVariable n) b := by
  intro hfits
  have hanswer := hfits.conforms?_eq
  rw [TypeArguments.conforms?_eq, demand?_of_cycle h] at hanswer
  cases hanswer

end TypeArguments

/-! ## Calls of methods -/

namespace Runner

variable {bind : TypeArguments} {method name : String} {r : Runner} {m : Method} {args : List Value}
  {v : Value}

/-- Only a question without an answer makes a check of types end without one. -/
theorem exists_of_checkTypes_circular {ps : List Parameter}
    (h : checkTypes bind method ps args = .error (.circularTypeArguments name v)) :
    ∃ p : Parameter, v.conforms? bind p.type = none := by
  fun_induction checkTypes bind method ps args with
  | case1 => cases h
  | case2 => cases h
  | case3 p ps w args hfits ih => exact ih h
  | case4 => cases h
  | case5 p ps w args hnone =>
      cases h
      exact ⟨p, hnone⟩

/-- Containment is asserted on a handle that has elements. -/
theorem elements_contained (displayName : String) (kind : HandleKind) (v : Value) (op : Operation) :
    Handle.elements ⟨displayName, contained kind, v⟩ op = .ok v.elements? := by
  cases kind <;> rfl

/-- On the value of a property every body comes to an outcome. -/
theorem exists_runOn_eq_ok (m : Method) (args : List Value) (v : Value) :
    ∃ outcome, runOn m args v = .ok outcome := by
  unfold runOn
  cases m.body with
  | truthy a negated boxed => exact ⟨_, rfl⟩
  | equals a t nullSensitive =>
      cases args with
      | nil => exact ⟨_, rfl⟩
      | cons expected rest => exact ⟨_, rfl⟩
  | delegate a t kind => exact ⟨_, rfl⟩
  | contains a kind mode =>
      cases mode with
      | atLeast =>
          simp only [Handle.containsAtLeast, elements_contained]
          cases v.elements? <;> exact ⟨_, rfl⟩
      | noneOf =>
          simp only [Handle.containsNoneOf, elements_contained]
          cases v.elements? <;> exact ⟨_, rfl⟩
  | constant c negated => exact ⟨_, rfl⟩

/-- All that a method can miss once its arguments are checked is the property. -/
theorem exists_of_run_eq_error {e : Misuse} (h : r.run m args = .error e) :
    ∃ accessor, e = .missingProperty accessor := by
  cases haccess : m.body.access? with
  | none =>
      unfold run at h
      cases hbody : m.body with
      | constant c negated =>
          rw [hbody] at h
          cases h
      | _ => rw [hbody] at haccess; cases haccess
  | some a =>
      rw [run_of_access haccess] at h
      split at h
      · cases h
      · unfold property at h
        cases hfield : r.actual.field? a.accessor with
        | none =>
            rw [hfield] at h
            cases h
            exact ⟨_, rfl⟩
        | some v =>
            obtain ⟨outcome, houtcome⟩ := exists_runOn_eq_ok m args v
            have hok : runOn m args v = .error e := by rw [hfield] at h; exact h
            rw [houtcome] at hok
            cases hok

/-- A call has no end only if the question has none whether some argument fits some parameter. -/
theorem exists_of_invoke_circular
    (h : r.invoke name args = .error (.circularTypeArguments method v)) :
    ∃ p : Parameter, v.conforms? r.typeArguments p.type = none := by
  unfold invoke at h
  cases hmethod : r.subject.method? name with
  | none => rw [hmethod] at h; cases h
  | some m =>
      rw [hmethod] at h
      cases hargs : r.checkArguments m args with
      | ok accepted =>
          have hrun : r.run m args = .error (.circularTypeArguments method v) := by
            simp only [hargs] at h
            exact h
          obtain ⟨accessor, hmissing⟩ := exists_of_run_eq_error hrun
          cases hmissing
      | error e =>
          simp only [hargs] at h
          obtain rfl : e = .circularTypeArguments method v := Except.error.inj h
          unfold checkArguments at hargs
          split at hargs
          · cases hargs
          · exact exists_of_checkTypes_circular hargs

end Runner

/-- **Checks of arguments end.** Whether a value fits a type is answered by asking on, and what the test
says is the answer there is. If no variable reaches itself through variables and wildcards alone, then
every chain of questions ends, every question has one answer, and every call of a method ends, whatever
the subject, the value and the arguments are; this is so for all bindings to types with a shape of their
own, though they may have the variable inside. And it is only then that all questions have answers. -/
theorem checks_end_iff (bind : TypeArguments) :
    (∀ v t b, v.conforms? bind t = some b ↔ bind.Fits v t b) ∧
      (bind.Acyclic → WellFounded fun q p => bind.Calls p q) ∧
      (bind.Acyclic ↔ ∀ v t, ∃! b, bind.Fits v t b) ∧
      (bind.Acyclic → ∀ (s : Subject) (actual : Value) (name : String) (args : List Value),
        ∀ method v, Runner.invoke ⟨s, actual, bind⟩ name args ≠
          .error (.circularTypeArguments method v)) ∧
      ((∀ n t, bind.get? n = some t → t.isRigid = true) → bind.Acyclic) := by
  have htotal : bind.Acyclic → ∀ v t, ∃ b, bind.Fits v t b := fun h =>
    TypeArguments.exists_fits h.wellFounded_calls
  refine ⟨fun _ _ _ => TypeArguments.conforms?_eq_some_iff,
    TypeArguments.Acyclic.wellFounded_calls, ⟨fun h v t => ?_, fun h n hcycle => ?_⟩, ?_,
    TypeArguments.acyclic_of_isRigid⟩
  · obtain ⟨b, hb⟩ := htotal h v t
    refine ⟨b, hb, fun c hc => ?_⟩
    exact Option.some.inj (hc.conforms?_eq.symm.trans hb.conforms?_eq)
  · obtain ⟨b, hb, -⟩ := h .null (.typeVariable n)
    exact TypeArguments.not_fits_of_cycle hcycle hb
  · intro h s actual name args method v hcall
    obtain ⟨p, hnone⟩ := Runner.exists_of_invoke_circular hcall
    obtain ⟨b, hb⟩ := htotal h v p.type
    rw [hb.conforms?_eq] at hnone
    cases hnone

/-- A variable that is bound to a list of itself. -/
def Sample.nested : TypeArguments := [("T", .collection .list (some (.typeVariable "T")))]

/-- Lists of lists fit, whatever their depth, and null does; a number among them does not. -/
theorem checks_end_iff_nested :
    Sample.nested.Acyclic ∧ WellFounded (fun q p => Sample.nested.Calls p q) ∧
      Value.conforms? Sample.nested (.list [.list [], .null]) (.typeVariable "T") = some true ∧
      Value.conforms? Sample.nested (.list [.list [], .int 1]) (.typeVariable "T") = some false := by
  obtain ⟨htest, hends, -, -, hrigid⟩ := checks_end_iff Sample.nested
  have hself : Sample.nested.LeadsTo (.typeVariable "T")
      (.collection .list (some (.typeVariable "T"))) := .binding rfl
  have hempty : Sample.nested.Fits (.list []) (.typeVariable "T") true :=
    .follow hself (.all rfl (by simp))
  have hnull : Sample.nested.Fits .null (.typeVariable "T") true := .follow hself (.shape rfl rfl)
  have hnumber : Sample.nested.Fits (.int 1) (.typeVariable "T") false :=
    .follow hself (.shape rfl rfl)
  have hacyclic : Sample.nested.Acyclic := by
    refine hrigid fun n t h => ?_
    obtain ⟨-, rfl⟩ := Prod.mk.inj (List.mem_singleton.mp (Entries.mem_of_get? h))
    rfl
  refine ⟨hacyclic, hends hacyclic, ?_, ?_⟩
  · exact (htest _ _ _).mpr (.follow hself (.all rfl (by simp [hempty, hnull])))
  · have hfirst : Sample.nested.Fits (.list [.list [], .int 1])
        (.collection .list (some (.typeVariable "T"))) false :=
      @TypeArguments.Fits.first _ _ _ [.list []] [] _ _ rfl (by simp [hempty]) hnumber
    exact (htest _ _ _).mpr (.follow hself hfirst)

end AssertionGen
