import AssertionGen.Check.Runner
import AssertionGen.Proofs.WellFormed
/-!
# Calls and texts that are always defined

The runner and the writer of Java texts read some things without asking whether they are there: the
argument of an equality, the parameter that stands for an argument, the sentence and the display
name of a failure. `Runner.invoke` and `Java.bodyPieces` are total because each of these readings
has a value to fall back on.

`Runner.invoke?` and `Java.bodyPieces?` are the same functions without anything to fall back on: they
have no answer as soon as one such reading finds nothing. For a well-formed method they always have
an answer, and it is the one of the total function; so nothing is ever fallen back on.
-/

namespace AssertionGen

namespace FailureText

/-- The sentence of a failure that is one. -/
def sentence? : FailureText → Option String
  | fact s => some s
  | comparison _ | delegated _ => none

/-- The display name of a failure; one sentence has none. -/
def displayName? : FailureText → Option String
  | comparison d | delegated d => some d
  | fact _ => none

end FailureText

namespace Runner

/-! ## Arguments -/

/-- The parameter for the argument at a place; the last one stands for all further arguments. There is
none for any argument if there are no parameters. -/
def parameterAt? (ps : List Parameter) (i : Nat) : Option Parameter := ps[min i (ps.length - 1)]?

/-- Checks the arguments from a place on, each against the parameter at its place. -/
def checkTypesFrom? (bind : TypeArguments) (method : String) (ps : List Parameter) :
    Nat → List Value → Option (Except Misuse Unit)
  | _, [] => some (.ok ())
  | i, v :: vs => do
    let p ← parameterAt? ps i
    match v.conforms? bind p.type with
    | some true => checkTypesFrom? bind method ps (i + 1) vs
    | some false => some (.error (.argumentType method v))
    | none => some (.error (.circularTypeArguments method v))

/-- Checks the arguments of a method. -/
def checkArguments? (r : Runner) (m : Method) (args : List Value) : Option (Except Misuse Unit) :=
  if !isVariadic m.parameters && args.length ≠ m.parameters.length then
    some (.error (.arity m.name m.parameters.length args.length))
  else checkTypesFrom? r.typeArguments m.name m.parameters 0 args

/-- What is left of the parameters at a place begins with the parameter for that place, and goes on
with what is left at the next. -/
theorem drop_eq_parameterAt?_cons {ps : List Parameter} (hne : ps ≠ []) (i : Nat) :
    ∃ p rest, ps.drop (min i (ps.length - 1)) = p :: rest ∧ parameterAt? ps i = some p ∧
      ps.drop (min (i + 1) (ps.length - 1)) = if rest.isEmpty then [p] else rest := by
  have hpos : 0 < ps.length := List.length_pos_iff.mpr hne
  have hlt : min i (ps.length - 1) < ps.length := by omega
  refine ⟨ps[min i (ps.length - 1)], ps.drop (min i (ps.length - 1) + 1),
    List.drop_eq_getElem_cons hlt, List.getElem?_eq_getElem hlt, ?_⟩
  by_cases hlast : i < ps.length - 1
  · -- there is a next parameter
    have hnext : min i (ps.length - 1) + 1 < ps.length := by omega
    rw [if_neg (by simpa using hnext), Nat.min_eq_left hlast, Nat.min_eq_left (Nat.le_of_lt hlast)]
  · -- the last parameter stays
    have hend : min i (ps.length - 1) + 1 = ps.length := by omega
    have hstay : min (i + 1) (ps.length - 1) = min i (ps.length - 1) := by omega
    rw [hstay, List.drop_eq_getElem_cons hlt, hend, List.drop_length]
    rfl

theorem checkTypesFrom?_eq {bind : TypeArguments} {method : String} {ps : List Parameter}
    (hne : ps ≠ []) (i : Nat) (args : List Value) :
    checkTypesFrom? bind method ps i args =
      some (checkTypes bind method (ps.drop (min i (ps.length - 1))) args) := by
  induction args generalizing i with
  | nil => rw [checkTypesFrom?, checkTypes]
  | cons v vs ih =>
      obtain ⟨p, rest, hdrop, hp, hnext⟩ := drop_eq_parameterAt?_cons hne i
      rw [checkTypesFrom?, hp, Option.bind_eq_bind, Option.bind_some, hdrop, checkTypes]
      cases v.conforms? bind p.type with
      | none => rfl
      | some fits =>
          cases fits with
          | false => rfl
          | true =>
              rw [← hnext]
              exact ih (i + 1)

/-- The number of arguments is checked first, so no argument is left without a parameter. -/
theorem checkArguments?_eq (r : Runner) (m : Method) (args : List Value) :
    r.checkArguments? m args = some (r.checkArguments m args) := by
  unfold checkArguments? checkArguments
  split
  · rfl
  · next hcount =>
    by_cases hne : m.parameters = []
    · have hnone : args = [] := by simpa [hne, isVariadic] using hcount
      rw [hnone, checkTypesFrom?, checkTypes]
    · rw [checkTypesFrom?_eq hne, Nat.zero_min, List.drop_zero]

/-- What passes the check for one parameter that takes one argument is one argument. -/
theorem exists_of_checkArguments_eq_ok {r : Runner} {m : Method} {args : List Value} {q : Parameter}
    (hq : m.parameters = [q]) (hone : q.varargs = false)
    (hchecked : r.checkArguments m args = .ok ()) : ∃ v, args = [v] := by
  unfold checkArguments at hchecked
  split at hchecked
  · cases hchecked
  · next hcount =>
    have hlength : args.length = 1 := by simpa [hq, isVariadic, hone] using hcount
    exact List.length_eq_one_iff.mp hlength

/-! ## Bodies -/

/-- The failure of a method whose failures are one sentence. -/
def failFact? (m : Method) (found : Value) : Option Outcome :=
  m.failure.sentence?.map fun s => .fail (.fact s found)

/-- Runs a body on a property's value. -/
def runOn? (m : Method) (args : List Value) (v : Value) : Option Verdict :=
  match m.body with
  | .truthy _ negated _ => if isTrue v ≠ negated then some (.ok .pass) else (failFact? m v).map .ok
  | .equals _ _ _ => do
    let expected ← args[0]?
    if v.eqv expected then some (.ok .pass)
    else
      let d ← m.failure.displayName?
      some (.ok (.fail (.comparison d expected v)))
  | .delegate _ _ h => do
    let d ← m.failure.displayName?
    some (.ok (.handle ⟨d, h, v⟩))
  | .contains _ h mode => do
    let d ← m.failure.displayName?
    let handle : Handle := ⟨d, contained h, v⟩
    match mode with
    | .atLeast => some (handle.containsAtLeast args)
    | .noneOf => some (handle.containsNoneOf args)
  | .constant _ _ => none

/-- Runs a method whose arguments are checked. -/
def run? (r : Runner) (m : Method) (args : List Value) : Option Verdict :=
  match m.body with
  | .constant c negated =>
    if isConstant r.actual c ≠ negated then some (.ok .pass) else (failFact? m r.actual).map .ok
  | .truthy a _ _ | .equals a _ _ | .delegate a _ _ | .contains a _ _ =>
    if r.actual.isNull then some (.ok (.fail (.fact "expected not to be null" .null)))
    else
      match r.property a.accessor with
      | .error e => some (.error e)
      | .ok v => runOn? m args v

/-- Calls a method. -/
def invoke? (r : Runner) (name : String) (args : List Value) : Option Verdict :=
  match r.subject.method? name with
  | none => some (.error (.unknownMethod r.subject.name name))
  | some m => do
    match ← r.checkArguments? m args with
    | .error e => some (.error e)
    | .ok () => r.run? m args

variable {r : Runner} {m : Method} {args : List Value}

theorem failFact?_eq {s : String} (h : m.failure = .fact s) (found : Value) :
    failFact? m found = some (failFact m found) := by
  simp only [failFact?, failFact, h, FailureText.sentence?, Option.map_some]

/-- An equality needs its one argument; all other bodies run on any arguments. -/
theorem runOn?_eq (hm : m.WellFormed) (hconstant : ∀ c negated, m.body ≠ .constant c negated)
    (hchecked : r.checkArguments m args = .ok ()) (v : Value) :
    runOn? m args v = some (runOn m args v) := by
  have hfailure := hm.failure
  have hparameters := hm.parameters
  unfold runOn? runOn
  generalize hbody : m.body = body at hfailure hparameters hconstant
  generalize htext : m.failure = text at hfailure
  cases hfailure with
  | truthy a negated boxed sentence =>
      simp only [failFact?_eq htext, Option.map_some]
      split <;> rfl
  | equals a t nullSensitive =>
      generalize hqs : m.parameters = qs at hparameters
      cases hparameters with
      | equals _ _ _ htype hone =>
          obtain ⟨expected, rfl⟩ := exists_of_checkArguments_eq_ok hqs hone hchecked
          simp only [List.getElem?_cons_zero, displayName, htext, FailureText.displayName?,
            Option.bind_eq_bind, Option.bind_some]
          split <;> rfl
  | delegate a t h => simp only [displayName, htext, FailureText.displayName?]; rfl
  | contains a h mode =>
      simp only [displayName, htext, FailureText.displayName?]
      cases mode <;> rfl
  | constant c negated sentence => exact absurd rfl (hconstant c negated)

/-- An equality that took no argument would have no answer. -/
example : runOn? ⟨"hasOwner", [], .nothing, .equals ⟨"owner", "owner()"⟩ .path false, .fact ""⟩ []
    .null = none := rfl

theorem run?_eq (hm : m.WellFormed) (hchecked : r.checkArguments m args = .ok ()) :
    r.run? m args = some (r.run m args) := by
  have hproperty : (∀ c negated, m.body ≠ .constant c negated) → ∀ a : Access,
      (match r.property a.accessor with
        | .error e => some (.error e)
        | .ok v => runOn? m args v) =
      some (r.property a.accessor >>= fun v => runOn m args v) := by
    intro hconstant a
    cases r.property a.accessor with
    | error e => rfl
    | ok v => exact runOn?_eq hm hconstant hchecked v
  unfold run? run
  cases hbody : m.body with
  | constant c negated =>
      obtain ⟨s, hs⟩ := (hbody ▸ hm.failure).exists_fact_of_constant
      simp only [failFact?_eq hs, Option.map_some]
      split <;> rfl
  | truthy a _ _ | equals a _ _ | delegate a _ _ | contains a _ _ =>
      simp only [hproperty (by simp [hbody]) a]
      split <;> rfl

/-- A call of a well-formed method falls back on nothing. -/
theorem invoke?_eq (r : Runner) (name : String) (args : List Value)
    (hmethods : ∀ m ∈ r.subject.methods, m.WellFormed) :
    r.invoke? name args = some (r.invoke name args) := by
  unfold invoke? invoke
  cases hmethod : r.subject.method? name with
  | none => rfl
  | some m =>
      simp only [checkArguments?_eq, Option.bind_eq_bind, Option.bind_some]
      cases hchecked : r.checkArguments m args with
      | error e => rfl
      | ok u => exact run?_eq (hmethods m (List.mem_of_find?_eq_some hmethod)) hchecked

end Runner

/-! ## Texts -/

/-- The pieces of a body; nothing if it says a sentence and the failure is none. -/
def Java.bodyPieces? (scope : Java.Scope) (valueType : String) (m : Method) :
    Option (List Piece) :=
  match m.body with
  | .truthy _ _ _ | .constant _ _ => do
    let s ← m.failure.sentence?
    some (Java.bodyPieces scope valueType { m with failure := .fact s })
  | .equals _ _ _ | .delegate _ _ _ | .contains _ _ _ => some (Java.bodyPieces scope valueType m)

theorem Java.bodyPieces?_eq {m : Method} (hm : m.WellFormed) (scope : Java.Scope)
    (valueType : String) :
    Java.bodyPieces? scope valueType m = some (Java.bodyPieces scope valueType m) := by
  obtain ⟨name, parameters, returns, body, failure⟩ := m
  have hfailure : body.FailsWith failure := hm.failure
  cases hfailure <;> rfl

/-- **Generated methods suit both consumers.** In every reported subject, what a method hands out, takes
and reports agrees with its body, and the methods of a group agree with the property at its place.
Therefore a call, on any value, with any type arguments and any arguments, and the text of any body
are defined without anything to fall back on. -/
theorem subjects_wellFormed (settings : Settings) (batch : List ValueType) {s : Subject}
    (hs : s ∈ (generateBatch settings batch).subjects) :
    (∀ (k : Nat) (g : MethodGroup), s.groups[k]? = some g →
        g.WellFormed s.valueType.properties[k]?) ∧
      (∀ actual typeArguments name args,
        Runner.invoke? ⟨s, actual, typeArguments⟩ name args =
          some (Runner.invoke ⟨s, actual, typeArguments⟩ name args)) ∧
      ∀ m ∈ s.methods, ∀ scope valueType,
        Java.bodyPieces? scope valueType m = some (Java.bodyPieces scope valueType m) := by
  have hmethods : ∀ m ∈ s.methods, m.WellFormed := fun m hm => wellFormed_of_mem_methods hs hm
  exact ⟨fun k g hg => group_wellFormed_of_mem_subjects hs hg,
    fun actual typeArguments name args => Runner.invoke?_eq _ name args hmethods,
    fun m hm scope valueType => Java.bodyPieces?_eq (hmethods m hm) scope valueType⟩

/-- A `Holder` whose owner is null. -/
def Sample.ownerless : Value := .object "com.example.Holder" [("owner", .null)]

theorem subjects_wellFormed_cascade :
    Sample.subject Sample.holder ∈ (generateBatch Settings.standard Sample.cascade).subjects ∧
      (Sample.subject Sample.holder).groups[1]? =
        some ((Sample.getter "owner" (Sample.declared "Person")).named.group
          (settledTable Settings.standard Sample.cascade)) ∧
      ((Sample.getter "owner" (Sample.declared "Person")).named.group
        (settledTable Settings.standard Sample.cascade)).WellFormed
          (some (Sample.getter "owner" (Sample.declared "Person"))) ∧
      Runner.invoke? ⟨Sample.subject Sample.holder, Sample.ownerless, []⟩ "hasOwner"
          [.object "com.example.Person" []] =
        some (Runner.invoke ⟨Sample.subject Sample.holder, Sample.ownerless, []⟩ "hasOwner"
          [.object "com.example.Person" []]) := by
  have hgroup : (Sample.subject Sample.holder).groups[1]? =
      some ((Sample.getter "owner" (Sample.declared "Person")).named.group
        (settledTable Settings.standard Sample.cascade)) := rfl
  have hsafe := subjects_wellFormed Settings.standard Sample.cascade Sample.holder_mem_subjects
  exact ⟨Sample.holder_mem_subjects, hgroup, hsafe.1 1 _ hgroup,
    hsafe.2.1 Sample.ownerless [] "hasOwner" [.object "com.example.Person" []]⟩

end AssertionGen
