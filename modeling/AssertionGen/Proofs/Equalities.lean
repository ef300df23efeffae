import AssertionGen.Proofs.Calls
/-!
# Equalities of properties

A property whose value is compared as a whole has one equality, named `has` and its base name
capitalized. `equality_verdicts` says what every call of it comes to, on a reported subject and under
any type arguments: which arguments are refused and how, and for an argument that fits what is
compared and reported. A link to the subject of the property's type puts a handle in front of the
equality and changes none of this.

An argument for which fitting has no answer, because type variables are bound in a circle, is left
out: no verdict of the equality hangs on it.
-/

namespace AssertionGen

/-- The categories of values that are compared as a whole: truth values have a pair of their own, and
everything with a shape has a handle. -/
inductive Category.IsWhole : Category → Prop where
  | primitive (k : Primitive) : IsWhole (.primitive k)
  | boxed (k : Primitive) : IsWhole (.boxed k)
  | typeVariable (name : String) : IsWhole (.typeVariable name)
  | object : IsWhole .object

namespace NamedProperty

variable {p : NamedProperty}

theorem equals_mem_methods (h : p.category.IsWhole) :
    ∃ nullSensitive, p.equals nullSensitive ∈ p.methods := by
  unfold methods
  generalize p.category = c at h
  cases h with
  | primitive k => exact ⟨false, List.mem_singleton_self _⟩
  | boxed k => exact ⟨true, List.mem_singleton_self _⟩
  | typeVariable name | object => exact ⟨p.property.nullable, List.mem_singleton_self _⟩

/-- What the equality says of a value and an argument. -/
theorem runOn_equals (p : NamedProperty) (nullSensitive : Bool) (v a : Value) :
    Runner.runOn (p.equals nullSensitive) [v] a =
      .ok (if a.eqv v then .pass else .fail (.comparison p.name.access v a)) := rfl

end NamedProperty

theorem Category.IsWhole.isBoolean {c : Category} (h : c.IsWhole) : c.isBoolean = false := by
  cases h <;> rfl

/-- The equality is among the methods of a reported subject. -/
theorem Property.exists_equals_mem_methods {settings : Settings} {batch : List ValueType}
    {s : Subject} (hs : s ∈ (generateBatch settings batch).subjects) {p : Property}
    (hp : p ∈ s.valueType.properties) (hwhole : p.named.category.IsWhole) :
    ∃ nullSensitive, p.named.equals nullSensitive ∈ s.methods := by
  obtain ⟨nullSensitive, hm⟩ := NamedProperty.equals_mem_methods hwhole
  exact ⟨nullSensitive, mem_methods_of_property hs hp hm⟩

/-- **What an equality answers.** On a reported subject, the equality of a property that is compared
as a whole takes one argument, and one that fits the property's type. With such an argument it fails
on null, and on an object that has the property it passes exactly if the property's value equals the
argument; otherwise it reports both under the text that reads the property. -/
theorem equality_verdicts (settings : Settings) (batch : List ValueType) {s : Subject}
    (hs : s ∈ (generateBatch settings batch).subjects) {p : Property}
    (hp : p ∈ s.valueType.properties) {c : Category} (hc : classifyStrict p.type = .ok c)
    (hwhole : c.IsWhole) (typeArguments : TypeArguments) :
    (∀ v : Value, v.conforms? typeArguments p.type = some true →
      (∀ typeName fields a, fields.lookup p.accessor = some a →
        Runner.invoke ⟨s, .object typeName fields, typeArguments⟩ ("has" ++ p.title) [v] =
          .ok (if a.eqv v then .pass
            else .fail (.comparison (accessText p.accessor p.kind) v a))) ∧
      Runner.invoke ⟨s, .null, typeArguments⟩ ("has" ++ p.title) [v] =
        .ok (.fail (.fact "expected not to be null" .null))) ∧
    (∀ actual v : Value, v.conforms? typeArguments p.type = some false →
      Runner.invoke ⟨s, actual, typeArguments⟩ ("has" ++ p.title) [v] =
        .error (.argumentType ("has" ++ p.title) v)) ∧
    ∀ (actual : Value) (args : List Value), args.length ≠ 1 →
      Runner.invoke ⟨s, actual, typeArguments⟩ ("has" ++ p.title) args =
        .error (.arity ("has" ++ p.title) 1 args.length) := by
  rw [← Property.category_named hc] at hwhole
  obtain ⟨nullSensitive, hm⟩ := p.exists_equals_mem_methods hs hp hwhole
  have hname : (p.named.equals nullSensitive).name = "has" ++ p.title := by
    rw [← Property.title_named hwhole.isBoolean]
    rfl
  have haccess : (p.named.equals nullSensitive).body.access? = some p.named.access := rfl
  rw [← hname]
  refine ⟨fun v hfits => ⟨?_, ?_⟩, ?_, ?_⟩
  · intro typeName fields a ha
    have hfield : (Value.object typeName fields).field? p.named.access.accessor = some a := ha
    rw [Runner.invoke_of_accepted hs hm (Runner.checkArguments_singleton_of_fits rfl hfits),
      Runner.run_of_field haccess hfield, NamedProperty.runOn_equals]
    rfl
  · rw [Runner.invoke_of_accepted hs hm (Runner.checkArguments_singleton_of_fits rfl hfits),
      Runner.run_of_access haccess]
    rfl
  · intro actual v hmisfit
    exact Runner.invoke_of_refused hs hm (Runner.checkArguments_singleton_of_misfit rfl hmisfit)
  · intro actual args hlength
    exact Runner.invoke_of_refused hs hm (Runner.checkArguments_of_length_ne rfl rfl hlength)

/-- A person of whom nothing is known. -/
def Sample.aPerson : Value := .object "com.example.Person" []

/-- The owner of a `Holder`, which is also linked, is compared under its own name. -/
theorem equality_verdicts_owner :
    Sample.subject Sample.holder ∈ (generateBatch Settings.standard Sample.cascade).subjects ∧
      classifyStrict (Sample.declared "Person") = .ok .object ∧
      Sample.aPerson.conforms? [] (Sample.declared "Person") = some true ∧
      Runner.invoke ⟨Sample.subject Sample.holder, .object "com.example.Holder"
          [("owner", Sample.aPerson)], []⟩ "hasOwner" [Sample.aPerson] = .ok .pass ∧
      Runner.invoke ⟨Sample.subject Sample.holder, .object "com.example.Holder"
          [("owner", .null)], []⟩ "hasOwner" [Sample.aPerson] =
        .ok (.fail (.comparison "owner()" Sample.aPerson .null)) ∧
      Runner.invoke ⟨Sample.subject Sample.holder, .null, []⟩ "hasOwner" [Sample.aPerson] =
        .ok (.fail (.fact "expected not to be null" .null)) ∧
      Runner.invoke ⟨Sample.subject Sample.holder, .null, []⟩ "hasOwner" [.path ""] =
        .error (.argumentType "hasOwner" (.path "")) ∧
      Runner.invoke ⟨Sample.subject Sample.holder, .null, []⟩ "hasOwner" [] =
        .error (.arity "hasOwner" 1 0) := by
  have hobject : classifyStrict (Sample.declared "Person") = .ok .object := by decide +kernel
  have hfits : Sample.aPerson.conforms? [] (Sample.declared "Person") = some true := by
    rw [Sample.aPerson, Sample.declared, Value.conforms?, demand?_declared]
    decide +kernel
  have hmisfit : (Value.path "").conforms? [] (Sample.declared "Person") = some false := by
    rw [Sample.declared, Value.conforms?, demand?_declared]
    decide +kernel
  have htitle : (Sample.getter "owner" (Sample.declared "Person")).title = "Owner" := by
    decide +kernel
  have hverdicts := equality_verdicts Settings.standard Sample.cascade Sample.holder_mem_subjects
    (p := Sample.getter "owner" (Sample.declared "Person")) (by decide) hobject .object []
  rw [htitle] at hverdicts
  obtain ⟨haccepted, hrefused, hcount⟩ := hverdicts
  obtain ⟨hobjects, hnull⟩ := haccepted _ hfits
  have hpass := hobjects "com.example.Holder" [("owner", Sample.aPerson)] Sample.aPerson rfl
  have hfail := hobjects "com.example.Holder" [("owner", .null)] .null rfl
  have hsame : Sample.aPerson.eqv Sample.aPerson = true := by decide +kernel
  have hother : Value.null.eqv Sample.aPerson = false := by decide +kernel
  rw [if_pos hsame] at hpass
  rw [if_neg (by simp [hother])] at hfail
  exact ⟨Sample.holder_mem_subjects, hobject, hfits, hpass, hfail, hnull,
    hrefused .null _ hmisfit, hcount .null [] (by decide)⟩

end AssertionGen
