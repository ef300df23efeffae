import AssertionGen.Check.Runner
import AssertionGen.Proofs.WellFormed
/-!
# Calling methods by name

A call names its method and takes the first one that carries the name. In a reported subject that is
the method meant, whatever else the subject offers: a link in front of a group, the methods of other
properties and those of constants all have names of their own (`nodup_names_of_mem_subjects`). So a
call of a method is the check of its arguments and then its body (`Runner.invoke_of_mem`).

What the check accepts is said once for each form of parameters: none, a single one, and one that
takes any number of arguments. Of the bodies only those that compare with a constant do without a
property; all others fail alike on null and on a value without the property.
-/

namespace AssertionGen

variable {settings : Settings} {batch : List ValueType} {s : Subject} {m : Method}

/-! ## Names of methods -/

namespace Property

/-- The base name of a property that is no truth value, as it stands inside method names. -/
def title (p : Property) : String := Text.capitalize (baseName p.accessor false)

theorem category_named {p : Property} {c : Category} (hc : classifyStrict p.type = .ok c) :
    p.named.category = c := by
  rw [named_of_classifyStrict hc]
  rfl

theorem base_named {p : Property} {truth : Bool} (h : p.named.category.isBoolean = truth) :
    p.named.name.base = baseName p.accessor truth := by
  rw [← h]
  rfl

theorem title_named {p : Property} (h : p.named.category.isBoolean = false) :
    p.named.title = p.title := by
  rw [NamedProperty.title, base_named h, title]

end Property

/-! ## Finding a method -/

/-- The names of all methods are among those that are checked. -/
theorem Subject.names_sublist (settings : Settings) (s : Subject) :
    (s.methods.map Method.name).Sublist ((s.ownedNames settings).map Prod.fst) := by
  have howned : (s.groups.flatMap fun g => g.methods.map fun m => (m.name, g.origin.owner)).map
      Prod.fst = s.methods.map Method.name := by
    simp [Subject.methods, List.map_flatMap, Function.comp_def]
  rw [← howned]
  refine List.Sublist.map Prod.fst ?_
  -- the static methods come first
  exact (List.sublist_append_right _ _).cons _

theorem nodup_names_of_mem_subjects (hs : s ∈ (generateBatch settings batch).subjects) :
    (s.methods.map Method.name).Nodup := by
  obtain ⟨v, -, hresult⟩ := mem_subjects_iff.mp hs
  obtain ⟨-, -, hmethods, rfl⟩ := generate_eq_ok_iff.mp hresult
  exact hmethods.sublist (Subject.names_sublist settings _)

theorem method?_of_mem_subjects (hs : s ∈ (generateBatch settings batch).subjects)
    (hm : m ∈ s.methods) : s.method? m.name = some m :=
  find?_eq_some_of_nodup_map (nodup_names_of_mem_subjects hs) hm

/-- A reported subject has all that its properties offer. -/
theorem mem_methods_of_property (hs : s ∈ (generateBatch settings batch).subjects) {p : Property}
    (hp : p ∈ s.valueType.properties) (hm : m ∈ p.named.methods) : m ∈ s.methods := by
  rw [(eq_assembled_of_mem_subjects hs).1]
  exact mem_methods_assembled_iff.mpr (Or.inl ⟨p, hp, Or.inr hm⟩)

/-- A reported subject has both methods of every constant. -/
theorem constantMethod_mem_methods (hs : s ∈ (generateBatch settings batch).subjects) {c : String}
    (hc : c ∈ s.valueType.enumConstants) (negated : Bool) : constantMethod c negated ∈ s.methods := by
  rw [(eq_assembled_of_mem_subjects hs).1]
  refine mem_methods_assembled_iff.mpr (Or.inr ⟨c, hc, ?_⟩)
  cases negated <;> simp [constantGroup]

namespace Runner

variable {r : Runner} {args : List Value}

/-- A method called by its name is the one that runs. -/
theorem invoke_of_mem (hs : r.subject ∈ (generateBatch settings batch).subjects)
    (hm : m ∈ r.subject.methods) (args : List Value) :
    r.invoke m.name args = r.checkArguments m args >>= fun _ => r.run m args := by
  unfold invoke
  rw [method?_of_mem_subjects hs hm]

theorem invoke_of_accepted (hs : r.subject ∈ (generateBatch settings batch).subjects)
    (hm : m ∈ r.subject.methods) (hargs : r.checkArguments m args = .ok ()) :
    r.invoke m.name args = r.run m args := by
  rw [invoke_of_mem hs hm, hargs]
  rfl

theorem invoke_of_refused (hs : r.subject ∈ (generateBatch settings batch).subjects)
    (hm : m ∈ r.subject.methods) {e : Misuse} (hargs : r.checkArguments m args = .error e) :
    r.invoke m.name args = .error e := by
  rw [invoke_of_mem hs hm, hargs]
  rfl

/-! ## What arguments are accepted -/

theorem checkArguments_of_no_parameters (hm : m.parameters = []) :
    r.checkArguments m [] = .ok () := by
  simp [checkArguments, checkTypes, isVariadic, hm]

/-- A single parameter takes a single argument. -/
theorem checkArguments_of_length_ne {q : Parameter} (hm : m.parameters = [q])
    (hone : q.varargs = false) (hlength : args.length ≠ 1) :
    r.checkArguments m args = .error (.arity m.name 1 args.length) := by
  simp [checkArguments, isVariadic, hm, hone, hlength]

theorem checkArguments_singleton_of_fits {q : Parameter} (hm : m.parameters = [q]) {v : Value}
    (hfits : v.conforms? r.typeArguments q.type = some true) : r.checkArguments m [v] = .ok () := by
  simp [checkArguments, checkTypes, hm, hfits]

theorem checkArguments_singleton_of_misfit {q : Parameter} (hm : m.parameters = [q]) {v : Value}
    (hmisfit : v.conforms? r.typeArguments q.type = some false) :
    r.checkArguments m [v] = .error (.argumentType m.name v) := by
  simp [checkArguments, checkTypes, hm, hmisfit]

/-- The last parameter stands for all arguments from its place on. -/
theorem checkTypes_singleton_eq_ok_iff (bind : TypeArguments) (method : String) {q : Parameter} :
    checkTypes bind method [q] args = .ok () ↔
      ∀ v ∈ args, v.conforms? bind q.type = some true := by
  induction args with
  | nil => simp [checkTypes]
  | cons v vs ih =>
      rw [checkTypes, List.forall_mem_cons, ← ih]
      cases v.conforms? bind q.type with
      | none => simp
      | some fits => cases fits <;> simp

/-- A parameter for any number of arguments accepts them exactly if each of them fits. -/
theorem checkArguments_variadic_eq_ok_iff {q : Parameter} (hm : m.parameters = [q])
    (hmany : q.varargs = true) :
    r.checkArguments m args = .ok () ↔ ∀ v ∈ args, v.conforms? r.typeArguments q.type = some true := by
  rw [← checkTypes_singleton_eq_ok_iff r.typeArguments m.name]
  simp [checkArguments, isVariadic, hm, hmany]

/-! ## What bodies do -/

/-- A body that reads a property asks for it only if the value is not null. -/
theorem run_of_access {a : Access} (ha : m.body.access? = some a) :
    r.run m args =
      if r.actual.isNull then .ok (.fail (.fact "expected not to be null" .null))
      else r.property a.accessor >>= runOn m args := by
  unfold run
  cases hbody : m.body with
  | constant c negated => simp [hbody, Body.access?] at ha
  | truthy b _ _ | equals b _ _ | delegate b _ _ | contains b _ _ =>
      simp only [hbody, Body.access?, Option.some.injEq] at ha
      subst ha
      rfl

theorem run_of_field {a : Access} (ha : m.body.access? = some a) {v : Value}
    (hv : r.actual.field? a.accessor = some v) : r.run m args = runOn m args v := by
  have hnull : r.actual.isNull = false := by
    cases hactual : r.actual with
    | null => simp [hactual, Value.field?] at hv
    | _ => rfl
  rw [run_of_access ha, hnull, property, hv]
  rfl

end Runner

end AssertionGen
