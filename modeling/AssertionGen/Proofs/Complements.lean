import AssertionGen.Proofs.Calls
/-!
# Pairs of truth assertions

Truth values and constants give pairs of methods without parameters, `is…` and `isNot…`. On every
value that has the property, and for a constant on every value at all, exactly one method of a pair
passes (`truth_pairs_decide`). A box that holds null is not true, and null is no constant.

The names of different pairs can meet: `isNot…` of one may read like `is…` of another. A value type
for which they do has no subject, so the two names of a pair always lead to the pair itself.
-/

namespace AssertionGen

/-- The pair of methods for a title decides a condition: `is…` passes exactly if it holds and `isNot…`
exactly if it does not. The one that fails reports what it expected of the subject and what was
found. -/
structure Runner.Decides (r : Runner) (title subject : String) (holds : Prop) (found : Value) :
    Prop where
  is_passes : r.invoke ("is" ++ title) [] = .ok .pass ↔ holds
  isNot_passes : r.invoke ("isNot" ++ title) [] = .ok .pass ↔ ¬ holds
  is_fails : ¬ holds →
    r.invoke ("is" ++ title) [] = .ok (.fail (.fact ("expected to be " ++ subject) found))
  isNot_fails : holds →
    r.invoke ("isNot" ++ title) [] = .ok (.fail (.fact ("expected not to be " ++ subject) found))

namespace Runner

/-- The verdict of either method of a pair, by whether what it tests is as it says. -/
def pairVerdict (subject : String) (found : Value) (test negated : Bool) : Outcome :=
  if test ≠ negated then .pass
  else .fail (.fact ((if negated then "expected not to be " else "expected to be ") ++ subject) found)

/-- Two methods that run one test and differ only in the negation decide what is tested. -/
theorem Decides.of_invoke {r : Runner} {title subject : String} {holds : Prop} {found : Value}
    {test : Bool} (htest : test = true ↔ holds)
    (hinvoke : ∀ negated : Bool, r.invoke ((if negated then "isNot" else "is") ++ title) [] =
      .ok (pairVerdict subject found test negated)) :
    r.Decides title subject holds found := by
  have his : r.invoke ("is" ++ title) [] = .ok (pairVerdict subject found test false) :=
    hinvoke false
  have hisNot : r.invoke ("isNot" ++ title) [] = .ok (pairVerdict subject found test true) :=
    hinvoke true
  cases test with
  | true =>
      have hholds : holds := htest.mp rfl
      refine ⟨?_, ?_, fun hnot => absurd hholds hnot, fun _ => hisNot⟩
      · exact iff_of_true his hholds
      · exact iff_of_false (by simp [hisNot, pairVerdict]) (not_not_intro hholds)
  | false =>
      have hnot : ¬ holds := fun hholds => Bool.false_ne_true (htest.mpr hholds)
      refine ⟨?_, ?_, fun _ => his, fun hholds => absurd hholds hnot⟩
      · exact iff_of_false (by simp [his, pairVerdict]) hnot
      · exact iff_of_true hisNot hnot

/-- A pair of methods of a reported subject that take nothing. -/
theorem Decides.of_methods {settings : Settings} {batch : List ValueType} {r : Runner}
    (hs : r.subject ∈ (generateBatch settings batch).subjects) {title subject : String}
    {holds : Prop} {found : Value} {test : Bool} (htest : test = true ↔ holds)
    (method : Bool → Method) (hmem : ∀ negated, method negated ∈ r.subject.methods)
    (hname : ∀ negated : Bool, (method negated).name = (if negated then "isNot" else "is") ++ title)
    (hparameters : ∀ negated, (method negated).parameters = [])
    (hrun : ∀ negated,
      r.run (method negated) [] = .ok (pairVerdict subject found test negated)) :
    r.Decides title subject holds found := by
  refine Decides.of_invoke htest fun negated => ?_
  have haccepted : r.checkArguments (method negated) [] = .ok () :=
    checkArguments_of_no_parameters (hparameters negated)
  rw [← hname, invoke_of_accepted hs (hmem negated) haccepted, hrun]

/-! ## The two tests -/

theorem isTrue_iff {a : Value} : isTrue a = true ↔ a = .bool true := by
  cases a with
  | bool b => simp [isTrue]
  | _ => simp [isTrue]

theorem isConstant_iff {actual : Value} {constant : String} :
    isConstant actual constant = true ↔ ∃ typeName, actual = .enum typeName constant := by
  cases actual with
  | enum typeName c => simp [isConstant]
  | _ => simp [isConstant]

theorem runOn_truthy (p : NamedProperty) (negated boxed : Bool) (a : Value) :
    runOn (p.truthy negated boxed) [] a = .ok (pairVerdict p.name.base a (isTrue a) negated) := rfl

theorem run_constantMethod (r : Runner) (constant : String) (negated : Bool) :
    r.run (constantMethod constant negated) [] =
      .ok (pairVerdict constant r.actual (isConstant r.actual constant) negated) := rfl

end Runner

/-- Both methods of a truth value are there, boxed or not. -/
theorem NamedProperty.exists_truthy_mem_methods {p : NamedProperty}
    (h : p.category = .boolean ∨ p.category = .boxedBoolean) :
    ∃ boxed, ∀ negated, p.truthy negated boxed ∈ p.methods := by
  rcases h with h | h
  · refine ⟨false, fun negated => ?_⟩
    cases negated <;> simp [methods, h]
  · refine ⟨true, fun negated => ?_⟩
    cases negated <;> simp [methods, h]

section

variable {settings : Settings} {batch : List ValueType} {s : Subject}

/-- The pair of a property asks whether its value is true. -/
theorem Property.decides_of_mem_subjects (hs : s ∈ (generateBatch settings batch).subjects)
    {p : Property} (hp : p ∈ s.valueType.properties) {c : Category}
    (hc : classifyStrict p.type = .ok c) (htruth : c = .boolean ∨ c = .boxedBoolean)
    (typeArguments : TypeArguments) {actual a : Value} (ha : actual.field? p.accessor = some a) :
    Runner.Decides ⟨s, actual, typeArguments⟩ (Text.capitalize (baseName p.accessor true))
      (baseName p.accessor true) (a = .bool true) a := by
  rw [← Property.category_named hc] at htruth
  obtain ⟨boxed, hmethods⟩ := NamedProperty.exists_truthy_mem_methods htruth
  have hboolean : p.named.category.isBoolean = true := by
    rcases htruth with h | h <;> rw [h] <;> rfl
  rw [← Property.base_named hboolean]
  refine Runner.Decides.of_methods hs Runner.isTrue_iff (p.named.truthy · boxed)
    (fun negated => mem_methods_of_property hs hp (hmethods negated)) (fun _ => rfl)
    (fun _ => rfl) fun negated => ?_
  have hfield : actual.field? p.named.access.accessor = some a := ha
  have haccess : (p.named.truthy negated boxed).body.access? = some p.named.access := rfl
  rw [Runner.run_of_field haccess hfield, Runner.runOn_truthy]

/-- The pair of a constant asks whether the value is that constant. It reads no property, so null is
a value like any other. -/
theorem constant_decides_of_mem_subjects (hs : s ∈ (generateBatch settings batch).subjects)
    {constant : String} (hconstant : constant ∈ s.valueType.enumConstants)
    (typeArguments : TypeArguments) (actual : Value) :
    Runner.Decides ⟨s, actual, typeArguments⟩ (Text.capitalize (constantBaseName constant)) constant
      (∃ typeName, actual = .enum typeName constant) actual :=
  Runner.Decides.of_methods hs Runner.isConstant_iff (constantMethod constant)
    (constantMethod_mem_methods hs hconstant) (fun _ => rfl) (fun _ => rfl)
    (Runner.run_constantMethod _ constant)

/-- **Truth assertions are complementary.** On a reported subject, the pair of a property that is a
truth value decides whether the property of an object is true, whatever it holds; and the pair of a
constant decides whether the value is that constant, whatever the value is. -/
theorem truth_pairs_decide (settings : Settings) (batch : List ValueType) {s : Subject}
    (hs : s ∈ (generateBatch settings batch).subjects) (typeArguments : TypeArguments) :
    (∀ p ∈ s.valueType.properties, ∀ c, classifyStrict p.type = .ok c →
      c = .boolean ∨ c = .boxedBoolean →
      ∀ typeName fields a, fields.lookup p.accessor = some a →
        Runner.Decides ⟨s, .object typeName fields, typeArguments⟩
          (Text.capitalize (baseName p.accessor true)) (baseName p.accessor true)
          (a = .bool true) a) ∧
    ∀ constant ∈ s.valueType.enumConstants, ∀ actual : Value,
      Runner.Decides ⟨s, actual, typeArguments⟩
        (Text.capitalize (constantBaseName constant)) constant
        (∃ typeName, actual = .enum typeName constant) actual := by
  constructor
  · intro p hp c hc htruth typeName fields a ha
    exact p.decides_of_mem_subjects hs hp hc htruth typeArguments ha
  · intro constant hconstant actual
    exact constant_decides_of_mem_subjects hs hconstant typeArguments actual

end

namespace Sample

/-- A boxed truth value. -/
def verified : Property := getter "isVerified" (.boxed .boolean)

/-- A value type with a truth value and constants. -/
def role : ValueType := ⟨"Role", "com.example", [], [verified], [], ["GUEST", "NOT_YET_KNOWN"]⟩

/-- A runner on a value of type `Role`. -/
def onRole (actual : Value) : Runner := ⟨unlinked role, actual, []⟩

/-- A role of which it is not known whether it was verified. -/
def unverified : Value := .object "com.example.Role" [("isVerified", .null)]

end Sample

/-- A null box is not true, and a guest is not someone not yet known. -/
theorem truth_pairs_decide_role :
    Sample.unlinked Sample.role ∈ (generateBatch Settings.standard [Sample.role]).subjects ∧
      classifyStrict Sample.verified.type = .ok .boxedBoolean ∧
      (Sample.onRole Sample.unverified).invoke "isVerified" [] =
        .ok (.fail (.fact "expected to be verified" .null)) ∧
      (Sample.onRole Sample.unverified).invoke "isNotVerified" [] = .ok .pass ∧
      (Sample.onRole (.enum "com.example.Role" "GUEST")).invoke "isNotNotYetKnown" [] = .ok .pass ∧
      (Sample.onRole .null).invoke "isGuest" [] =
        .ok (.fail (.fact "expected to be GUEST" .null)) := by
  have hs : Sample.unlinked Sample.role ∈
      (generateBatch Settings.standard [Sample.role]).subjects := by decide +kernel
  have hc : classifyStrict Sample.verified.type = .ok .boxedBoolean := by decide +kernel
  have hpairs := truth_pairs_decide Settings.standard [Sample.role] hs []
  have hbox := hpairs.1 Sample.verified (by decide) _ hc (Or.inr rfl) "com.example.Role"
    [("isVerified", .null)] .null rfl
  have hguest := hpairs.2 "NOT_YET_KNOWN" (by decide) (.enum "com.example.Role" "GUEST")
  have hnull := hpairs.2 "GUEST" (by decide) .null
  have hbase : baseName Sample.verified.accessor true = "verified" := by decide +kernel
  have hverified : Text.capitalize "verified" = "Verified" := by decide +kernel
  have hunknown : Text.capitalize (constantBaseName "NOT_YET_KNOWN") = "NotYetKnown" := by
    decide +kernel
  have hGuest : Text.capitalize (constantBaseName "GUEST") = "Guest" := by decide +kernel
  rw [hbase, hverified] at hbox
  rw [hunknown] at hguest
  rw [hGuest] at hnull
  exact ⟨hs, hc, hbox.is_fails (by simp), hbox.isNot_passes.mpr (by simp),
    hguest.isNot_passes.mpr (by simp), hnull.is_fails (by simp)⟩

end AssertionGen
