import AssertionGen.Check.Handle
/-!
# Calls that a handle does not have

A misuse is a call that would not have compiled, so it should be a matter of the handle's kind and of
nothing else. Ten of the eleven assertions ask for the kind before they look at the value
(`Handle.guarded_answer`), and for them it is (`Handle.misused_iff`).

Emptiness looks at the value first and takes kind and value together. Null is a failure on every kind,
also on those that have no emptiness; and a value of another shape than its kind holds is a misuse,
also on kinds that have it (`Handle.misused_isEmpty_iff`).
-/

namespace AssertionGen

/-- A call of an assertion, with its arguments. -/
inductive Assertion where
  | containsExactly (expected : List Value)
  | containsAtLeast (expected : List Value)
  | containsNoneOf (excluded : List Value)
  | hasCount (element : Value) (count : Nat)
  | hasLength (length : Nat)
  | containsEntry (key value : Value)
  | containsKey (key : Value)
  | isPresent
  | hasValue (expected : Value)
  | isEmpty
  | isAssignableTo (target : String)

/-- The assertion that is called. -/
def Assertion.operation : Assertion → Operation
  | containsExactly _ => .containsExactly
  | containsAtLeast _ => .containsAtLeast
  | containsNoneOf _ => .containsNoneOf
  | hasCount _ _ => .hasCount
  | hasLength _ => .hasLength
  | containsEntry _ _ => .containsEntry
  | containsKey _ => .containsKey
  | isPresent => .isPresent
  | hasValue _ => .hasValue
  | isEmpty => .isEmpty
  | isAssignableTo _ => .isAssignableTo

/-- Whether handles of a kind have an assertion. -/
def Operation.isOn : Operation → HandleKind → Bool
  | .containsExactly, k | .containsAtLeast, k | .containsNoneOf, k => Handle.isIterable k
  | .hasCount, k => k = .multiset
  | .hasLength, k => Handle.isArray k
  | .containsEntry, k | .containsKey, k => Handle.isMapLike k
  | .isPresent, k | .hasValue, k => Handle.isOptional k
  | .isEmpty, k => Handle.isIterable k || Handle.isMapLike k || Handle.isOptional k || k = .table
  | .isAssignableTo, k => k = .classRef

theorem Assertion.eq_isEmpty {a : Assertion} (ha : a.operation = .isEmpty) : a = .isEmpty := by
  cases a with
  | isEmpty => rfl
  | _ => cases ha

namespace Handle

/-- What a handle answers to a call. -/
def answer (h : Handle) : Assertion → Verdict
  | .containsExactly expected => h.containsExactly expected
  | .containsAtLeast expected => h.containsAtLeast expected
  | .containsNoneOf excluded => h.containsNoneOf excluded
  | .hasCount element count => h.hasCount element count
  | .hasLength length => h.hasLength length
  | .containsEntry key value => h.containsEntry key value
  | .containsKey key => h.containsKey key
  | .isPresent => h.isPresent
  | .hasValue expected => h.hasValue expected
  | .isEmpty => h.isEmpty
  | .isAssignableTo target => h.isAssignableTo target

/-- The handle answers that it does not have the assertion. -/
def Misused (h : Handle) (a : Assertion) : Prop :=
  ∃ operation handle, h.answer a = .error (.notApplicable operation handle)

variable {h : Handle} {a : Assertion} {op : Operation}

/-! ## The kind asked first -/

/-- An answer that hangs on a test alone: there is one if the test is passed, and else it is this
misuse. -/
structure Guarded {α : Type} (test : Prop) (misuse : Misuse) (x : Except Misuse α) : Prop where
  answers : test → ∃ found, x = .ok found
  refuses : ¬ test → x = .error misuse

theorem Guarded.bind {α : Type} {test : Prop} {misuse : Misuse} {x : Except Misuse α}
    (hx : Guarded test misuse x) {f : α → Verdict} (hf : ∀ found, ∃ outcome, f found = .ok outcome) :
    Guarded test misuse (x >>= f) where
  answers htest := by
    obtain ⟨found, rfl⟩ := hx.answers htest
    exact hf found
  refuses htest := by
    rw [hx.refuses htest]
    rfl

theorem guarded_ite {α : Type} {test : Prop} [Decidable test] {x : Except Misuse α}
    (hx : ∃ found, x = .ok found) :
    Guarded test (.notApplicable op h.kind.simpleName) (if test then x else h.notApplicable op) where
  answers htest := by rwa [if_pos htest]
  refuses htest := if_neg htest

theorem guarded_elements : Guarded (isIterable h.kind = true)
    (.notApplicable op h.kind.simpleName) (h.elements op) :=
  guarded_ite ⟨_, rfl⟩

theorem guarded_entries : Guarded (isMapLike h.kind = true)
    (.notApplicable op h.kind.simpleName) (h.entries op) := by
  refine guarded_ite ?_
  split
  · exact ⟨_, rfl⟩
  · exact ⟨_, rfl⟩

theorem guarded_content : Guarded (isOptional h.kind = true)
    (.notApplicable op h.kind.simpleName) (h.content op) := by
  refine guarded_ite ?_
  split
  · exact ⟨_, rfl⟩
  · exact ⟨_, rfl⟩

/-- But for emptiness, the kind alone decides whether a call is answered. -/
theorem guarded_answer (ha : a.operation ≠ .isEmpty) : Guarded (a.operation.isOn h.kind = true)
    (.notApplicable a.operation h.kind.simpleName) (h.answer a) := by
  -- what is asked after the kind, on a null or a value of another shape too, only chooses the outcome
  cases a with
  | containsExactly expected | containsAtLeast expected | containsNoneOf expected =>
      refine guarded_elements.bind fun found => ?_
      cases found <;> exact ⟨_, rfl⟩
  | hasCount element count =>
      rw [Assertion.operation, Operation.isOn, decide_eq_true_iff]
      refine guarded_ite ?_
      split <;> exact ⟨_, rfl⟩
  | hasLength length =>
      refine guarded_ite ?_
      split <;> exact ⟨_, rfl⟩
  | containsEntry key value =>
      refine guarded_entries.bind fun found => ?_
      cases found with
      | none => exact ⟨_, rfl⟩
      | some es =>
          dsimp only
          split
          · exact ⟨_, rfl⟩
          · split <;> exact ⟨_, rfl⟩
  | containsKey key =>
      refine guarded_entries.bind fun found => ?_
      cases found with
      | none => exact ⟨_, rfl⟩
      | some es =>
          dsimp only
          split <;> exact ⟨_, rfl⟩
  | isPresent =>
      refine guarded_content.bind fun found => ?_
      cases found <;> exact ⟨_, rfl⟩
  | hasValue expected =>
      refine guarded_content.bind fun found => ?_
      cases found with
      | none => exact ⟨_, rfl⟩
      | some v =>
          dsimp only
          split <;> exact ⟨_, rfl⟩
  | isEmpty => exact absurd rfl ha
  | isAssignableTo target =>
      rw [Assertion.operation, Operation.isOn, decide_eq_true_iff]
      refine guarded_ite ?_
      split
      · split <;> exact ⟨_, rfl⟩
      · exact ⟨_, rfl⟩
      · exact ⟨_, rfl⟩

theorem misused_iff (ha : a.operation ≠ .isEmpty) :
    h.Misused a ↔ a.operation.isOn h.kind = false := by
  have hguarded : Guarded (a.operation.isOn h.kind = true) _ (h.answer a) := guarded_answer ha
  by_cases hkind : a.operation.isOn h.kind = true
  · obtain ⟨outcome, houtcome⟩ := hguarded.answers hkind
    refine iff_of_false ?_ fun hnot => Bool.false_ne_true (hnot.symm.trans hkind)
    rintro ⟨operation, handle, herror⟩
    rw [houtcome] at herror
    cases herror
  · exact iff_of_true ⟨_, _, hguarded.refuses hkind⟩ (Bool.eq_false_iff.mpr hkind)

/-! ## The value asked first -/

/-- Emptiness refuses a value that is not null and has no emptiness as the kind sees it. -/
theorem isEmpty_cases (h : Handle) :
    (h.actual.isNull = false ∧ emptiness? h.kind h.actual = none ∧
        h.isEmpty = .error (.notApplicable .isEmpty h.kind.simpleName)) ∨
      ((h.actual.isNull = true ∨ emptiness? h.kind h.actual ≠ none) ∧
        ∃ outcome, h.isEmpty = .ok outcome) := by
  unfold isEmpty
  split
  · next hnull => exact Or.inr ⟨Or.inl hnull, _, rfl⟩
  · next hvalue =>
    split
    · next hempty => exact Or.inr ⟨Or.inr (by rw [hempty]; simp), _, rfl⟩
    · next hfilled => exact Or.inr ⟨Or.inr (by rw [hfilled]; simp), _, rfl⟩
    · next hnone => exact Or.inl ⟨Bool.eq_false_iff.mpr hvalue, hnone, rfl⟩

theorem misused_isEmpty_iff :
    h.Misused .isEmpty ↔ h.actual.isNull = false ∧ emptiness? h.kind h.actual = none := by
  rcases h.isEmpty_cases with ⟨hvalue, hnone, herror⟩ | ⟨hsome, outcome, houtcome⟩
  · exact iff_of_true ⟨_, _, herror⟩ ⟨hvalue, hnone⟩
  · refine iff_of_false ?_ ?_
    · rintro ⟨operation, handle, herror⟩
      rw [show h.answer .isEmpty = _ from houtcome] at herror
      cases herror
    · rintro ⟨hvalue, hnone⟩
      rcases hsome with hnull | hshape
      · rw [hnull] at hvalue
        cases hvalue
      · exact hshape hnone

/-- There is no other misuse than not to have the assertion. -/
theorem eq_notApplicable_of_error {e : Misuse} (herror : h.answer a = .error e) :
    e = .notApplicable a.operation h.kind.simpleName := by
  by_cases ha : a.operation = .isEmpty
  · obtain rfl := Assertion.eq_isEmpty ha
    rcases h.isEmpty_cases with ⟨-, -, hrefused⟩ | ⟨-, outcome, houtcome⟩
    · exact Except.error.inj (herror.symm.trans hrefused)
    · cases herror.symm.trans houtcome
  · have hguarded : Guarded (a.operation.isOn h.kind = true) _ (h.answer a) := guarded_answer ha
    by_cases hkind : a.operation.isOn h.kind = true
    · obtain ⟨outcome, houtcome⟩ := hguarded.answers hkind
      cases herror.symm.trans houtcome
    · exact Except.error.inj (herror.symm.trans (hguarded.refuses hkind))

/-- The kinds with emptiness are those that see it in some value. -/
theorem isOn_isEmpty_iff {kind : HandleKind} :
    Operation.isEmpty.isOn kind = true ↔ ∃ v, emptiness? kind v ≠ none := by
  cases kind with
  | optional k => exact iff_of_true rfl ⟨.optional none, nofun⟩
  | map | multimap | table => exact iff_of_true rfl ⟨.map [], nofun⟩
  | iterable | multiset | stream k => exact iff_of_true rfl ⟨.list [], nofun⟩
  | objectArray e | primitiveArray k => exact iff_of_true rfl ⟨.array [], nofun⟩
  | classRef | path | subject p n f =>
      refine iff_of_false Bool.false_ne_true ?_
      rintro ⟨v, hv⟩
      cases v <;> exact hv rfl

end Handle

/-- On a kind, neither the value nor the arguments say whether a call of the assertion is a misuse. -/
def Operation.MisuseIsStatic (op : Operation) (kind : HandleKind) : Prop :=
  ∀ (displayName : String) (actual actual' : Value) (a a' : Assertion),
    a.operation = op → a'.operation = op →
      (Handle.Misused ⟨displayName, kind, actual⟩ a ↔ Handle.Misused ⟨displayName, kind, actual'⟩ a')

/-- There is no kind on which the value does not matter to emptiness: null is never refused, and a
truth value always is. -/
theorem not_static_isEmpty (kind : HandleKind) : ¬ Operation.isEmpty.MisuseIsStatic kind := by
  intro hstatic
  have hnull : ¬ Handle.Misused ⟨"", kind, .null⟩ .isEmpty := by
    rw [Handle.misused_isEmpty_iff]
    rintro ⟨hvalue, -⟩
    cases hvalue
  have htruth : Handle.Misused ⟨"", kind, .bool true⟩ .isEmpty := by
    rw [Handle.misused_isEmpty_iff]
    exact ⟨rfl, by cases kind <;> rfl⟩
  exact hnull ((hstatic "" .null (.bool true) .isEmpty .isEmpty rfl rfl).mpr htruth)

theorem Operation.misuseIsStatic_iff {op : Operation} {kind : HandleKind} :
    op.MisuseIsStatic kind ↔ op ≠ .isEmpty := by
  constructor
  · rintro hstatic rfl
    exact not_static_isEmpty kind hstatic
  · intro hop displayName actual actual' a a' ha ha'
    rw [Handle.misused_iff (by rwa [ha]), Handle.misused_iff (by rwa [ha']), ha, ha']

namespace Sample

/-- A handle on a path that may be missing. -/
def onHome (actual : Value) : Handle := ⟨"getHome()", .path, actual⟩

/-- A handle on what should be names. -/
def onNames (actual : Value) : Handle := ⟨"getNames()", .iterable, actual⟩

end Sample

/-- Paths have no emptiness, yet a missing one fails like a value that can be asked. And iterables have
it, yet an array under an iterable is refused as if they had not. -/
theorem not_misuseIsStatic :
    (Sample.onHome .null).answer .isEmpty = .ok (.fail (.fact "expected not to be null" .null)) ∧
      (Sample.onHome (.path "/home")).answer .isEmpty =
        .error (.notApplicable .isEmpty "PathSubject") ∧
      (Sample.onNames (.list [])).answer .isEmpty = .ok .pass ∧
      (Sample.onNames (.array [])).answer .isEmpty =
        .error (.notApplicable .isEmpty "IterableSubject") ∧
      ¬ ∀ (op : Operation) (kind : HandleKind), op.MisuseIsStatic kind :=
  ⟨rfl, rfl, rfl, rfl, fun hstatic => not_static_isEmpty .path (hstatic .isEmpty .path)⟩

/-- **When a call is a misuse.** Of every assertion but emptiness, a call is a misuse exactly if the
handle's kind does not have it. A call of emptiness is one exactly if the value is not null and has no
emptiness as the kind sees it, which for a kind without emptiness is every value but null. No call is
refused for any other reason. So on every kind misuse is static for every assertion but emptiness, and
on no kind it is for emptiness. -/
theorem misuse_conditions (h : Handle) (a : Assertion) :
    (h.Misused a ↔
      a.operation ≠ .isEmpty ∧ a.operation.isOn h.kind = false ∨
        a.operation = .isEmpty ∧ h.actual.isNull = false ∧
          Handle.emptiness? h.kind h.actual = none) ∧
    (∀ e, h.answer a = .error e → e = .notApplicable a.operation h.kind.simpleName) ∧
    (Operation.isEmpty.isOn h.kind = true ↔ ∃ v, Handle.emptiness? h.kind v ≠ none) ∧
    (a.operation.MisuseIsStatic h.kind ↔ a.operation ≠ .isEmpty) := by
  refine ⟨?_, fun e => Handle.eq_notApplicable_of_error, Handle.isOn_isEmpty_iff,
    Operation.misuseIsStatic_iff⟩
  by_cases ha : a.operation = .isEmpty
  · obtain rfl := Assertion.eq_isEmpty ha
    rw [Handle.misused_isEmpty_iff]
    simp [Assertion.operation]
  · rw [Handle.misused_iff ha]
    simp [ha]

end AssertionGen
