import AssertionGen.Proofs.Calls
/-!
# Containment with and without the handle

Iterables and bags of a known element type offer containment in two ways: on the handle that `x()`
hands out, and directly by `hasX(…)` and `doesNotHaveX(…)`. The direct methods build their handle a
second time, from fields of their own. `convenience_agrees` says that this makes no difference: for
arguments that they accept they answer what the same assertion on the handle of `x()` answers, and
where `x()` hands out none, for null or a missing property, they answer what `x()` does.

The direct methods assert on the handle as `Runner.contained` gives it, a bag as a bag and everything
else as an iterable. The two agree because only iterables and bags get the methods
(`exists_methods_eq`).
-/

namespace AssertionGen

namespace NamedProperty

variable {p : NamedProperty} {m : Method}

theorem exists_convenience_eq {handle : HandleKind} {e : Option JavaType}
    (hm : m ∈ p.convenience handle e) :
    ∃ element, p.convenience handle e =
      [p.contains handle element .atLeast, p.contains handle element .noneOf] := by
  unfold convenience at hm ⊢
  split at hm
  · cases hm
  · cases hm
  · next element _ =>
    split at hm
    · cases hm
    · next hclosed => exact ⟨element, if_neg hclosed⟩

/-- A property with one containment has both, and asserts them on a handle of its own kind. -/
theorem exists_methods_eq {a : Access} {h : HandleKind} {mode : Containment} (hm : m ∈ p.methods)
    (hbody : m.body = .contains a h mode) :
    p.category.isBoolean = false ∧ ∃ handle element, Runner.contained handle = handle ∧
      p.methods = [p.delegate handle, p.contains handle element .atLeast,
        p.contains handle element .noneOf] := by
  obtain ⟨hplain, handle, e, hkind, hmem, hmethods⟩ := exists_methods_eq_of_contains hm hbody
  obtain ⟨element, hconvenience⟩ := exists_convenience_eq hmem
  refine ⟨hplain, handle, element, ?_, by rw [hmethods, hconvenience]⟩
  rcases hkind with rfl | rfl <;> rfl

end NamedProperty

/-! ## Two ways to a handle -/

/-- One of the two assertions of containment. -/
def Handle.asserts (h : Handle) (mode : Containment) (args : List Value) : Verdict :=
  match mode with
  | .atLeast => h.containsAtLeast args
  | .noneOf => h.containsNoneOf args

namespace Runner

/-- What an assertion on the handle that a call hands out comes to; if the call hands out none, its
own answer stands. -/
def onHandle (answer : Verdict) (assertion : Handle → Verdict) : Verdict :=
  match answer with
  | .ok (.handle h) => assertion h
  | other => other

theorem onHandle_of_ne {answer : Verdict} (h : ∀ handle, answer ≠ .ok (.handle handle))
    (assertion : Handle → Verdict) : onHandle answer assertion = answer := by
  unfold onHandle
  split
  · next handle => exact absurd rfl (h handle)
  · rfl

variable {r : Runner} {args : List Value}

/-- A containment does what the handle does, if its kind stays what it is. -/
theorem run_contains {p : NamedProperty} {kind : HandleKind} (hkind : contained kind = kind)
    (element : JavaType) (mode : Containment) :
    r.run (p.contains kind element mode) args =
      onHandle (r.run (p.delegate kind) []) (·.asserts mode args) := by
  have hcontains : (p.contains kind element mode).body.access? = some p.access := rfl
  have hdelegate : (p.delegate kind).body.access? = some p.access := rfl
  rw [run_of_access hcontains, run_of_access hdelegate]
  cases r.actual.isNull with
  | true => rfl
  | false =>
      cases r.property p.access.accessor with
      | error e => rfl
      | ok v =>
          show runOn (p.contains kind element mode) args v = _
          cases mode <;> simp [runOn, NamedProperty.contains, NamedProperty.delegate, displayName,
            hkind] <;> rfl

theorem checkArguments_contains_eq_ok_iff {p : NamedProperty} {kind : HandleKind}
    {element : JavaType} {mode : Containment} :
    r.checkArguments (p.contains kind element mode) args = .ok () ↔
      ∀ v ∈ args, v.conforms? r.typeArguments element = some true := by
  have hparameters : (p.contains kind element mode).parameters =
      [⟨"expected", element, true, false⟩] := rfl
  exact checkArguments_variadic_eq_ok_iff hparameters rfl

/-- A method of this name takes the arguments. -/
def Accepts (r : Runner) (name : String) (args : List Value) : Prop :=
  ∃ m, r.subject.method? name = some m ∧ r.checkArguments m args = .ok ()

theorem accepts_iff_of_mem {settings : Settings} {batch : List ValueType}
    (hs : r.subject ∈ (generateBatch settings batch).subjects) {m : Method}
    (hm : m ∈ r.subject.methods) : r.Accepts m.name args ↔ r.checkArguments m args = .ok () := by
  simp [Accepts, method?_of_mem_subjects hs hm]

end Runner

/-! ## Properties with both -/

/-- The word with which the name of a containment begins. -/
def Containment.verb : Containment → String
  | .atLeast => "has"
  | .noneOf => "doesNotHave"

/-- A subject has the handle of a property and both containments for an element type, all of one
kind, on which containment is asserted as it stands. -/
structure Subject.HasContainments (s : Subject) (p : Property) (kind : HandleKind)
    (element : JavaType) : Prop where
  plain : p.named.category.isBoolean = false
  contained : Runner.contained kind = kind
  delegate_mem : p.named.delegate kind ∈ s.methods
  contains_mem : ∀ mode, p.named.contains kind element mode ∈ s.methods

variable {settings : Settings} {batch : List ValueType}

/-- A property whose group has one containment has all there is to it. -/
theorem Subject.exists_hasContainments {s : Subject}
    (hs : s ∈ (generateBatch settings batch).subjects) {k : Nat} {p : Property} {g : MethodGroup}
    (hp : s.valueType.properties[k]? = some p) (hg : s.groups[k]? = some g)
    (hgot : ∃ m ∈ g.methods, ∃ a h mode, m.body = .contains a h mode) :
    ∃ kind element, s.HasContainments p kind element := by
  obtain ⟨m, hm, a, h, mode, hbody⟩ := hgot
  rw [(eq_assembled_of_mem_subjects hs).1, groups_assembled_of_property hp] at hg
  rw [← Option.some.inj hg] at hm
  have hown : m ∈ p.named.methods := by
    rcases NamedProperty.mem_group_methods_iff.mp hm with hlink | hown
    · -- a link is a handle and no containment
      obtain ⟨-, l, -, rfl⟩ := NamedProperty.linkedHandle?_eq_some_iff.mp hlink
      cases hbody
    · exact hown
  obtain ⟨hplain, kind, element, hcontained, hmethods⟩ := NamedProperty.exists_methods_eq hown hbody
  have hoffered : ∀ m' ∈ p.named.methods, m' ∈ s.methods := fun m' hm' =>
    mem_methods_of_property hs (List.mem_of_getElem? hp) hm'
  rw [hmethods] at hoffered
  refine ⟨kind, element, hplain, hcontained, hoffered _ (by simp), fun mode => ?_⟩
  cases mode
  · exact hoffered _ (by simp)
  · exact hoffered _ (by simp)

namespace Subject.HasContainments

variable {r : Runner} {p : Property} {kind : HandleKind} {element : JavaType}

theorem name_delegate (h : r.subject.HasContainments p kind element) :
    (p.named.delegate kind).name = escapeReserved (baseName p.accessor false) := by
  rw [← Property.base_named h.plain]
  rfl

theorem name_contains (h : r.subject.HasContainments p kind element) (mode : Containment) :
    (p.named.contains kind element mode).name = mode.verb ++ p.title := by
  rw [← Property.title_named h.plain]
  cases mode <;> rfl

theorem invoke_delegate (hs : r.subject ∈ (generateBatch settings batch).subjects)
    (h : r.subject.HasContainments p kind element) :
    r.invoke (escapeReserved (baseName p.accessor false)) [] = r.run (p.named.delegate kind) [] := by
  rw [← h.name_delegate]
  exact Runner.invoke_of_accepted hs h.delegate_mem (Runner.checkArguments_of_no_parameters rfl)

/-- Both containments take what fits the element type. -/
theorem accepts_iff (hs : r.subject ∈ (generateBatch settings batch).subjects)
    (h : r.subject.HasContainments p kind element) (mode : Containment) (args : List Value) :
    r.Accepts (mode.verb ++ p.title) args ↔
      ∀ v ∈ args, v.conforms? r.typeArguments element = some true := by
  rw [← h.name_contains, Runner.accepts_iff_of_mem hs (h.contains_mem mode),
    Runner.checkArguments_contains_eq_ok_iff]

/-- A containment answers through the handle. -/
theorem invoke_contains (hs : r.subject ∈ (generateBatch settings batch).subjects)
    (h : r.subject.HasContainments p kind element) (mode : Containment) {args : List Value}
    (haccepted : ∀ v ∈ args, v.conforms? r.typeArguments element = some true) :
    r.invoke (mode.verb ++ p.title) args =
      Runner.onHandle (r.invoke (escapeReserved (baseName p.accessor false)) [])
        (·.asserts mode args) := by
  have hargs : r.checkArguments (p.named.contains kind element mode) args = .ok () :=
    Runner.checkArguments_contains_eq_ok_iff.mpr haccepted
  rw [h.invoke_delegate hs, ← h.name_contains,
    Runner.invoke_of_accepted hs (h.contains_mem mode) hargs, Runner.run_contains h.contained]

/-- There is a handle wherever there is a value of the property. -/
theorem invoke_delegate_of_field (hs : r.subject ∈ (generateBatch settings batch).subjects)
    (h : r.subject.HasContainments p kind element) {v : Value}
    (hv : r.actual.field? p.accessor = some v) :
    r.invoke (escapeReserved (baseName p.accessor false)) [] =
      .ok (.handle ⟨accessText p.accessor p.kind, kind, v⟩) := by
  have hfield : r.actual.field? p.named.access.accessor = some v := hv
  have haccess : (p.named.delegate kind).body.access? = some p.named.access := rfl
  rw [h.invoke_delegate hs, Runner.run_of_field haccess hfield]
  rfl

end Subject.HasContainments

/-- **Containment does not depend on the way to the handle.** A property whose group has a containment
has both, and they accept the same arguments. On arguments that they accept, they answer what the
handle of the property answers to the same assertion; if the property hands out no handle but fails or
is misused, they answer just that. It hands one out wherever the value has the property. -/
theorem convenience_agrees (settings : Settings) (batch : List ValueType) {r : Runner}
    (hs : r.subject ∈ (generateBatch settings batch).subjects) {k : Nat} {p : Property}
    {g : MethodGroup} (hp : r.subject.valueType.properties[k]? = some p)
    (hg : r.subject.groups[k]? = some g)
    (hgot : ∃ m ∈ g.methods, ∃ a h mode, m.body = .contains a h mode) :
    (∀ args, r.Accepts ("has" ++ p.title) args ↔ r.Accepts ("doesNotHave" ++ p.title) args) ∧
    (∀ args, r.Accepts ("has" ++ p.title) args →
      (∀ h, r.invoke (escapeReserved (baseName p.accessor false)) [] = .ok (.handle h) →
        r.invoke ("has" ++ p.title) args = h.containsAtLeast args ∧
        r.invoke ("doesNotHave" ++ p.title) args = h.containsNoneOf args) ∧
      (∀ answer, r.invoke (escapeReserved (baseName p.accessor false)) [] = answer →
        (∀ h, answer ≠ .ok (.handle h)) →
        r.invoke ("has" ++ p.title) args = answer ∧
        r.invoke ("doesNotHave" ++ p.title) args = answer)) ∧
    ∀ v, r.actual.field? p.accessor = some v →
      ∃ kind, r.invoke (escapeReserved (baseName p.accessor false)) [] =
        .ok (.handle ⟨accessText p.accessor p.kind, kind, v⟩) := by
  obtain ⟨kind, element, h⟩ := Subject.exists_hasContainments hs hp hg hgot
  refine ⟨fun args => (h.accepts_iff hs .atLeast args).trans (h.accepts_iff hs .noneOf args).symm,
    fun args haccepts => ?_, fun v hv => ⟨kind, h.invoke_delegate_of_field hs hv⟩⟩
  have haccepted := (h.accepts_iff hs .atLeast args).mp haccepts
  have hatLeast := h.invoke_contains hs .atLeast haccepted
  have hnoneOf := h.invoke_contains hs .noneOf haccepted
  constructor
  · intro handle hhandle
    rw [hhandle] at hatLeast hnoneOf
    exact ⟨hatLeast, hnoneOf⟩
  · intro answer hanswer hnone
    rw [hanswer, Runner.onHandle_of_ne hnone] at hatLeast hnoneOf
    exact ⟨hatLeast, hnoneOf⟩

namespace Sample

/-- A property whose type is a bag by its supertype. -/
def members : Property :=
  getter "getMembers" (.declared "com.example" "Members" [] [.container .multiset [declared "Text"]])

/-- A value type with such a property. -/
def club : ValueType := valueType "Club" [members]

def aText : Value := .object "com.example.Text" []

/-- A runner on a `Club` with one member. -/
def aClub : Runner :=
  ⟨unlinked club, .object "com.example.Club" [("getMembers", .list [aText])], []⟩

end Sample

theorem convenience_agrees_club :
    Sample.unlinked Sample.club ∈ (generateBatch Settings.standard [Sample.club]).subjects ∧
      Sample.aClub.Accepts "hasMembers" [Sample.aText] ∧
      ∃ kind, Sample.aClub.invoke "members" [] =
          .ok (.handle ⟨"getMembers()", kind, .list [Sample.aText]⟩) ∧
        Sample.aClub.invoke "hasMembers" [Sample.aText] =
          Handle.containsAtLeast ⟨"getMembers()", kind, .list [Sample.aText]⟩ [Sample.aText] ∧
        Sample.aClub.invoke "doesNotHaveMembers" [Sample.aText] =
          Handle.containsNoneOf ⟨"getMembers()", kind, .list [Sample.aText]⟩ [Sample.aText] := by
  have hs : Sample.aClub.subject ∈ (generateBatch Settings.standard [Sample.club]).subjects := by
    decide +kernel
  have hg : Sample.aClub.subject.groups[0]? =
      some (Sample.members.named.group []) := rfl
  have hgot : ∃ m ∈ (Sample.members.named.group
      []).methods, ∃ a h mode,
        m.body = .contains a h mode :=
    ⟨Sample.members.named.contains .multiset (Sample.declared "Text") .atLeast, by decide +kernel,
      _, _, _, rfl⟩
  have htitle : Sample.members.title = "Members" := by decide +kernel
  have hbase : escapeReserved (baseName Sample.members.accessor false) = "members" := by
    decide +kernel
  have hagrees := convenience_agrees Settings.standard [Sample.club] hs
    (p := Sample.members) rfl hg hgot
  rw [htitle, hbase] at hagrees
  obtain ⟨-, hagree, hoffers⟩ := hagrees
  have hfits : ∀ v ∈ [Sample.aText], v.conforms? [] (Sample.declared "Text") = some true := by
    rw [List.forall_mem_singleton, Sample.aText, Sample.declared, Value.conforms?, demand?_declared]
    decide +kernel
  have haccepted : Sample.aClub.Accepts "hasMembers" [Sample.aText] :=
    ⟨Sample.members.named.contains .multiset (Sample.declared "Text") .atLeast, by decide +kernel,
      Runner.checkArguments_contains_eq_ok_iff.mpr hfits⟩
  obtain ⟨kind, hhandle⟩ := hoffers (.list [Sample.aText]) rfl
  exact ⟨hs, haccepted, kind, hhandle, (hagree _ haccepted).1 _ hhandle⟩

end AssertionGen
