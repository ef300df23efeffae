import AssertionGen.Proofs.TypeVariables
import AssertionGen.Proofs.Occurrences
import AssertionGen.Proofs.WellFormed
/-!
# Type parameters behind a link

A link hands out the subject of another value type, and its return type is the bare name of that
subject's class. The bare name is the whole type if the class has no type parameters.

The link table lists the value types that declare none. But a subject also has a type parameter for
every type variable that a property uses undeclared, as in a nested type that reads a parameter of
its enclosing type. So `link_targets_generic_iff` says when the bare name is the whole type: exactly
if no type variable occurs in the types of the properties of the value type that is linked to. A
linked subject can have type parameters (`not_linkTargetsPlain`).
-/

namespace AssertionGen

variable {settings : Settings} {batch : List ValueType}

/-- The method hands out this subject: its handle is the one for the subject, and the type of its
property names the value type of the subject, which can be listed. -/
def Method.LinksTo (settings : Settings) (m : Method) (target : Subject) : Prop :=
  ∃ a t, m.body = .delegate a t (target.handle settings) ∧
    t.plainName? = some target.valueType.qualifiedName ∧ target.valueType.typeParameters = []

/-! ## Inferred type parameters -/

/-- Without declared type parameters all variables are inferred. -/
theorem ValueType.bindings_of_plain {v : ValueType} (hplain : v.typeParameters = []) :
    v.bindings = v.freeVariables.map fun n => ⟨n, [], true⟩ := by
  rw [bindings_eq, declaredBindings, hplain]
  rfl

theorem ValueType.bindings_eq_nil_iff {v : ValueType} (hplain : v.typeParameters = []) :
    v.bindings = [] ↔ ∀ p ∈ v.properties, ∀ n, ¬ JavaType.Occurs n p.type := by
  have hnone : v.bindings = [] ↔ ∀ n, ¬ v.Knows n := by
    rw [← List.map_eq_nil_iff (f := Binding.name), List.eq_nil_iff_forall_not_mem]
    exact forall_congr' fun n => not_congr ValueType.mem_map_bindings_iff
  have hknows : ∀ n, v.Knows n ↔ ∃ p ∈ v.properties, JavaType.Occurs n p.type := by
    intro n
    simp only [Knows, hplain, List.map_nil, List.not_mem_nil, false_or, JavaType.mem_occurrences_iff]
  simp only [hnone, hknows, not_exists, not_and]
  exact ⟨fun h p hp n => h n p hp, fun h n p hp => h p hp n⟩

namespace Java

theorem argumentsText_eq_empty_iff {bs : List Binding} : argumentsText bs = "" ↔ bs = [] := by
  unfold argumentsText
  split
  · next hnil => exact iff_of_true rfl hnil
  · next hne => exact iff_of_false (by simp) hne

/-- The own type of a class is its bare name exactly if it has no type parameters. -/
theorem subjectType_eq_name_iff (scope : Scope) (settings : Settings) (s : Subject) :
    (HeaderTexts.of scope settings s).subjectType = s.name ↔ s.typeParameters = [] := by
  show s.name ++ argumentsText s.typeParameters = s.name ↔ _
  rw [String.append_eq_left_iff, argumentsText_eq_empty_iff]

end Java

/-! ## Links -/

namespace Method

variable {s target : Subject} {m : Method}

/-- A handle for a subject leads to one of the report. -/
theorem exists_linksTo (hs : s ∈ (generateBatch settings batch).subjects) (hm : m ∈ s.methods)
    {a : Access} {t : JavaType} {package name factory : String}
    (hbody : m.body = .delegate a t (.subject package name factory)) :
    ∃ target ∈ (generateBatch settings batch).subjects, m.LinksTo settings target := by
  rw [(eq_assembled_of_mem_subjects hs).1] at hm
  rcases mem_methods_assembled_iff.mp hm with ⟨p, hp, hgroup⟩ | ⟨c, -, hconstant⟩
  · obtain ⟨rfl, rfl, hl⟩ := NamedProperty.resolve?_of_subject_handle
      (NamedProperty.mem_group_methods_iff.mpr hgroup) hbody
    obtain ⟨qualified, htype, hget⟩ := LinkTable.resolve?_eq_some_iff.mp hl
    obtain ⟨target, htarget, hhandle, hplain, rfl, -⟩ := reported_of_get?_settledTable hget
    refine ⟨target, htarget, p.named.access, p.named.property.type, ?_, htype, hplain⟩
    rw [hbody, ← hhandle]
    rfl
  · exact absurd hbody (body_ne_delegate_of_mem_constantGroup hconstant)

/-- The return type of a link is written as the bare name of the class. -/
theorem LinksTo.returnPieces (hs : s ∈ (generateBatch settings batch).subjects)
    (hm : m ∈ s.methods) (hlink : m.LinksTo settings target) (scope : Java.Scope) :
    (Java.returnPieces scope m.returns).2 = scope.text ⟨target.valueType.package, target.name⟩ := by
  obtain ⟨a, t, hbody, -, -⟩ := hlink
  rw [((wellFormed_of_mem_methods hs hm).handle _).mpr ⟨a, t, hbody⟩]
  rfl

end Method

/-- **When a link leads to a generic subject.** A handle for another subject leads to one of the
report. All type parameters of that subject are inferred: they are the type variables in the types of
its value type's properties, in first-seen order. The return type of the handle is the bare name of
the class, which is the own type of the class if and only if none of these types mentions a type
variable. -/
theorem link_targets_generic_iff (settings : Settings) (batch : List ValueType) {s : Subject}
    (hs : s ∈ (generateBatch settings batch).subjects) {m : Method} (hm : m ∈ s.methods)
    {a : Access} {t : JavaType} {package name factory : String}
    (hbody : m.body = .delegate a t (.subject package name factory)) :
    (∃ target ∈ (generateBatch settings batch).subjects, m.LinksTo settings target) ∧
      ∀ target ∈ (generateBatch settings batch).subjects, m.LinksTo settings target →
        target.typeParameters = target.valueType.freeVariables.map (fun n => ⟨n, [], true⟩) ∧
          (target.typeParameters = [] ↔
            ∀ p ∈ target.valueType.properties, ∀ n, ¬ JavaType.Occurs n p.type) ∧
          ∀ scope : Java.Scope,
            (Java.returnPieces scope m.returns).2 =
                scope.text ⟨target.valueType.package, target.name⟩ ∧
              ((Java.HeaderTexts.of scope settings target).subjectType = target.name ↔
                target.typeParameters = []) := by
  refine ⟨Method.exists_linksTo hs hm hbody, fun target htarget hlink => ?_⟩
  have hplain : target.valueType.typeParameters = [] := by
    obtain ⟨-, -, -, -, hplain⟩ := hlink
    exact hplain
  have hbindings : target.typeParameters = target.valueType.bindings := by
    rw [(eq_assembled_of_mem_subjects htarget).1]
    rfl
  refine ⟨?_, ?_, fun scope => ⟨hlink.returnPieces hs hm scope, ?_⟩⟩
  · rw [hbindings, ValueType.bindings_of_plain hplain]
  · rw [hbindings, ValueType.bindings_eq_nil_iff hplain]
  · exact Java.subjectType_eq_name_iff scope settings target

/-! ## A nested type that reads a parameter of its enclosing type -/

namespace Sample

/-- `Grid.Cell` with a value of type `T`, which is a parameter of `Grid`. -/
def cell : ValueType :=
  ⟨"Cell", "com.example", ["Grid"], [getter "getValue" (.typeVariable "T")], [], []⟩

def row : ValueType := valueType "Row" [getter "getFirst" (declared "Grid.Cell")]

def sheet : List ValueType := [cell, row]

/-- The subject of a value type as the report of the sheet has it. -/
def sheetSubject (v : ValueType) : Subject :=
  v.assembled Settings.standard (settledTable Settings.standard sheet)

/-- The first cell of a row is read through a handle. -/
def firstHandle : Method := (getter "getFirst" (declared "Grid.Cell")).named.delegate
  ((sheetSubject cell).handle Settings.standard)

theorem cell_mem_subjects :
    sheetSubject cell ∈ (generateBatch Settings.standard sheet).subjects := by decide +kernel

theorem row_mem_subjects :
    sheetSubject row ∈ (generateBatch Settings.standard sheet).subjects := by decide +kernel

theorem firstHandle_mem_methods : firstHandle ∈ (sheetSubject row).methods := by decide +kernel

theorem firstHandle_linksTo : firstHandle.LinksTo Settings.standard (sheetSubject cell) :=
  ⟨_, _, rfl, by decide +kernel, rfl⟩

end Sample

theorem link_targets_generic_iff_sheet :
    Sample.sheetSubject Sample.row ∈ (generateBatch Settings.standard Sample.sheet).subjects ∧
      Sample.firstHandle ∈ (Sample.sheetSubject Sample.row).methods ∧
      (Sample.sheetSubject Sample.cell).typeParameters =
        Sample.cell.freeVariables.map (fun n => ⟨n, [], true⟩) := by
  have hlinks := link_targets_generic_iff Settings.standard Sample.sheet Sample.row_mem_subjects
    Sample.firstHandle_mem_methods rfl
  exact ⟨Sample.row_mem_subjects, Sample.firstHandle_mem_methods,
    (hlinks.2 _ Sample.cell_mem_subjects Sample.firstHandle_linksTo).1⟩

/-- The subjects that links lead to have no type parameters. -/
def LinkTargetsPlain (settings : Settings) (batch : List ValueType) : Prop :=
  ∀ s ∈ (generateBatch settings batch).subjects, ∀ m ∈ s.methods,
    ∀ target ∈ (generateBatch settings batch).subjects, m.LinksTo settings target →
      target.typeParameters = []

/-- The subject of `Grid.Cell` has the type parameter `T`, and `Row` links to it. -/
theorem not_linkTargetsPlain : ¬ LinkTargetsPlain Settings.standard Sample.sheet := by
  intro hplain
  have hnone : (Sample.sheetSubject Sample.cell).typeParameters = [] :=
    hplain _ Sample.row_mem_subjects _ Sample.firstHandle_mem_methods _ Sample.cell_mem_subjects
      Sample.firstHandle_linksTo
  have hparameter : ⟨"T", [], true⟩ ∈ (Sample.sheetSubject Sample.cell).typeParameters := by
    decide +kernel
  rw [hnone] at hparameter
  cases hparameter

end AssertionGen
