import AssertionGen.Proofs.Blocks
import AssertionGen.Proofs.Nullability
import AssertionGen.Proofs.Ownership
import Mathlib.Data.List.Forall2
import Mathlib.Data.List.Zip
/-!
# Flags in the text of a unit

In the text of a unit a flag is one annotation: the mark in front of the parameter of an equality. It
is also a type that the unit refers to, and a type that is referred to claims a simple name. Here that
makes no difference. The header of every class refers to the annotation before any method does, so a
later reference finds the name claimed and changes neither an owner nor an import
(`Scope.claimAll_filter`). Two units that differ in flags have one scope (`unitScope_congr`), and
with it the same imports and the same text for every type; what differs are the headers of
equalities, and with the mark dropped from them the units are the same.

`nullability_only_marks` puts this together with what the flags do to errors, subjects and calls.
-/

namespace AssertionGen

variable {settings : Settings} {table : LinkTable} {batch other : List ValueType} {v w : ValueType}
  {p q : Property} {b : Bool}

/-- Lists that agree under a function agree under it place by place. -/
theorem forall₂_of_map_eq {α β : Type} {f : α → β} {as bs : List α} (h : as.map f = bs.map f) :
    List.Forall₂ (fun a b => f a = f b) as bs := by
  rw [← List.forall₂_eq_eq_eq] at h
  exact List.forall₂_map_left_iff.mp (List.forall₂_map_right_iff.mp h)

namespace Java

/-! ## One scope -/

namespace Scope

variable {s : Scope} {t : TypeName}

/-- A simple name that has an owner is not claimed again. -/
theorem claim_of_claimed (h : (s.claimed.get? t.outer).isSome) : s.claim t = s := by
  obtain ⟨owner, howner⟩ := Option.isSome_iff_exists.mp h
  unfold claim
  rw [howner]

theorem isSome_get?_of_claim {n : String} (h : (s.claimed.get? n).isSome) (u : TypeName) :
    ((s.claim u).claimed.get? n).isSome := by
  obtain ⟨owner, howner⟩ := Option.isSome_iff_exists.mp h
  rw [get?_claim, howner, Option.some_or]
  rfl

/-- Once its simple name has an owner, references to a type may be left out. -/
theorem claimAll_filter (h : (s.claimed.get? t.outer).isSome) (ts : List TypeName) :
    s.claimAll ts = s.claimAll (ts.filter (· ≠ t)) := by
  induction ts generalizing s with
  | nil => rfl
  | cons u ts ih =>
      by_cases hu : u = t
      · subst hu
        rw [List.filter_cons_of_neg (by simp), ← ih h]
        show (s.claim u).claimAll ts = s.claimAll ts
        rw [claim_of_claimed h]
      · rw [List.filter_cons_of_pos (by simpa using hu)]
        exact ih (isSome_get?_of_claim h u)

theorem isSome_get?_claimAll {ts : List TypeName} (h : t ∈ ts) :
    ((s.claimAll ts).claimed.get? t.outer).isSome := by
  have hfirst : (firstClaim? ts t.outer).isSome :=
    List.find?_isSome.mpr ⟨t, h, decide_eq_true rfl⟩
  obtain ⟨u, hu⟩ := Option.isSome_iff_exists.mp hfirst
  rw [get?_claimAll, hu]
  cases s.claimed.get? t.outer <;> rfl

end Scope

/-- Apart from the annotation, a method refers to the same types under all marks. -/
theorem methodNames_unmarked (m : Method) :
    (methodNames m.unmarked).filter (· ≠ nullableMark) =
      (methodNames m).filter (· ≠ nullableMark) := by
  rcases m.equality_or_marked_eq with ⟨a, t, nullSensitive, hbody⟩ | hplain
  · have hparameter : ∀ p : Parameter,
        (parameterNames { p with nullable := false }).filter (· ≠ nullableMark) =
          (parameterNames p).filter (· ≠ nullableMark) := by
      intro p
      unfold parameterNames
      cases p.nullable <;> simp [List.filter_append]
    have hparameters : ∀ ps : List Parameter,
        ((ps.map fun p => { p with nullable := false }).flatMap parameterNames).filter
            (· ≠ nullableMark) =
          (ps.flatMap parameterNames).filter (· ≠ nullableMark) := by
      intro ps
      rw [List.flatMap_map, List.filter_flatMap, List.filter_flatMap]
      exact congrArg _ (List.map_congr_left fun p _ => hparameter p)
    rw [Method.unmarked, Method.marked_of_equals hbody]
    unfold methodNames
    rw [hbody]
    simp only [List.filter_append, hparameters]
    rfl
  · rw [Method.unmarked, hplain]

variable {s s' : Subject}

theorem otherNames_congr (h : s.DiffersInMarks s') :
    (s.methods.flatMap methodNames).filter (· ≠ nullableMark) =
      (s'.methods.flatMap methodNames).filter (· ≠ nullableMark) := by
  have hunmarked : ∀ ms : List Method, (ms.flatMap methodNames).filter (· ≠ nullableMark) =
      (ms.map Method.unmarked).flatMap fun m => (methodNames m).filter (· ≠ nullableMark) := by
    intro ms
    rw [List.filter_flatMap, List.flatMap_map]
    exact congrArg _ (List.map_congr_left fun m _ => (methodNames_unmarked m).symm)
  rw [hunmarked, hunmarked, h.unmarked_methods]

theorem headerNames_congr (settings : Settings) (h : s.DiffersInMarks s') :
    headerNames settings s = headerNames settings s' := by
  unfold headerNames
  rw [h.typeParameters, ValueType.eq_with_properties h.valueType]
  rfl

theorem nullableMark_mem_headerNames (settings : Settings) (s : Subject) :
    nullableMark ∈ headerNames settings s := by
  simp [headerNames]

/-- Subjects that differ in marks alone are written in one scope. -/
theorem unitScope_congr (settings : Settings) (h : s.DiffersInMarks s') :
    unitScope settings s = unitScope settings s' := by
  have hpackage : s.valueType.package = s'.valueType.package := by
    rw [ValueType.eq_with_properties h.valueType]
  unfold unitScope unitNames
  rw [Scope.claimAll_append, Scope.claimAll_append, headerNames_congr settings h, h.name, hpackage]
  -- the header of the class refers to the annotation before any method does, so that what the methods
  -- refer to may be compared without it
  have hclaimed := Scope.isSome_get?_claimAll (s := (Scope.empty s'.valueType.package).reserve s'.name)
    (nullableMark_mem_headerNames settings s')
  rw [Scope.claimAll_filter hclaimed, otherNames_congr h, ← Scope.claimAll_filter hclaimed]

/-! ## Headers with and without the mark -/

/-- The header of a property's equality, with the mark of its parameter or without. -/
def equalityHeader (scope : Scope) (p : Property) (marked : Bool) : String :=
  "public void has" ++ p.named.title ++ "(" ++
    ((if marked then mark scope nullableMark ++ " " else "") ++ typeText scope p.type) ++ " expected)"

/-- The second piece is the first one, or the first one is the header of an equality for a property
whose flag has changed, and the second one is that header without its mark. -/
inductive DropsMark (scope : Scope) (v w : ValueType) : Piece → Piece → Prop where
  | same (piece : Piece) : DropsMark scope v w piece piece
  | mark {p q : Property} (hpair : (p, q) ∈ v.properties.zip w.properties)
      (hshows : p.named.category.showsFlag = true) (hchanged : p.nullable ≠ q.nullable) :
      DropsMark scope v w (.opening (equalityHeader scope p true))
        (.opening (equalityHeader scope p false))

/-- The texts become one when marks are dropped from both. -/
def AgreeUnmarked (scope : Scope) (v w : ValueType) (xs ys : List Piece) : Prop :=
  ∃ plain, List.Forall₂ (DropsMark scope v w) xs plain ∧ List.Forall₂ (DropsMark scope w v) ys plain

variable {scope : Scope}

namespace AgreeUnmarked

theorem forall₂_same (scope : Scope) (v w : ValueType) (xs : List Piece) :
    List.Forall₂ (DropsMark scope v w) xs xs :=
  List.forall₂_same.mpr fun x _ => .same x

theorem refl (xs : List Piece) : AgreeUnmarked scope v w xs xs :=
  ⟨xs, forall₂_same scope v w xs, forall₂_same scope w v xs⟩

theorem append {xs ys xs' ys' : List Piece} (h : AgreeUnmarked scope v w xs ys)
    (h' : AgreeUnmarked scope v w xs' ys') : AgreeUnmarked scope v w (xs ++ xs') (ys ++ ys') := by
  obtain ⟨plain, hxs, hys⟩ := h
  obtain ⟨plain', hxs', hys'⟩ := h'
  exact ⟨plain ++ plain', List.rel_append hxs hxs', List.rel_append hys hys'⟩

theorem flatMap {α : Type} {f : α → List Piece} {as bs : List α}
    (h : List.Forall₂ (fun a b => AgreeUnmarked scope v w (f a) (f b)) as bs) :
    AgreeUnmarked scope v w (as.flatMap f) (bs.flatMap f) := by
  induction h with
  | nil => exact refl []
  | cons hab _ ih => exact hab.append ih

end AgreeUnmarked

theorem methodHeader_equals (scope : Scope) (p : Property) (b : Bool) :
    methodHeader scope (p.named.equals b) = equalityHeader scope p b := by
  have hverb : "public " ++ "void" ++ " " ++ "has" = "public void has" := by decide
  have hexpected : " " ++ "expected" ++ ")" = " expected)" := by decide
  have hreturns : (returnPieces scope (p.named.equals b).returns).2 = "void" := rfl
  have hname : (p.named.equals b).name = "has" ++ p.named.title := rfl
  have hparameters : (p.named.equals b).parameters = [⟨"expected", p.type, false, b⟩] := rfl
  unfold methodHeader equalityHeader
  simp only [hreturns, hname, hparameters, List.map_singleton, String.intercalate_singleton,
    parameterText, ← hverb, ← hexpected, String.append_assoc, String.empty_append,
    Bool.false_eq_true, if_false]

/-- Apart from its header, an equality is written in one way. -/
theorem methodPieces_equals (scope : Scope) (valueType : String) (p : Property) (b : Bool) :
    methodPieces scope valueType (p.named.equals b) =
      .opening (equalityHeader scope p b) ::
        (bodyPieces scope valueType (p.named.equals false) ++ [.closing]) := by
  rw [← methodHeader_equals]
  rfl

/-- The equality of a property whose flag has changed loses its mark, if it has one. -/
theorem dropsMark_equals (scope : Scope) (valueType : String)
    (hpair : (p, q) ∈ v.properties.zip w.properties) (hshows : p.named.category.showsFlag = true)
    (hchanged : p.nullable ≠ q.nullable) :
    List.Forall₂ (DropsMark scope v w) (methodPieces scope valueType (p.named.equals p.nullable))
      (methodPieces scope valueType (p.named.equals false)) := by
  rw [methodPieces_equals, methodPieces_equals]
  refine List.Forall₂.cons ?_ (AgreeUnmarked.forall₂_same scope v w _)
  cases p.nullable with
  | false => exact .same _
  | true => exact .mark hpair hshows hchanged

theorem agreeUnmarked_equals (scope : Scope) (valueType : String)
    (hpair : (p, q) ∈ v.properties.zip w.properties) (hunflagged : p.unflagged = q.unflagged)
    (hshows : p.named.category.showsFlag = true) (hchanged : p.nullable ≠ q.nullable) :
    AgreeUnmarked scope v w (methodPieces scope valueType (p.named.equals p.nullable))
      (methodPieces scope valueType (q.named.equals q.nullable)) := by
  have hpair' : (q, p) ∈ w.properties.zip v.properties := by
    rw [← List.zip_swap]
    exact List.mem_map.mpr ⟨(p, q), hpair, rfl⟩
  have hshows' : q.named.category.showsFlag = true := by
    rw [Property.eq_flagged hunflagged]
    exact hshows
  have hplain : q.named.equals false = p.named.equals false := by
    rw [Property.eq_flagged hunflagged]
    rfl
  have hq := dropsMark_equals scope valueType hpair' hshows' hchanged.symm
  rw [hplain] at hq
  exact ⟨_, dropsMark_equals scope valueType hpair hshows hchanged, hq⟩

/-- The group of a property in the units of both value types. -/
theorem agreeUnmarked_group (table : LinkTable) (valueType : String)
    (hpair : (p, q) ∈ v.properties.zip w.properties) (hunflagged : p.unflagged = q.unflagged) :
    AgreeUnmarked scope v w
      ((p.named.group table).methods.flatMap fun m => .blank :: methodPieces scope valueType m)
      ((q.named.group table).methods.flatMap fun m => .blank :: methodPieces scope valueType m) := by
  have hq : q.named = p.named.flagged q.nullable := by
    conv_lhs => rw [Property.eq_flagged hunflagged]
    rfl
  by_cases hsame : p.nullable = q.nullable
  · have hequal : q = p := by
      rw [Property.eq_flagged hunflagged, ← hsame]
      rfl
    rw [hequal]
    exact .refl _
  · by_cases hshows : p.named.category.showsFlag = true
    · -- the links agree, and after them comes the equality
      have hp : (p.named.group table).methods =
          (p.named.linkedHandle? table).toList ++ [p.named.equals p.nullable] :=
        congrArg (_ ++ ·) (NamedProperty.methods_of_showsFlag hshows)
      have hq' : (q.named.group table).methods =
          (p.named.linkedHandle? table).toList ++ [q.named.equals q.nullable] := by
        rw [hq]
        exact congrArg (_ ++ ·) (NamedProperty.methods_flagged_of_showsFlag hshows)
      rw [hp, hq', List.flatMap_append, List.flatMap_append, List.flatMap_singleton,
        List.flatMap_singleton]
      refine AgreeUnmarked.append (.refl _) ?_
      exact AgreeUnmarked.append (.refl [.blank])
        (agreeUnmarked_equals scope valueType hpair hunflagged hshows hsame)
    · rw [hq, NamedProperty.group_flagged, if_neg hshows]
      exact .refl _

/-! ## Two units -/

theorem methods_assembled (settings : Settings) (table : LinkTable) (v : ValueType) :
    (v.assembled settings table).methods =
      v.properties.flatMap (fun p => (p.named.group table).methods) ++
        v.enumConstants.flatMap fun c => (constantGroup c).methods := by
  rw [Subject.methods, groups_assembled, List.flatMap_append, List.flatMap_map, List.flatMap_map]

theorem headPieces_congr (scope : Scope) (settings : Settings) (h : s.DiffersInMarks s') :
    headPieces scope settings s = headPieces scope settings s' := by
  have htexts : HeaderTexts.of scope settings s = HeaderTexts.of scope settings s' := by
    unfold HeaderTexts.of
    rw [h.name, h.typeParameters, ValueType.eq_with_properties h.valueType]
    rfl
  unfold headPieces
  rw [htexts, h.typeParameters]

/-- The classes of two value types that differ in flags, written in one scope. -/
theorem agreeUnmarked_classPieces (scope : Scope) (settings : Settings) (table : LinkTable)
    (h : v.unflagged = w.unflagged) :
    AgreeUnmarked scope v w (classPieces scope settings (v.assembled settings table))
      (classPieces scope settings (w.assembled settings table)) := by
  have hproperties : List.Forall₂ (fun p q => p.unflagged = q.unflagged) v.properties w.properties :=
    forall₂_of_map_eq (ValueType.map_properties_unflagged h)
  have hgroups : List.Forall₂ (fun p q => AgreeUnmarked scope v w
      ((p.named.group table).methods.flatMap fun m =>
        .blank :: methodPieces scope (typeText scope v.selfType) m)
      ((q.named.group table).methods.flatMap fun m =>
        .blank :: methodPieces scope (typeText scope v.selfType) m)) v.properties w.properties := by
    refine List.forall₂_iff_zip.mpr ⟨hproperties.length_eq, ?_⟩
    intro p q hpair
    exact agreeUnmarked_group table _ hpair (List.forall₂_zip hproperties hpair)
  have hv : (v.assembled settings table).valueType.selfType = v.selfType := rfl
  have hw : (w.assembled settings table).valueType.selfType = v.selfType := by
    show w.selfType = v.selfType
    rw [ValueType.eq_with_properties h]
    rfl
  have hconstants : w.enumConstants = v.enumConstants := by
    rw [ValueType.eq_with_properties h]
  rw [classPieces_eq, classPieces_eq, hv, hw,
    headPieces_congr scope settings (assembled_differsInMarks settings table h), methods_assembled,
    methods_assembled, List.flatMap_append, List.flatMap_append, hconstants]
  -- the head, the constants and the closing are the same in both
  refine (AgreeUnmarked.refl _).append (AgreeUnmarked.append (AgreeUnmarked.append ?_ (.refl _))
    (.refl _))
  rw [List.flatMap_assoc, List.flatMap_assoc]
  exact AgreeUnmarked.flatMap hgroups

/-- The units of two subjects have one package, one name, one scope and in front of the class the same
text, the imports included; the classes become one when the marks of changed properties are
dropped. -/
structure UnitsDifferInMarks (settings : Settings) (s s' : Subject) (u u' : SourceUnit) : Prop where
  package : u.package = u'.package
  name : u.name = u'.name
  scope : unitScope settings s = unitScope settings s'
  source : ∃ lines lines' : List Piece,
    u.source = Piece.writeAll settings.indent (preamblePieces (unitScope settings s)) ++
      Piece.writeAll settings.indent lines ∧
    u'.source = Piece.writeAll settings.indent (preamblePieces (unitScope settings s)) ++
      Piece.writeAll settings.indent lines' ∧
    AgreeUnmarked (unitScope settings s) s.valueType s'.valueType lines lines'

theorem unitsDifferInMarks_assembled (settings : Settings) (table : LinkTable)
    (h : v.unflagged = w.unflagged) :
    UnitsDifferInMarks settings (v.assembled settings table) (w.assembled settings table)
      (SourceUnit.ofSubject settings (v.assembled settings table))
      (SourceUnit.ofSubject settings (w.assembled settings table)) where
  package := by
    show v.package = w.package
    rw [ValueType.eq_with_properties h]
  name := (assembled_differsInMarks settings table h).name
  scope := unitScope_congr settings (assembled_differsInMarks settings table h)
  source := by
    refine ⟨_, _, rfl, ?_, agreeUnmarked_classPieces _ settings table h⟩
    rw [unitScope_congr settings (assembled_differsInMarks settings table h)]
    rfl

end Java

/-! ## Two reports -/

/-- What comes of two value types that differ in flags: the same failure, or two subjects that differ
in marks, with units that differ in marks, and that answer every call alike. -/
inductive Fate.DifferInMarks (settings : Settings) (v w : ValueType) : Fate → Fate → Prop where
  | failed {e : GenerationError} (he : e.valueType = v.qualifiedName) :
      DifferInMarks settings v w (.error e) (.error e)
  | made {s s' : Subject} {u u' : Java.SourceUnit} (hs : s.valueType = v) (hs' : s'.valueType = w)
      (hsubjects : s.DiffersInMarks s') (hunits : Java.UnitsDifferInMarks settings s s' u u')
      (hcalls : ∀ actual typeArguments name args, Runner.invoke ⟨s, actual, typeArguments⟩ name args =
        Runner.invoke ⟨s', actual, typeArguments⟩ name args) :
      DifferInMarks settings v w (.ok (s, u)) (.ok (s', u'))

theorem fateIn_differInMarks (settings : Settings)
    (hbatch : batch.map ValueType.unflagged = other.map ValueType.unflagged)
    (h : v.unflagged = w.unflagged) :
    (fateIn settings batch v).DifferInMarks settings v w (fateIn settings other w) := by
  unfold fateIn
  rw [← settledTable_congr settings hbatch, generate_flags settings _ h]
  cases hresult : generate settings (settledTable settings batch) v with
  | error e => exact .failed (valueType_of_generate_eq_error hresult)
  | ok s =>
      obtain rfl := eq_assembled_of_generate hresult
      have hsubjects := assembled_differsInMarks settings (settledTable settings batch) h
      exact .made rfl rfl hsubjects (Java.unitsDifferInMarks_assembled settings _ h)
        (Runner.invoke_congr hsubjects)

/-- The failures of two reports whose fates differ in marks are the same. -/
theorem failures_congr {vs ws : List ValueType} {f g : ValueType → Fate}
    (h : List.Forall₂ (fun v w => (f v).DifferInMarks settings v w (g w)) vs ws) :
    (Report.listing (vs.map f)).failures = (Report.listing (ws.map g)).failures := by
  show (vs.map f).filterMap Fate.failure? = (ws.map g).filterMap Fate.failure?
  induction h with
  | nil => rfl
  | @cons v w vs ws hfates _ ih =>
      have hhead : (f v).failure? = (g w).failure? := by
        generalize f v = x at hfates ⊢
        generalize g w = y at hfates ⊢
        cases hfates <;> rfl
      rw [List.map_cons, List.map_cons, List.filterMap_cons, List.filterMap_cons, hhead, ih]

/-- **Nullability only adds marks.** Of two batches that differ in flags alone, the same value types
fail with the same errors. The subjects of corresponding value types are equal but for the two marks
on the equality of each variable or object whose flag has changed. Their units have the same imports,
and become equal when the annotation is dropped from the headers of those equalities. Every call, of
every method on every value, has the same outcome on both. -/
theorem nullability_only_marks (settings : Settings)
    (h : batch.map ValueType.unflagged = other.map ValueType.unflagged) :
    (generateBatch settings batch).failures = (generateBatch settings other).failures ∧
      generateBatch settings batch = Report.listing (batch.map (fateIn settings batch)) ∧
      generateBatch settings other = Report.listing (other.map (fateIn settings other)) ∧
      List.Forall₂ (fun v w =>
        (fateIn settings batch v).DifferInMarks settings v w (fateIn settings other w)) batch other := by
  have hpairs : List.Forall₂ (fun v w : ValueType => v.unflagged = w.unflagged) batch other :=
    forall₂_of_map_eq h
  have hfates : List.Forall₂ (fun v w =>
      (fateIn settings batch v).DifferInMarks settings v w (fateIn settings other w)) batch other :=
    hpairs.imp fun v w hvw => fateIn_differInMarks settings h hvw
  refine ⟨?_, generateBatch_eq_listing settings batch, generateBatch_eq_listing settings other,
    hfates⟩
  rw [generateBatch_eq_listing, generateBatch_eq_listing]
  exact failures_congr hfates

namespace Sample

/-- `Holder` with an owner that may be null. -/
def flaggedHolder : ValueType :=
  valueType "Holder" [getter "content" (declared "Item"),
    (getter "owner" (declared "Person")).flagged true]

def flaggedCascade : List ValueType := [broken, item, person, flaggedHolder]

end Sample

/-- With the owner of `Holder` flagged, the cascade fails as it did, and the two subjects of `Holder`
differ in the marks of the second group. -/
theorem nullability_only_marks_cascade :
    Sample.cascade.map ValueType.unflagged = Sample.flaggedCascade.map ValueType.unflagged ∧
      (generateBatch Settings.standard Sample.cascade).failures =
        (generateBatch Settings.standard Sample.flaggedCascade).failures ∧
      (fateIn Settings.standard Sample.cascade Sample.holder).DifferInMarks Settings.standard
        Sample.holder Sample.flaggedHolder
        (fateIn Settings.standard Sample.flaggedCascade Sample.flaggedHolder) ∧
      changedFlag? Sample.holder Sample.flaggedHolder 1 = some true := by
  have hflags : Sample.cascade.map ValueType.unflagged =
      Sample.flaggedCascade.map ValueType.unflagged := rfl
  have hpair : (Sample.holder, Sample.flaggedHolder) ∈ Sample.cascade.zip Sample.flaggedCascade := by
    simp [Sample.cascade, Sample.flaggedCascade]
  obtain ⟨hfailures, -, -, hfates⟩ := nullability_only_marks Settings.standard hflags
  exact ⟨hflags, hfailures, List.forall₂_zip hfates hpair, by decide +kernel⟩

end AssertionGen
