import AssertionGen.Java.Unit
import AssertionGen.Proofs.Ownership
import Mathlib.Data.List.Basic
/-!
# What the text of a class depends on

A class is written in the finished scope of its unit, and asks that scope for the texts of types
only. `unitNames` leaves none of them out: two scopes that write these types alike write the class
alike (`classPieces_congr`). So what can be wrong with a name in a unit is wrong with the text of a
type in `unitNames`, or with a name for which the scope is not asked at all.
-/

namespace AssertionGen.Java

/-- Two scopes write these types alike. -/
def Scope.AgreeOn (s s' : Scope) (ts : List TypeName) : Prop := ∀ t ∈ ts, s.text t = s'.text t

namespace Scope.AgreeOn

variable {s s' : Scope} {ts us : List TypeName}

theorem mono (h : s.AgreeOn s' ts) (hsub : us ⊆ ts) : s.AgreeOn s' us := fun t ht => h t (hsub ht)

theorem left (h : s.AgreeOn s' (ts ++ us)) : s.AgreeOn s' ts :=
  h.mono (List.subset_append_left ts us)

theorem right (h : s.AgreeOn s' (ts ++ us)) : s.AgreeOn s' us :=
  h.mono (List.subset_append_right ts us)

theorem head {t : TypeName} (h : s.AgreeOn s' (t :: ts)) : s.text t = s'.text t :=
  h t List.mem_cons_self

theorem tail {t : TypeName} (h : s.AgreeOn s' (t :: ts)) : s.AgreeOn s' ts :=
  h.mono (List.subset_cons_self t ts)

end Scope.AgreeOn

variable {s s' : Scope}

/-! ## Types -/

mutual

theorem typeText_congr : ∀ t : JavaType, s.AgreeOn s' (typeNames t) → typeText s t = typeText s' t
  | .primitive _, _ | .typeVariable _, _ | .verbatim _, _ => by simp only [typeText]
  | .boxed _, h | .path, h => by simp only [typeText]; exact h.head
  | .array e, h => by simp only [typeText, typeText_congr e (by simpa only [typeNames] using h)]
  | .collection _ e, h | .optional _ e, h | .stream _ e, h => by
    simp only [typeNames] at h
    simp only [typeText, h.head, optionText_congr e h.tail]
  | .map _ (some a) (some b), h => by
    simp only [typeNames] at h
    simp only [typeText, h.head, typeText_congr a h.tail.left, typeText_congr b h.tail.right]
  | .map _ none _, h | .map _ (some _) none, h => by
    simp only [typeNames] at h
    simp only [typeText, h.head]
  | .container k as, h => by
    simp only [typeNames] at h
    by_cases harity : as.length = k.arity
    · simp only [if_pos harity] at h
      simp only [typeText, if_pos harity, h.head, listText_congr as h.tail]
    · simp only [typeText, if_neg harity, h.head]
  | .classRef none, h => by
    simp only [typeNames] at h
    simp only [typeText, h.head]
  | .classRef (some t), h => by
    simp only [typeNames, optionNames] at h
    simp only [typeText, h.head, typeText_congr t h.tail]
  | .wildcard none, _ => by simp only [typeText]
  | .wildcard (some u), h => by
    simp only [typeNames, optionNames] at h
    simp only [typeText, typeText_congr u h]
  | .declared _ _ as _, h => by
    simp only [typeNames] at h
    simp only [typeText, h.head, listText_congr as h.tail]

theorem optionText_congr :
    ∀ e : Option JavaType, s.AgreeOn s' (optionNames e) → optionText s e = optionText s' e
  | none, _ => by simp only [optionText]
  | some t, h => by
    simp only [optionNames] at h
    simp only [optionText, typeText_congr t h]

theorem listText_congr :
    ∀ ts : List JavaType, s.AgreeOn s' (listNames ts) → listText s ts = listText s' ts
  | [], _ => by simp only [listText]
  | t :: ts, h => by
    simp only [listNames] at h
    simp only [listText, typeText_congr t h.left, listText_congr ts h.right]

end

theorem handleText_congr {h : HandleKind} (hs : s.AgreeOn s' (handleNames h)) :
    handleText s h = handleText s' h := by
  cases h with
  | objectArray e => simp only [handleText, hs.head, typeText_congr e hs.tail]
  | _ => exact hs.head

theorem declarationText_congr {bs : List Binding} (h : s.AgreeOn s' (declarationNames bs)) :
    declarationText s bs = declarationText s' bs := by
  have hbindings : bs.map (bindingText s) = bs.map (bindingText s') := by
    refine List.map_congr_left fun b hb => ?_
    have hbounds : s.AgreeOn s' (listNames b.bounds) :=
      h.mono fun t ht => List.mem_flatMap.mpr ⟨b, hb, ht⟩
    rw [bindingText, bindingText, listText_congr b.bounds hbounds]
  rw [declarationText, declarationText, hbindings]

/-! ## Methods -/

theorem parameterText_congr {p : Parameter} (h : s.AgreeOn s' (parameterNames p)) :
    parameterText s p = parameterText s' p := by
  rw [parameterText, parameterText, typeText_congr p.type h.left]
  cases hnullable : p.nullable with
  | false => rfl
  | true =>
      have hmark := h.right
      rw [hnullable, if_pos rfl] at hmark
      simp only [mark, hmark.head]

theorem returnPieces_congr {r : Returns} (h : s.AgreeOn s' (returnNames r)) :
    returnPieces s r = returnPieces s' r := by
  cases r with
  | nothing => rfl
  | handle k => simp only [returnPieces, mark, h.head, handleText_congr h.tail]

theorem bodyPieces_congr {m : Method} (h : s.AgreeOn s' (bodyNames m.body)) (valueType : String) :
    bodyPieces s valueType m = bodyPieces s' valueType m := by
  unfold bodyPieces
  cases hbody : m.body with
  | truthy a negated boxed =>
      rw [hbody, bodyNames] at h
      have hfact : s.text factClass = s'.text factClass := h.head
      simp only [hfact]
  | equals a t nullSensitive => rfl
  | delegate a t k =>
      rw [hbody, bodyNames] at h
      cases hfactory : k.factory? with
      | none => simp only [hfactory]
      | some f =>
          simp only [hfactory, Option.isSome_some, if_true] at h
          have hhandle : s.text (handleName k) = s'.text (handleName k) := h.head
          simp only [hfactory, hhandle]
  | contains a k mode =>
      rw [hbody, bodyNames] at h
      have harrays : s.text arraysClass = s'.text arraysClass := h.head
      simp only [harrays]
  | constant c negated =>
      rw [hbody, bodyNames] at h
      have hfact : s.text factClass = s'.text factClass := h.head
      simp only [hfact]

theorem methodPieces_congr {m : Method} (h : s.AgreeOn s' (methodNames m)) (valueType : String) :
    methodPieces s valueType m = methodPieces s' valueType m := by
  have hparameters : m.parameters.map (parameterText s) = m.parameters.map (parameterText s') :=
    List.map_congr_left fun p hp => parameterText_congr
      (h.left.left.mono fun t ht => List.mem_flatMap.mpr ⟨p, hp, ht⟩)
  simp only [methodPieces, hparameters, returnPieces_congr h.left.right, bodyPieces_congr h.right]

/-! ## The class -/

variable {settings : Settings} {subject : Subject}

theorem HeaderTexts.of_congr (h : s.AgreeOn s' (headerNames settings subject)) :
    HeaderTexts.of s settings subject = HeaderTexts.of s' settings subject := by
  have hvalue := typeText_congr subject.valueType.selfType h.left.left.left.left
  have hdeclaration : declarationText s subject.typeParameters =
      declarationText s' subject.typeParameters := declarationText_congr h.left.left.left.right
  simp only [HeaderTexts.of, hvalue, hdeclaration]

theorem markPieces_congr (h : s.AgreeOn s' (headerNames settings subject)) :
    markPieces s settings = markPieces s' settings := by
  have hgenerated := h.left.right
  cases hmarked : settings.marked with
  | false => simp only [markPieces, hmarked, Bool.false_eq_true, if_false]
  | true =>
      rw [hmarked, if_pos rfl] at hgenerated
      simp only [markPieces, mark, hgenerated.head]

/-- The marks stand on the constructor, the factory and `assertThat` alike. -/
theorem staticPieces_congr (h : s.AgreeOn s' (headerNames settings subject)) (texts : HeaderTexts) :
    constructorPieces s texts = constructorPieces s' texts ∧
      factoryPieces s texts = factoryPieces s' texts ∧
      (if settings.assertThat then assertThatPieces s texts subject.typeParameters else []) =
        if settings.assertThat then assertThatPieces s' texts subject.typeParameters else [] := by
  have hcommon : s.AgreeOn s' [subjectBase, failureMetadata, nonnullMark, nullableMark] :=
    h.left.left.right
  have hbase := hcommon.head
  have hmetadata := hcommon.tail.head
  have hnonnull := hcommon.tail.tail.head
  have hnullable := hcommon.tail.tail.tail.head
  refine ⟨?_, ?_, ?_⟩
  · simp only [constructorPieces, mark, hnonnull, hmetadata, hnullable]
  · simp only [factoryPieces, mark, hnonnull, hbase]
  · have htruth := h.right
    cases hassert : settings.assertThat with
    | false => simp only [Bool.false_eq_true, if_false]
    | true =>
        rw [hassert, if_pos rfl] at htruth
        simp only [assertThatPieces, mark, hnonnull, hnullable, htruth.head]

/-- A class is the same text in all scopes that write its types alike. -/
theorem classPieces_congr (h : s.AgreeOn s' (unitNames settings subject)) :
    classPieces s settings subject = classPieces s' settings subject := by
  obtain ⟨hconstructor, hfactory, hassert⟩ :=
    staticPieces_congr h.left (HeaderTexts.of s' settings subject)
  have hbase : s.text subjectBase = s'.text subjectBase := h.left.left.left.right.head
  have hmethods : subject.methods.flatMap (fun m => .blank :: methodPieces s
        (HeaderTexts.of s' settings subject).valueType m) =
      subject.methods.flatMap fun m => .blank :: methodPieces s'
        (HeaderTexts.of s' settings subject).valueType m := by
    refine List.flatMap_congr fun m hm => ?_
    have hnames : s.AgreeOn s' (methodNames m) :=
      h.right.mono fun t ht => List.mem_flatMap.mpr ⟨m, hm, ht⟩
    rw [methodPieces_congr hnames]
  simp only [classPieces, HeaderTexts.of_congr h.left, markPieces_congr h.left, hbase, hconstructor,
    hfactory, hassert, hmethods]

end AssertionGen.Java
