import AssertionGen.Proofs.Ownership
import Mathlib.Data.List.Nodup
/-!
# What a scope imports, however it is used

A scope is used in two ways: a name of the unit's own is reserved, or a type is referred to. Neither
gives up what was claimed before, so a type is written in one way however often and whenever it is
referred to, and the import statements can be made at the end.

Reserving a name is a claim on behalf of a class in the unit's package (`reserve_eq_claim`). A whole
course of uses is thus a list of claims, and what comes of it is known from the first claim to each
simple name (`useAll_eq`, `firstClaim?`). Since an imported type owns its simple name, no two imports
are of one simple name, and their statements can be told apart by the part behind the last dot.
-/

namespace AssertionGen.Java

/-! ## Parts of qualified names -/

/-- What stands in front of the first dot of a name. -/
def firstSegment (name : String) : String := ((Text.piecesOf '.' name).head?).getD name

/-- What stands behind the last dot of a name. -/
def lastSegment (name : String) : String := ((Text.piecesOf '.' name).getLast?).getD name

/-- What stands in front of the last dot of a name; nothing if there is no dot. -/
def packagePart (name : String) : String := ".".intercalate (Text.piecesOf '.' name).dropLast

theorem piecesOf_undivided {n : String} (hn : '.' ∉ n.toList) : Text.piecesOf '.' n = [n] := by
  rw [Text.piecesOf, Text.pieces_of_notMem hn, List.map_singleton, String.ofList_toList]

theorem piecesOf_qualify {p n : String} (hp : p ≠ "") (hn : '.' ∉ n.toList) :
    Text.piecesOf '.' (qualify p n) = Text.piecesOf '.' p ++ [n] := by
  have hdot : ".".toList = ['.'] := rfl
  rw [← piecesOf_undivided hn, qualify_of_ne_empty hp, Text.piecesOf, Text.piecesOf, Text.piecesOf,
    String.toList_append, String.toList_append, hdot, List.append_assoc, List.singleton_append,
    Text.pieces_append_sep, List.map_append]

theorem lastSegment_qualify (p : String) {n : String} (hn : '.' ∉ n.toList) :
    lastSegment (qualify p n) = n := by
  by_cases hp : p = ""
  · rw [hp, qualify, if_pos rfl, lastSegment, piecesOf_undivided hn]
    rfl
  · rw [lastSegment, piecesOf_qualify hp hn, List.getLast?_concat, Option.getD_some]

theorem packagePart_qualify (p : String) {n : String} (hn : '.' ∉ n.toList) :
    packagePart (qualify p n) = p := by
  by_cases hp : p = ""
  · rw [hp, qualify, if_pos rfl, packagePart, piecesOf_undivided hn]
    rfl
  · rw [packagePart, piecesOf_qualify hp hn, List.dropLast_concat]
    exact Text.intercalate_piecesOf '.' p

namespace TypeName

variable {t : TypeName}

theorem firstSegment_name (t : TypeName) : firstSegment t.name = t.outer := by
  rw [firstSegment, head?_piecesOf_name, Option.getD_some]

theorem lastSegment_qualifiedOuter (t : TypeName) : lastSegment t.qualifiedOuter = t.outer :=
  lastSegment_qualify t.package t.dot_notMem_outer

theorem packagePart_qualifiedOuter (t : TypeName) : packagePart t.qualifiedOuter = t.package :=
  packagePart_qualify t.package t.dot_notMem_outer

theorem outer_of_undivided (package : String) {n : String} (hn : '.' ∉ n.toList) :
    outer ⟨package, n⟩ = n := by
  rw [outer, piecesOf_undivided hn]

end TypeName

/-! ## Uses -/

/-- One use of a scope. -/
inductive Use where
  /-- Reserves a simple name for a class of the unit's own. -/
  | reserve (name : String) (undivided : '.' ∉ name.toList)
  /-- Refers to a type. -/
  | refer (type : TypeName)

/-- The type on whose behalf a use claims a simple name, in a unit of a package. -/
def Use.claimant (package : String) : Use → TypeName
  | reserve n _ => ⟨package, n⟩
  | refer t => t

namespace Scope

variable {s : Scope} {t : TypeName} {us : List Use} {n q : String}

/-- What a use answers, and the scope after it. Only a reference answers with a text. -/
def use (s : Scope) : Use → Option String × Scope
  | .reserve n _ => (none, s.reserve n)
  | .refer t => (some (s.reference t).1, (s.reference t).2)

/-- What several uses answer in turn, and the scope after them. -/
def useAll (s : Scope) : List Use → List (Option String) × Scope
  | [] => ([], s)
  | u :: us =>
    let (answer, s') := s.use u
    let (answers, s'') := useAll s' us
    (answer :: answers, s'')

/-- The answer to a use in a scope in which its simple name has an owner. -/
def answer (s : Scope) : Use → Option String
  | .reserve _ _ => none
  | .refer t => some (s.text t)

/-- A reserved name is claimed like a type of the unit's package, which is never imported. -/
theorem reserve_eq_claim (s : Scope) (hn : '.' ∉ n.toList) : s.reserve n = s.claim ⟨s.package, n⟩ := by
  have houter := TypeName.outer_of_undivided s.package hn
  have himports : s.imports ⟨s.package, n⟩ = false := by simp [imports]
  rw [reserve, claim, houter]
  cases s.claimed.get? n with
  | some owner => rfl
  | none => simp only [himports, Bool.false_and, Bool.false_eq_true, if_false, TypeName.qualifiedOuter,
      houter]

theorem snd_use (s : Scope) (u : Use) : (s.use u).2 = s.claim (u.claimant s.package) := by
  cases u with
  | reserve n hn => exact reserve_eq_claim s hn
  | refer t => rfl

theorem fst_use (s : Scope) (u : Use) : (s.use u).1 = (s.claim (u.claimant s.package)).answer u := by
  cases u with
  | reserve n hn => rfl
  | refer t => rfl

/-- An answer is the same after any later claims. -/
theorem answer_claimAll (s : Scope) (u : Use) (ts : List TypeName) :
    ((s.claim (u.claimant s.package)).claimAll ts).answer u =
      (s.claim (u.claimant s.package)).answer u := by
  cases u with
  | reserve n hn => rfl
  | refer t => exact congrArg some (text_claimAll (isSome_get?_claim s t) ts)

/-- The types that claim simple names in a course of uses. -/
def claimants (package : String) (us : List Use) : List TypeName := us.map (Use.claimant package)

/-- A course of uses is a list of claims, and all its answers can be given at the end. -/
theorem useAll_eq (s : Scope) (us : List Use) :
    s.useAll us =
      (us.map (s.claimAll (claimants s.package us)).answer, s.claimAll (claimants s.package us)) := by
  induction us generalizing s with
  | nil => rfl
  | cons u us ih =>
      have hclaims : s.claimAll (claimants s.package (u :: us)) =
          (s.claim (u.claimant s.package)).claimAll (claimants s.package us) := rfl
      simp only [useAll, snd_use, fst_use, ih, package_claim, hclaims, List.map_cons, answer_claimAll]

/-- What a simple name stands for after some uses, it stands for after all. -/
theorem get?_useAll_of_take {k : Nat}
    (h : (s.useAll (us.take k)).2.claimed.get? n = some q) :
    (s.useAll us).2.claimed.get? n = some q := by
  rw [useAll_eq] at h ⊢
  have hsplit : claimants s.package us =
      claimants s.package (us.take k) ++ claimants s.package (us.drop k) := by
    rw [claimants, claimants, claimants, ← List.map_append, List.take_append_drop]
  show (s.claimAll (claimants s.package us)).claimed.get? n = some q
  rw [hsplit, claimAll_append, get?_claimAll, h, Option.some_or]

/-! ## Imported types -/

theorem mem_imported_empty_iff {package : String} {ts : List TypeName} :
    q ∈ ((empty package).claimAll ts).imported ↔
      ∃ t, firstClaim? ts t.outer = some t ∧ (empty package).imports t = true ∧ q = t.qualifiedOuter := by
  rw [mem_imported_claimAll]
  constructor
  · rintro (hnone | ⟨t, -, hfirst, himports, rfl⟩)
    · cases hnone
    · exact ⟨t, hfirst, himports, rfl⟩
  · rintro ⟨t, hfirst, himports, rfl⟩
    exact Or.inr ⟨t, rfl, hfirst, himports, rfl⟩

theorem get?_empty_eq_some_iff {package : String} {ts : List TypeName} :
    ((empty package).claimAll ts).claimed.get? n = some q ↔
      ∃ t, firstClaim? ts n = some t ∧ t.qualifiedOuter = q := by
  rw [get?_claimAll]
  exact Option.map_eq_some_iff

theorem nodup_imported_claimAll {ts : List TypeName} (h : s.imported.Nodup) :
    (s.claimAll ts).imported.Nodup := by
  induction ts generalizing s with
  | nil => exact h
  | cons t ts ih =>
      refine ih ?_
      unfold claim
      split
      · exact h
      · show (if _ then _ else _ : List String).Nodup
        split
        · next hnew =>
          rw [Bool.and_eq_true, Bool.not_eq_true', List.contains_eq_mem, decide_eq_false_iff_not] at hnew
          refine List.nodup_append.mpr ⟨h, by simp, fun a ha b hb hab => ?_⟩
          rw [hab, List.mem_singleton.mp hb] at ha
          exact hnew.2 ha
        · exact h

/-- Two imported types of one simple name are one. -/
theorem eq_of_lastSegment_eq {package : String} {ts : List TypeName} {r : String}
    (hq : q ∈ ((empty package).claimAll ts).imported) (hr : r ∈ ((empty package).claimAll ts).imported)
    (h : lastSegment q = lastSegment r) : q = r := by
  obtain ⟨t, ht, -, rfl⟩ := mem_imported_empty_iff.mp hq
  obtain ⟨u, hu, -, rfl⟩ := mem_imported_empty_iff.mp hr
  rw [TypeName.lastSegment_qualifiedOuter, TypeName.lastSegment_qualifiedOuter] at h
  rw [h, hu] at ht
  rw [Option.some.inj ht]

/-! ## Reserved names -/

/-- A simple name is reserved before any type of this name is referred to. -/
def ReservedFirst (us : List Use) (n : String) : Prop :=
  ∃ (i : Nat) (hn : '.' ∉ n.toList), us[i]? = some (Use.reserve n hn) ∧
    ∀ j < i, ∀ t, us[j]? = some (Use.refer t) → t.outer ≠ n

/-- A name that is reserved first is claimed first for the unit's own class. -/
theorem ReservedFirst.firstClaim? (h : ReservedFirst us n) (package : String) :
    firstClaim? (claimants package us) n = some ⟨package, n⟩ := by
  obtain ⟨i, hn, hi, hbefore⟩ := h
  have houter := TypeName.outer_of_undivided package hn
  induction us generalizing i with
  | nil => cases hi
  | cons u us ih =>
      rw [claimants, List.map_cons, firstClaim?_cons, ← claimants]
      cases i with
      | zero =>
          cases hi
          exact if_pos houter
      | succ i =>
          have hrest : Scope.firstClaim? (claimants package us) n = some ⟨package, n⟩ :=
            ih i hi fun j hj t ht => hbefore (j + 1) (by omega) t ht
          cases u with
          | refer t => rw [Use.claimant, if_neg (hbefore 0 (Nat.succ_pos i) t rfl), hrest]
          | reserve m hm =>
              rw [Use.claimant, TypeName.outer_of_undivided package hm, hrest]
              split
              · next hmn => rw [hmn]
              · rfl

/-! ## A unit from the beginning -/

/-- What the uses of a new scope answer in turn. -/
def answers (package : String) (us : List Use) : List (Option String) :=
  ((empty package).useAll us).1

/-- A new scope after some uses. -/
def after (package : String) (us : List Use) : Scope := ((empty package).useAll us).2

variable {package : String}

theorem after_eq (package : String) (us : List Use) :
    after package us = (empty package).claimAll (claimants package us) :=
  congrArg Prod.snd (useAll_eq (empty package) us)

theorem answers_eq (package : String) (us : List Use) :
    answers package us = us.map (after package us).answer := by
  rw [after_eq]
  exact congrArg Prod.fst (useAll_eq (empty package) us)

theorem getElem?_answers {i : Nat} (hi : us[i]? = some (.refer t)) :
    (answers package us)[i]? = some (some ((after package us).text t)) := by
  rw [answers_eq, List.getElem?_map, hi]
  rfl

/-- The texts answered are those of the types that were referred to. -/
theorem some_mem_answers_iff {text : String} :
    some text ∈ answers package us ↔ ∃ t, .refer t ∈ us ∧ (after package us).text t = text := by
  rw [answers_eq, List.mem_map]
  constructor
  · rintro ⟨u, hu, hanswer⟩
    cases u with
    | reserve n hn => cases hanswer
    | refer t => exact ⟨t, hu, Option.some.inj hanswer⟩
  · rintro ⟨t, ht, rfl⟩
    exact ⟨_, ht, rfl⟩

/-- Imported is what owns the outermost name in an answer and lies in a package that needs an import. -/
theorem mem_imported_after_iff :
    q ∈ (after package us).imported ↔
      (packagePart q ≠ "" ∧ packagePart q ≠ "java.lang" ∧ packagePart q ≠ package) ∧
        ∃ text, some text ∈ answers package us ∧
          (after package us).claimed.get? (firstSegment text) = some q := by
  constructor
  · intro hq
    rw [after_eq, mem_imported_empty_iff] at hq
    obtain ⟨t, hfirst, himports, rfl⟩ := hq
    have hpackage := imports_iff.mp himports
    have howner : (after package us).claimed.get? t.outer = some t.qualifiedOuter := by
      rw [after_eq, get?_empty_eq_some_iff]
      exact ⟨t, hfirst, rfl⟩
    have hrefer : .refer t ∈ us := by
      obtain ⟨u, hu, hclaimant⟩ := List.mem_map.mp (List.mem_of_find?_eq_some hfirst)
      cases u with
      | reserve n hn =>
          rw [← hclaimant] at hpackage
          exact absurd rfl hpackage.2.2
      | refer u =>
          cases hclaimant
          exact hu
    rw [TypeName.packagePart_qualifiedOuter]
    refine ⟨hpackage, t.name, some_mem_answers_iff.mpr ⟨t, hrefer, text_of_owns howner⟩, ?_⟩
    rw [TypeName.firstSegment_name]
    exact howner
  · rintro ⟨hpackage, text, -, howner⟩
    rw [after_eq, get?_empty_eq_some_iff] at howner
    obtain ⟨t, hfirst, rfl⟩ := howner
    rw [TypeName.packagePart_qualifiedOuter] at hpackage
    rw [after_eq, mem_imported_empty_iff]
    exact ⟨t, (outer_of_firstClaim? hfirst).symm ▸ hfirst, imports_iff.mpr hpackage, rfl⟩

namespace ReservedFirst

theorem get?_after (h : ReservedFirst us n) :
    (after package us).claimed.get? n = some (qualify package n) := by
  have hn : '.' ∉ n.toList := by
    obtain ⟨-, hn, -⟩ := h
    exact hn
  have howner : TypeName.qualifiedOuter ⟨package, n⟩ = qualify package n := by
    rw [TypeName.qualifiedOuter, TypeName.outer_of_undivided package hn]
  rw [after_eq, get?_empty_eq_some_iff]
  exact ⟨_, h.firstClaim? package, howner⟩

theorem lastSegment_ne (h : ReservedFirst us n) (hq : q ∈ (after package us).imported) :
    lastSegment q ≠ n := by
  rintro rfl
  rw [after_eq, mem_imported_empty_iff] at hq
  obtain ⟨t, hfirst, himports, rfl⟩ := hq
  have hreserved := h.firstClaim? package
  rw [TypeName.lastSegment_qualifiedOuter, hfirst] at hreserved
  rw [Option.some.inj hreserved] at himports
  exact (imports_iff.mp himports).2.2 rfl

/-- Another type of a reserved name is written with its package. -/
theorem text_after (h : ReservedFirst us n) (houter : t.outer = n) (hother : t.package ≠ package) :
    (after package us).text t = t.qualified := by
  refine text_of_not_owns fun howns => hother ?_
  rw [Owns, houter, h.get?_after] at howns
  exact (TypeName.qualifiedOuter_eq_qualify_iff houter).mp (Option.some.inj howns).symm

end ReservedFirst

end Scope

/-- **What a scope imports, however it is used.** A simple name keeps its owner, and all references to a
type answer with the same text. The import statements are those of distinct qualified names in
ascending order, no two of which are of one simple name. A qualified name is imported exactly if it
owns the outermost name in some answer and its package is not the default one, java.lang or the unit's
own. A name that is reserved before any type of that simple name is referred to is not imported, and
every type of another package that bears it, unless in the default package, is written with its
package. -/
theorem imports_of_uses (package : String) (us : List Use) :
    (∀ k n q, (Scope.after package (us.take k)).claimed.get? n = some q →
        (Scope.after package us).claimed.get? n = some q) ∧
      (∀ t, ∃ text, ∀ i : Nat, us[i]? = some (Use.refer t) →
        (Scope.answers package us)[i]? = some (some text)) ∧
      ∃ qs : List String,
        (Scope.after package us).statements = qs.map (fun q => "import " ++ q ++ ";") ∧
          qs.Pairwise (· < ·) ∧ (qs.map lastSegment).Nodup ∧
          (∀ q, q ∈ qs ↔
            (packagePart q ≠ "" ∧ packagePart q ≠ "java.lang" ∧ packagePart q ≠ package) ∧
              ∃ text, some text ∈ Scope.answers package us ∧
                (Scope.after package us).claimed.get? (firstSegment text) = some q) ∧
          ∀ n, Scope.ReservedFirst us n →
            n ∉ qs.map lastSegment ∧
              ∀ (i : Nat) (t : TypeName), us[i]? = some (Use.refer t) → t.outer = n →
                t.package ≠ package → t.package ≠ "" →
                  (Scope.answers package us)[i]? = some (some (t.package ++ "." ++ t.name)) := by
  have hnodup : (Scope.after package us).imported.Nodup := by
    rw [Scope.after_eq]
    exact Scope.nodup_imported_claimAll List.nodup_nil
  have hmem : ∀ q, q ∈ (Scope.after package us).imported.mergeSort (fun a b => decide (a ≤ b)) ↔
      q ∈ (Scope.after package us).imported := fun q => (List.mergeSort_perm _ _).mem_iff
  refine ⟨fun k n q => Scope.get?_useAll_of_take, fun t => ⟨_, fun i hi => Scope.getElem?_answers hi⟩,
    _, rfl, ?_, ?_, fun q => (hmem q).trans Scope.mem_imported_after_iff, fun n hreserved => ⟨?_, ?_⟩⟩
  · exact pairwise_lt_mergeSort id (by rwa [List.map_id])
  · refine List.Nodup.map_on (fun q hq r hr h => ?_) ((List.mergeSort_perm _ _).nodup_iff.mpr hnodup)
    rw [hmem, Scope.after_eq] at hq hr
    exact Scope.eq_of_lastSegment_eq hq hr h
  · intro hlisted
    obtain ⟨q, hq, hqn⟩ := List.mem_map.mp hlisted
    exact hreserved.lastSegment_ne ((hmem q).mp hq) hqn
  · intro i t hi houter hother hnamed
    rw [Scope.getElem?_answers hi, hreserved.text_after houter hother, TypeName.qualified,
      qualify_of_ne_empty hnamed]

/-- The name of the unit's own class is not imported for another class. -/
example : Scope.answers "com.example" [.reserve "AutoUser" (by decide), .refer ⟨"org.other", "AutoUser"⟩,
      .refer ⟨"com.other", "User.Type"⟩, .refer ⟨"org.other", "User"⟩] =
      [none, some "org.other.AutoUser", some "User.Type", some "org.other.User"] ∧
    (Scope.after "com.example" [.reserve "AutoUser" (by decide), .refer ⟨"org.other", "AutoUser"⟩,
      .refer ⟨"com.other", "User.Type"⟩, .refer ⟨"org.other", "User"⟩]).statements =
      ["import com.other.User;"] := by
  decide +kernel

end AssertionGen.Java
