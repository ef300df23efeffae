import AssertionGen.Java.Scope
import AssertionGen.Proofs.Storage
/-!
# Who owns a simple name

References are made one after the other, and each claims a simple name if it is free. What comes of
many claims is said without the order of the steps: a name belongs to the first type that claimed it
(`get?_claimAll`), it is imported on behalf of that type alone (`mem_imported_claimAll`), and the
texts that the references give in turn are the texts in the finished scope (`referenceAll_eq`).

The text of a type tells the type only as far as qualified names do (`text_eq_iff`): a type in the
default package has no longer name to fall back on.
-/

namespace AssertionGen.Java

/-! ## Outermost types -/

namespace TypeName

variable {t u : TypeName}

theorem head?_piecesOf_name (t : TypeName) : (Text.piecesOf '.' t.name).head? = some t.outer := by
  unfold outer
  split
  · next h => exact absurd (List.map_eq_nil_iff.mp h) (Text.pieces_ne_nil '.' t.name.toList)
  · next p ps h => rw [h, List.head?_cons]

theorem dot_notMem_outer (t : TypeName) : '.' ∉ t.outer.toList := by
  obtain ⟨cs, hcs, heq⟩ := List.mem_map.mp (List.mem_of_head? t.head?_piecesOf_name)
  rw [← heq, String.toList_ofList]
  exact Text.notMem_of_mem_pieces hcs

theorem qualifiedOuter_inj :
    t.qualifiedOuter = u.qualifiedOuter ↔ t.package = u.package ∧ t.outer = u.outer :=
  qualify_inj t.dot_notMem_outer u.dot_notMem_outer

theorem qualifiedOuter_eq_qualify_iff {package n : String} (houter : t.outer = n) :
    t.qualifiedOuter = qualify package n ↔ t.package = package := by
  have hn : '.' ∉ n.toList := houter ▸ t.dot_notMem_outer
  rw [qualifiedOuter, qualify_inj t.dot_notMem_outer hn]
  exact and_iff_left houter

theorem outer_eq_of_name_eq (h : t.name = u.name) : t.outer = u.outer := by
  rw [outer, outer, h]

theorem eq_of_name_eq (hname : t.name = u.name) (howner : t.qualifiedOuter = u.qualifiedOuter) :
    t = u := by
  cases t
  cases u
  obtain ⟨hpackage, -⟩ := qualifiedOuter_inj.mp howner
  cases hname
  cases hpackage
  rfl

end TypeName

namespace Scope

variable {s : Scope} {t u : TypeName} {n q : String}

/-! ## One claim -/

@[simp] theorem package_claim (s : Scope) (t : TypeName) : (s.claim t).package = s.package := by
  unfold claim
  split <;> rfl

/-- A claim gives a name that is free to the type, and leaves all others as they are. -/
theorem get?_claim (s : Scope) (t : TypeName) (n : String) :
    (s.claim t).claimed.get? n =
      (s.claimed.get? n).or (if t.outer = n then some t.qualifiedOuter else none) := by
  unfold claim
  split
  · next owner howner =>
    by_cases hn : t.outer = n
    · rw [← hn, howner, Option.some_or]
    · rw [if_neg hn, Option.or_none]
  · next hfree =>
    rw [Entries.get?_insert]
    by_cases hn : t.outer = n
    · rw [if_pos hn, if_pos hn, ← hn, hfree, Option.none_or]
    · rw [if_neg hn, if_neg hn, Option.or_none]

theorem mem_imported_claim :
    q ∈ (s.claim t).imported ↔
      q ∈ s.imported ∨ s.claimed.get? t.outer = none ∧ s.imports t = true ∧ q = t.qualifiedOuter := by
  unfold claim
  split
  · next owner howner => simp [howner]
  · next hfree =>
    by_cases hi : s.imports t = true
    · by_cases hmem : t.qualifiedOuter ∈ s.imported
      · have hthere : q = t.qualifiedOuter → q ∈ s.imported := fun h => h ▸ hmem
        simpa [hfree, hi, hmem] using hthere
      · simp [hfree, hi, hmem]
    · simp [hfree, hi]

/-! ## Many claims -/

/-- The first of several types to claim a simple name. -/
def firstClaim? (ts : List TypeName) (n : String) : Option TypeName := ts.find? fun t => t.outer = n

theorem firstClaim?_cons (t : TypeName) (ts : List TypeName) (n : String) :
    firstClaim? (t :: ts) n = if t.outer = n then some t else firstClaim? ts n := by
  rw [firstClaim?, List.find?_cons]
  by_cases hn : t.outer = n
  · simp [hn]
  · simp [hn, firstClaim?]

theorem outer_of_firstClaim? {ts : List TypeName} (h : firstClaim? ts n = some t) : t.outer = n := by
  simpa using List.find?_some h

@[simp] theorem package_claimAll (s : Scope) (ts : List TypeName) :
    (s.claimAll ts).package = s.package := by
  induction ts generalizing s with
  | nil => rfl
  | cons t ts ih => exact (ih (s.claim t)).trans (package_claim s t)

theorem imports_claim (s : Scope) (t u : TypeName) : (s.claim t).imports u = s.imports u := by
  rw [imports, package_claim, imports]

theorem claimAll_append (s : Scope) (ts us : List TypeName) :
    s.claimAll (ts ++ us) = (s.claimAll ts).claimAll us :=
  List.foldl_append

/-- A claim is never taken back, and a free name goes to the first type that claims it. -/
theorem get?_claimAll (s : Scope) (ts : List TypeName) (n : String) :
    (s.claimAll ts).claimed.get? n =
      (s.claimed.get? n).or ((firstClaim? ts n).map TypeName.qualifiedOuter) := by
  induction ts generalizing s with
  | nil => exact (Option.or_none).symm
  | cons t ts ih =>
      rw [claimAll, List.foldl_cons, ← claimAll, ih, get?_claim, Option.or_assoc, firstClaim?_cons]
      by_cases hn : t.outer = n
      · simp [hn]
      · simp [hn]

/-- Imports are made for first claims only. -/
theorem mem_imported_claimAll {ts : List TypeName} :
    q ∈ (s.claimAll ts).imported ↔
      q ∈ s.imported ∨ ∃ t, s.claimed.get? t.outer = none ∧ firstClaim? ts t.outer = some t ∧
        s.imports t = true ∧ q = t.qualifiedOuter := by
  induction ts generalizing s with
  | nil => simp [claimAll, firstClaim?]
  | cons t ts ih =>
      rw [claimAll, List.foldl_cons, ← claimAll, ih, mem_imported_claim, or_assoc]
      refine or_congr_right ?_
      simp only [get?_claim, imports_claim, firstClaim?_cons, Option.or_eq_none_iff]
      constructor
      · rintro (⟨hfree, himports, rfl⟩ | ⟨u, ⟨hfree, hother⟩, hfirst, himports, rfl⟩)
        · exact ⟨t, hfree, if_pos rfl, himports, rfl⟩
        · have hne : t.outer ≠ u.outer := by simpa using hother
          exact ⟨u, hfree, by rw [if_neg hne, hfirst], himports, rfl⟩
      · rintro ⟨u, hfree, hfirst, himports, rfl⟩
        by_cases hn : t.outer = u.outer
        · rw [if_pos hn] at hfirst
          cases hfirst
          exact Or.inl ⟨hfree, himports, rfl⟩
        · rw [if_neg hn] at hfirst
          exact Or.inr ⟨u, ⟨hfree, if_neg hn⟩, hfirst, himports, rfl⟩

/-! ## References -/

/-- Refers to several types in turn. -/
def referenceAll (s : Scope) : List TypeName → List String × Scope
  | [] => ([], s)
  | t :: ts =>
    let (text, s') := s.reference t
    let (texts, s'') := referenceAll s' ts
    (text :: texts, s'')

theorem isSome_get?_claim (s : Scope) (t : TypeName) :
    ((s.claim t).claimed.get? t.outer).isSome := by
  rw [get?_claim, if_pos rfl, Option.or_some]
  rfl

/-- Once a simple name has an owner, later claims change no text that it stands in. -/
theorem text_claimAll (h : (s.claimed.get? t.outer).isSome) (ts : List TypeName) :
    (s.claimAll ts).text t = s.text t := by
  obtain ⟨owner, howner⟩ := Option.isSome_iff_exists.mp h
  rw [text, text, get?_claimAll, howner, Option.some_or]

/-- What references give in turn is what the finished scope gives. -/
theorem referenceAll_eq (s : Scope) (ts : List TypeName) :
    s.referenceAll ts = (ts.map (s.claimAll ts).text, s.claimAll ts) := by
  induction ts generalizing s with
  | nil => rfl
  | cons t ts ih =>
      have htext : (s.claimAll (t :: ts)).text t = (s.claim t).text t :=
        text_claimAll (isSome_get?_claim s t) ts
      simp only [referenceAll, reference, ih, List.map_cons, htext]
      rfl

/-- Of two types of one simple name, the second is written with its package, also after a third one. -/
example : ((Scope.empty "com.example").referenceAll [⟨"java.util", "Optional"⟩,
    ⟨"com.google.common.base", "Optional"⟩, ⟨"com.example", "User.Type"⟩,
    ⟨"com.google.common.base", "Optional"⟩]).1 =
      ["Optional", "com.google.common.base.Optional", "User.Type",
        "com.google.common.base.Optional"] := by
  decide +kernel

/-! ## What a text tells -/

/-- The simple name of the outermost type stands for it. -/
def Owns (s : Scope) (t : TypeName) : Prop := s.claimed.get? t.outer = some t.qualifiedOuter

instance : Decidable (s.Owns t) :=
  inferInstanceAs (Decidable (s.claimed.get? t.outer = some t.qualifiedOuter))

theorem text_of_owns (h : s.Owns t) : s.text t = t.name := if_pos h

theorem text_of_not_owns (h : ¬ s.Owns t) : s.text t = t.qualified := if_neg h

/-- Owners of one name are one type. -/
theorem Owns.eq_of_name_eq (ht : s.Owns t) (hu : s.Owns u) (hname : t.name = u.name) : t = u := by
  refine TypeName.eq_of_name_eq hname (Option.some.inj ?_)
  rw [← ht, ← hu, TypeName.outer_eq_of_name_eq hname]

/-- The text of one type, which owns its simple name, is the qualified name of another, which does
not. -/
def Passes (s : Scope) (t u : TypeName) : Prop := s.Owns t ∧ ¬ s.Owns u ∧ t.name = u.qualified

/-- When two types are written alike. -/
theorem text_eq_iff :
    s.text t = s.text u ↔ t = u ∨ s.Passes t u ∨ s.Passes u t ∨
      ¬ s.Owns t ∧ ¬ s.Owns u ∧ t.qualified = u.qualified := by
  constructor
  · intro h
    by_cases ht : s.Owns t
    · rw [text_of_owns ht] at h
      by_cases hu : s.Owns u
      · exact Or.inl (ht.eq_of_name_eq hu (h.trans (text_of_owns hu)))
      · exact Or.inr (Or.inl ⟨ht, hu, h.trans (text_of_not_owns hu)⟩)
    · rw [text_of_not_owns ht] at h
      by_cases hu : s.Owns u
      · exact Or.inr (Or.inr (Or.inl ⟨hu, ht, (h.trans (text_of_owns hu)).symm⟩))
      · exact Or.inr (Or.inr (Or.inr ⟨ht, hu, h.trans (text_of_not_owns hu)⟩))
  · rintro (rfl | ⟨ht, hu, h⟩ | ⟨hu, ht, h⟩ | ⟨ht, hu, h⟩)
    · rfl
    · rw [text_of_owns ht, text_of_not_owns hu, h]
    · rw [text_of_not_owns ht, text_of_owns hu, h]
    · rw [text_of_not_owns ht, text_of_not_owns hu, h]

/-! ## What a simple name stands for -/

/-- What an import or the unit's own package makes a simple name stand for. -/
def binding? (s : Scope) (n : String) : Option String :=
  (s.claimed.get? n).filter fun q => q ∈ s.imported ∨ q = qualify s.package n

/-- The scope of a unit before the first reference: its class has its simple name. -/
def opened (package name : String) : Scope := (Scope.empty package).reserve name

theorem get?_opened (package name n : String) :
    (opened package name).claimed.get? n = if name = n then some (qualify package name) else none :=
  rfl

theorem imports_iff : s.imports t = true ↔
    t.package ≠ "" ∧ t.package ≠ "java.lang" ∧ t.package ≠ s.package := by
  simp [imports, and_assoc]

/-- The first type to claim a name that the unit's class leaves free is imported, if it has to be. -/
theorem mem_imported_opened_iff {package name : String} {ts : List TypeName}
    (hfirst : firstClaim? ts n = some t) (hfree : name ≠ n) :
    t.qualifiedOuter ∈ ((opened package name).claimAll ts).imported ↔
      (opened package name).imports t = true := by
  have houter := outer_of_firstClaim? hfirst
  rw [mem_imported_claimAll]
  constructor
  · rintro (hnone | ⟨u, -, hu, himports, heq⟩)
    · cases hnone
    · rw [← (TypeName.qualifiedOuter_inj.mp heq).2, houter, hfirst] at hu
      cases hu
      exact himports
  · intro himports
    refine Or.inr ⟨t, ?_, houter.symm ▸ hfirst, himports, rfl⟩
    rw [get?_opened, if_neg (houter.symm ▸ hfree)]

theorem bound_opened_iff {package name : String} {ts : List TypeName}
    (hfirst : firstClaim? ts n = some t) (hfree : name ≠ n) :
    t.qualifiedOuter ∈ ((opened package name).claimAll ts).imported ∨
        t.qualifiedOuter = qualify package n ↔
      t.package ≠ "" ∧ t.package ≠ "java.lang" ∨ t.package = package := by
  have hopened : (opened package name).package = package := rfl
  rw [mem_imported_opened_iff hfirst hfree, imports_iff, hopened,
    TypeName.qualifiedOuter_eq_qualify_iff (outer_of_firstClaim? hfirst)]
  by_cases hp : t.package = package <;> simp [hp]

/-- A simple name stands for the unit's class, or else for the first type to claim it, provided that
this is imported or in the unit's own package. -/
theorem binding?_opened_eq_some_iff {package name : String} {ts : List TypeName} :
    ((opened package name).claimAll ts).binding? n = some q ↔
      name = n ∧ q = qualify package n ∨
        name ≠ n ∧ ∃ t, firstClaim? ts n = some t ∧ q = t.qualifiedOuter ∧
          (t.package ≠ "" ∧ t.package ≠ "java.lang" ∨ t.package = package) := by
  have hpackage : ((opened package name).claimAll ts).package = package := by
    rw [package_claimAll]
    rfl
  rw [binding?, Option.filter_eq_some_iff, get?_claimAll, get?_opened, hpackage, decide_eq_true_iff]
  by_cases hname : name = n
  · rw [if_pos hname, Option.some_or, hname]
    constructor
    · rintro ⟨howner, -⟩
      exact Or.inl ⟨rfl, (Option.some.inj howner).symm⟩
    · rintro (⟨-, rfl⟩ | ⟨hne, -⟩)
      · exact ⟨rfl, Or.inr rfl⟩
      · exact absurd rfl hne
  · rw [if_neg hname, Option.none_or]
    constructor
    · rintro ⟨howner, hq⟩
      obtain ⟨t, hfirst, rfl⟩ := Option.map_eq_some_iff.mp howner
      exact Or.inr ⟨hname, t, hfirst, rfl, (bound_opened_iff hfirst hname).mp hq⟩
    · rintro (⟨heq, -⟩ | ⟨-, t, hfirst, rfl, ht⟩)
      · exact absurd heq hname
      · exact ⟨by rw [hfirst, Option.map_some], (bound_opened_iff hfirst hname).mpr ht⟩

end Scope

end AssertionGen.Java
