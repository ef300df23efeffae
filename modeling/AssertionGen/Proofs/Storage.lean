import AssertionGen.Emission.Storage
/-!
# How stored units are told apart

Memory keeps units by qualified name and takes all of them exactly if no name is there twice
(`keepAll_eq_ok_iff`). Files tell units apart by their paths. A path keeps the segments of a package
and the name of the class; a qualified name does as well, if the name has no dots. Hence two units
of plain names have one path exactly if they have one qualified name (`pathUnder_inj`).

Without plain names neither says as much as the other: a package with an empty segment has the
directory of one without, and a dot can belong to the package or to the name.
-/

namespace AssertionGen

/-! ## Ascending order -/

/-- Sorted by keys that are all different, things stand in strictly ascending order of their keys. -/
theorem pairwise_lt_mergeSort {α : Type} (key : α → String) {xs : List α} (h : (xs.map key).Nodup) :
    (xs.mergeSort fun a b => decide (key a ≤ key b)).Pairwise fun a b => key a < key b := by
  have hperm := List.mergeSort_perm xs fun a b => decide (key a ≤ key b)
  have hsorted : (xs.mergeSort fun a b => decide (key a ≤ key b)).Pairwise
      fun a b => decide (key a ≤ key b) = true := by
    refine List.pairwise_mergeSort (fun a b c hab hbc => ?_) (fun a b => ?_) xs
    · exact decide_eq_true (String.le_trans (of_decide_eq_true hab) (of_decide_eq_true hbc))
    · rcases String.le_total (key a) (key b) with hab | hba
      · rw [decide_eq_true hab, Bool.true_or]
      · rw [decide_eq_true hba, Bool.or_true]
  have hdistinct : (xs.mergeSort fun a b => decide (key a ≤ key b)).Pairwise
      fun a b => key a ≠ key b :=
    List.pairwise_map.mp ((hperm.map key).nodup_iff.mpr h)
  refine (hsorted.and hdistinct).imp fun {a b} hab => ?_
  exact Std.lt_of_le_of_ne (of_decide_eq_true hab.1) hab.2

/-! ## Plain names -/

/-- A name without dots and slashes. -/
def IsUndivided (n : String) : Prop := '.' ∉ n.toList ∧ '/' ∉ n.toList

instance {n : String} : Decidable (IsUndivided n) :=
  inferInstanceAs (Decidable ('.' ∉ n.toList ∧ '/' ∉ n.toList))

/-- An undivided name that is not empty. -/
def IsSegment (n : String) : Prop := n ≠ "" ∧ IsUndivided n

instance {n : String} : Decidable (IsSegment n) := inferInstanceAs (Decidable (n ≠ "" ∧ IsUndivided n))

/-- A package is the default one or made of segments. -/
def IsPackage (p : String) : Prop := p = "" ∨ ∀ n ∈ Text.piecesOf '.' p, IsSegment n

instance {p : String} : Decidable (IsPackage p) :=
  inferInstanceAs (Decidable (p = "" ∨ ∀ n ∈ Text.piecesOf '.' p, IsSegment n))

namespace Text

theorem append_sep_inj {sep : Char} {p q n m : List Char} (hn : sep ∉ n) (hm : sep ∉ m) :
    p ++ sep :: n = q ++ sep :: m ↔ p = q ∧ n = m := by
  constructor
  · intro h
    -- if one front were longer, the rest on the other side would hold a separator
    rcases List.append_eq_append_iff.mp h with ⟨as, hq, has⟩ | ⟨as, hp, has⟩
    · cases as with
      | nil => exact ⟨by simpa using hq.symm, (List.cons.inj has).2⟩
      | cons a as =>
          rw [List.cons_append, List.cons.injEq] at has
          exact absurd (by rw [has.2]; simp) hn
    · cases as with
      | nil => exact ⟨by simpa using hp, (List.cons.inj has).2.symm⟩
      | cons a as =>
          rw [List.cons_append, List.cons.injEq] at has
          exact absurd (by rw [has.2]; simp) hm
  · rintro ⟨rfl, rfl⟩
    rfl

theorem append_dot_inj {p q n m : String} (hn : '.' ∉ n.toList) (hm : '.' ∉ m.toList) :
    p ++ "." ++ n = q ++ "." ++ m ↔ p = q ∧ n = m := by
  rw [← String.toList_inj, ← String.toList_inj, ← String.toList_inj]
  simpa using append_sep_inj hn hm

/-- Texts that hold no separator are the pieces of what they are joined to. -/
theorem piecesOf_intercalate (sep : Char) {ss : List String} (hss : ss ≠ [])
    (hs : ∀ s ∈ ss, sep ∉ s.toList) :
    piecesOf sep ((String.singleton sep).intercalate ss) = ss := by
  rw [piecesOf, String.toList_intercalate, String.toList_singleton,
    pieces_intercalate (by simpa using hss) (by simpa using hs), List.map_map]
  have hid : String.ofList ∘ String.toList = id := funext fun _ => String.ofList_toList
  rw [hid, List.map_id]

/-- Texts joined by a separator that none of them holds are found again. -/
theorem intercalate_inj (sep : Char) {ss ts : List String} (hss : ss ≠ []) (hts : ts ≠ [])
    (hs : ∀ s ∈ ss, sep ∉ s.toList) (ht : ∀ t ∈ ts, sep ∉ t.toList) :
    (String.singleton sep).intercalate ss = (String.singleton sep).intercalate ts ↔ ss = ts := by
  refine ⟨fun h => ?_, congrArg _⟩
  rw [← piecesOf_intercalate sep hss hs, h, piecesOf_intercalate sep hts ht]

theorem intercalate_piecesOf (sep : Char) (s : String) :
    (String.singleton sep).intercalate (piecesOf sep s) = s := by
  rw [← String.toList_inj, String.toList_intercalate, String.toList_singleton, piecesOf,
    List.map_map]
  have hid : String.toList ∘ String.ofList = id := funext fun cs => String.toList_ofList
  rw [hid, List.map_id, intercalate_pieces]

end Text

theorem qualify_of_ne_empty {package : String} (h : package ≠ "") (name : String) :
    qualify package name = package ++ "." ++ name := by
  rw [qualify, if_neg h]

/-- The last dot of a qualified name tells the package from a name without dots. -/
theorem qualify_inj {p q n m : String} (hn : '.' ∉ n.toList) (hm : '.' ∉ m.toList) :
    qualify p n = qualify q m ↔ p = q ∧ n = m := by
  have hdot : ∀ (p n m : String), '.' ∉ m.toList → p ++ "." ++ n ≠ m := by
    rintro p n m hm rfl
    exact hm (by simp)
  by_cases hp : p = ""
  · by_cases hq : q = ""
    · simp [qualify, hp, hq]
    · rw [qualify_of_ne_empty hq, hp]
      exact iff_of_false (fun h => hdot q m n hn h.symm) fun h => hq h.1.symm
  · rw [qualify_of_ne_empty hp]
    by_cases hq : q = ""
    · rw [hq]
      exact iff_of_false (hdot p n m hm) fun h => hp h.1
    · rw [qualify_of_ne_empty hq]
      exact Text.append_dot_inj hn hm

/-! ## Paths -/

namespace FilePath

/-- A text with no slash in it, and not empty, is the name of one file or directory. -/
def IsStep (s : String) : Prop := s ≠ "" ∧ '/' ∉ s.toList

theorem IsStep.isAbsolute_append {s : String} (hs : IsStep s) (rest : String) :
    FilePath.isAbsolute ⟨s ++ rest⟩ = false := by
  have hlist : s.toList ≠ [] := by simpa using hs.1
  obtain ⟨c, cs, hcs⟩ := List.exists_cons_of_ne_nil hlist
  have hc : c ≠ '/' := fun h => hs.2 (by rw [hcs, h]; exact List.mem_cons_self)
  rw [isAbsolute, String.toList_append, hcs, List.cons_append]
  split
  · next heq => exact absurd (List.cons.inj heq).1 hc
  · rfl

theorem IsStep.isAbsolute {s : String} (hs : IsStep s) : FilePath.isAbsolute ⟨s⟩ = false := by
  simpa using hs.isAbsolute_append ""

theorem IsStep.endsWithSlash_append {s : String} (hs : IsStep s) (front : String) :
    FilePath.endsWithSlash ⟨front ++ s⟩ = false := by
  have hlist : s.toList ≠ [] := by simpa using hs.1
  rw [endsWithSlash, String.toList_append, List.getLast?_append,
    List.getLast?_eq_some_getLast hlist, Option.some_or, decide_eq_false_iff_not, Option.some_inj]
  exact fun h => hs.2 (h ▸ List.getLast_mem hlist)

theorem IsStep.endsWithSlash {s : String} (hs : IsStep s) :
    FilePath.endsWithSlash ⟨s⟩ = false := by
  simpa using hs.endsWithSlash_append ""

theorem push_step {p : FilePath} {s : String} (hp : p.text ≠ "") (hslash : p.endsWithSlash = false)
    (hs : IsStep s) : p.push ⟨s⟩ = ⟨p.text ++ "/" ++ s⟩ := by
  rw [push, hs.isAbsolute, if_neg (by decide), if_neg (by simp [hp, hslash])]

/-- Going on name by name puts a slash between any two names. -/
theorem foldl_push {ss : List String} (h : ∀ s ∈ ss, IsStep s) {p : FilePath}
    (hp : p.text ≠ "") (hslash : p.endsWithSlash = false) :
    ss.foldl (fun (p : FilePath) s => p.push ⟨s⟩) p = ⟨"/".intercalate (p.text :: ss)⟩ := by
  -- the path so far stays non-empty and never ends with a slash
  induction ss generalizing p with
  | nil => simp
  | cons s ss ih =>
      have hs : IsStep s := h s List.mem_cons_self
      have hss : ∀ t ∈ ss, IsStep t := fun t ht => h t (List.mem_cons_of_mem _ ht)
      rw [List.foldl_cons, push_step hp hslash hs, ih hss (by simp) (hs.endsWithSlash_append _),
        String.intercalate_cons_append, String.intercalate_cons_cons]

theorem foldl_push_empty {ss : List String} (h : ∀ s ∈ ss, IsStep s) :
    ss.foldl (fun (p : FilePath) s => p.push ⟨s⟩) ⟨""⟩ = ⟨"/".intercalate ss⟩ := by
  cases ss with
  | nil => simp
  | cons s ss =>
      have hs : IsStep s := h s List.mem_cons_self
      have hss : ∀ t ∈ ss, IsStep t := fun t ht => h t (List.mem_cons_of_mem _ ht)
      have hfirst : FilePath.push ⟨""⟩ ⟨s⟩ = ⟨s⟩ := by
        rw [push, hs.isAbsolute, if_neg (by decide), if_pos (Or.inl rfl), String.empty_append]
      rw [List.foldl_cons, hfirst, foldl_push hss hs.1 hs.endsWithSlash]

/-- A path of steps is not absolute. -/
theorem isAbsolute_intercalate {ss : List String} (h : ∀ s ∈ ss, IsStep s) :
    FilePath.isAbsolute ⟨"/".intercalate ss⟩ = false := by
  cases ss with
  | nil => rfl
  | cons s ss =>
      have hs : IsStep s := h s List.mem_cons_self
      cases ss with
      | nil => simpa using hs.isAbsolute
      | cons t ts =>
          rw [String.intercalate_cons_cons, String.append_assoc]
          exact hs.isAbsolute_append _

/-- What is gone on with can be told from the whole, unless it is absolute. -/
theorem push_inj {root p q : FilePath} (hp : p.isAbsolute = false) (hq : q.isAbsolute = false) :
    root.push p = root.push q ↔ p = q := by
  refine ⟨fun h => ?_, congrArg _⟩
  simp only [push, hp, hq, Bool.false_eq_true, if_false] at h
  cases p with
  | mk p =>
      cases q with
      | mk q =>
          split at h
          · simpa using h
          · simpa [String.append_assoc] using h

end FilePath

namespace Java.SourceUnit

/-- The package of a plain unit is made of segments, and its name is one. -/
structure Plain (u : SourceUnit) : Prop where
  package : IsPackage u.package
  name : IsSegment u.name

variable {u w : SourceUnit}

/-- If all names along the path are steps, the path is these names with slashes between them. -/
theorem relativePath_eq_of_isStep
    (h : ∀ s ∈ u.packageSegments ++ [u.name ++ ".java"], FilePath.IsStep s) :
    u.relativePath = ⟨"/".intercalate (u.packageSegments ++ [u.name ++ ".java"])⟩ := by
  rw [← FilePath.foldl_push_empty h, List.foldl_append]
  rfl

namespace Plain

theorem isSegment_of_mem (hu : u.Plain) {s : String} (hs : s ∈ u.packageSegments) : IsSegment s := by
  obtain ⟨hmem, hne⟩ := List.mem_filter.mp hs
  rcases hu.package with hempty | hsegments
  · rw [hempty] at hmem
    exact absurd (List.mem_singleton.mp hmem) (by simpa using hne)
  · exact hsegments s hmem

/-- Nothing of a plain package is left out. -/
theorem intercalate_packageSegments (hu : u.Plain) : ".".intercalate u.packageSegments = u.package := by
  rcases hu.package with hempty | hsegments
  · rw [packageSegments, hempty]
    rfl
  · rw [packageSegments, List.filter_eq_self.mpr fun n hn => by simpa using (hsegments n hn).1]
    exact Text.intercalate_piecesOf '.' u.package

/-- The names along the path are neither empty nor divided by slashes. -/
theorem pathNames (hu : u.Plain) :
    ∀ s ∈ u.packageSegments ++ [u.name ++ ".java"], FilePath.IsStep s := by
  intro s hs
  rcases List.mem_append.mp hs with hs | hs
  · exact ⟨(hu.isSegment_of_mem hs).1, (hu.isSegment_of_mem hs).2.2⟩
  · rw [List.mem_singleton.mp hs]
    exact ⟨by simp, by simpa using hu.name.2.2⟩

theorem relativePath_eq (hu : u.Plain) :
    u.relativePath = ⟨"/".intercalate (u.packageSegments ++ [u.name ++ ".java"])⟩ :=
  relativePath_eq_of_isStep hu.pathNames

theorem isAbsolute_relativePath (hu : u.Plain) : u.relativePath.isAbsolute = false := by
  rw [relativePath_eq hu]
  exact FilePath.isAbsolute_intercalate hu.pathNames

theorem relativePath_inj (hu : u.Plain) (hw : w.Plain) :
    u.relativePath = w.relativePath ↔ u.package = w.package ∧ u.name = w.name := by
  rw [relativePath_eq hu, relativePath_eq hw, FilePath.mk.injEq]
  refine (Text.intercalate_inj '/' (by simp) (by simp) (fun s hs => (hu.pathNames s hs).2)
    fun s hs => (hw.pathNames s hs).2).trans ?_
  constructor
  · intro h
    obtain ⟨hsegments, hname⟩ := List.append_inj' h rfl
    rw [← hu.intercalate_packageSegments, ← hw.intercalate_packageSegments, hsegments]
    exact ⟨rfl, by simpa using hname⟩
  · rintro ⟨hpackage, hname⟩
    rw [packageSegments, packageSegments, hpackage, hname]

theorem qualifiedName_inj (hu : u.Plain) (hw : w.Plain) :
    u.qualifiedName = w.qualifiedName ↔ u.package = w.package ∧ u.name = w.name :=
  qualify_inj hu.name.2.1 hw.name.2.1

/-- Two plain units have one path under a root exactly if they have one qualified name. -/
theorem pathUnder_inj (hu : u.Plain) (hw : w.Plain) (root : FilePath) :
    u.pathUnder root = w.pathUnder root ↔ u.qualifiedName = w.qualifiedName := by
  rw [pathUnder, pathUnder, FilePath.push_inj hu.isAbsolute_relativePath hw.isAbsolute_relativePath,
    relativePath_inj hu hw, qualifiedName_inj hu hw]

end Plain

end Java.SourceUnit

/-! ## Memory -/

namespace KeptUnits

open Java

variable {kept : KeptUnits}

theorem keep_of_notMem {u : SourceUnit} (h : u.qualifiedName ∉ Entries.keys kept) :
    kept.keep u = .ok (Entries.insert kept u.qualifiedName u.source) := by
  rw [keep, Entries.get?_eq_none_iff.mpr h]
  rfl

theorem keep_of_mem {u : SourceUnit} (h : u.qualifiedName ∈ Entries.keys kept) :
    kept.keep u = .error ⟨u.qualifiedName⟩ := by
  have hsome : (Entries.get? kept u.qualifiedName).isSome := by
    rw [Option.isSome_iff_ne_none]
    exact fun hnone => Entries.get?_eq_none_iff.mp hnone h
  rw [keep, if_pos hsome]

/-- All units are taken exactly if their names are new and pairwise distinct. -/
theorem keepAll_eq_ok_iff (kept : KeptUnits) (us : List SourceUnit) :
    (kept.keepAll us).2 = .ok () ↔
      (∀ u ∈ us, u.qualifiedName ∉ Entries.keys kept) ∧ (us.map SourceUnit.qualifiedName).Nodup := by
  induction us generalizing kept with
  | nil => simp [keepAll]
  | cons u us ih =>
      rw [keepAll]
      by_cases h : u.qualifiedName ∈ Entries.keys kept
      · rw [keep_of_mem h]
        exact iff_of_false (by simp) fun hall => hall.1 u List.mem_cons_self h
      · rw [keep_of_notMem h]
        refine (ih (Entries.insert kept u.qualifiedName u.source)).trans ?_
        rw [Entries.keys_insert, if_neg h, List.map_cons, List.nodup_cons]
        have hnew : (∀ w ∈ us, w.qualifiedName ∉ Entries.keys kept ++ [u.qualifiedName]) ↔
            (∀ w ∈ us, w.qualifiedName ∉ Entries.keys kept) ∧
              u.qualifiedName ∉ us.map SourceUnit.qualifiedName := by
          simp only [List.mem_append, List.mem_singleton, not_or, forall_and, List.mem_map,
            not_exists, not_and]
        rw [hnew, List.forall_mem_cons]
        constructor
        · rintro ⟨⟨hkept, hfirst⟩, hrest⟩
          exact ⟨⟨h, hkept⟩, hfirst, hrest⟩
        · rintro ⟨⟨-, hkept⟩, hfirst, hrest⟩
          exact ⟨⟨hkept, hfirst⟩, hrest⟩

end KeptUnits

end AssertionGen
