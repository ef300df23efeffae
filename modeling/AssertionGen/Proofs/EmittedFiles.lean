import AssertionGen.Proofs.FileOperations
import Mathlib.Data.List.Nodup
/-!
# Where units come to lie

A unit whose names hold no slash lies below its root: in one directory for each segment of its package
that is not empty, in a file named for it (`place_pathUnder`). So two units have one location only if
they have one path (`pathUnder_eq_of_locationIn_eq`).

Storing units alters a file system by steps of two kinds: directories are made on the way to units, where
nothing was, and sources are written at the places of units. `Altered` says what any course of such steps
can have done, to every location; it can be put together from its parts in any order, so nothing depends
on which unit comes first. If no operation fails (`StoresAll`) and the paths are distinct, every source that
was written is still there at the end (`StoresAll.stored`).
-/

namespace AssertionGen

open Java

variable {fs fs' : FileSystem} {d l : Location} {root p q : FilePath} {u w : SourceUnit}
  {units : List SourceUnit}

/-! ## Going on from a path -/

namespace FilePath

theorem isAbsolute_append {s : String} (hs : s ≠ "") (t : String) :
    FilePath.isAbsolute ⟨s ++ t⟩ = FilePath.isAbsolute ⟨s⟩ := by
  rw [Bool.eq_iff_iff, isAbsolute_iff, isAbsolute_iff, String.toList_append,
    List.head?_append_of_ne_nil _ (mt String.toList_eq_nil_iff.mp hs)]

theorem isAbsolute_push (hp : p.text ≠ "") (hq : q.isAbsolute = false) :
    (p.push q).isAbsolute = p.isAbsolute := by
  rw [push, if_neg (by simp [hq])]
  split
  · exact isAbsolute_append hp _
  · rw [String.append_assoc]
    exact isAbsolute_append hp _

/-- The pieces of a path go on with those of the other path, but for an empty piece between them. -/
theorem pieces_push (hp : p.text ≠ "") (hq : q.isAbsolute = false) :
    ∃ front, (p.push q).pieces = front ++ q.pieces ∧
      (p.pieces = front ∨ p.pieces = front ++ [""]) := by
  rw [push, if_neg (by simp [hq])]
  by_cases hslash : p.endsWithSlash = true
  · rw [if_pos (.inr hslash)]
    obtain ⟨cs, hcs⟩ := List.getLast?_eq_some_iff.mp (of_decide_eq_true hslash)
    refine ⟨(Text.pieces '/' cs).map String.ofList, ?_, .inr ?_⟩
    · rw [pieces, Text.piecesOf, String.toList_append, hcs, List.append_assoc, List.singleton_append,
        Text.pieces_append_sep, List.map_append]
      rfl
    · rw [pieces, Text.piecesOf, hcs, Text.pieces_append_sep, List.map_append]
      rfl
  · rw [if_neg (not_or.mpr ⟨hp, hslash⟩)]
    refine ⟨p.pieces, ?_, .inl rfl⟩
    rw [pieces, Text.piecesOf, String.toList_append, String.toList_append, List.append_assoc]
    show (Text.pieces '/' (p.text.toList ++ '/' :: q.text.toList)).map String.ofList = _
    rw [Text.pieces_append_sep, List.map_append]
    rfl

/-- A path that goes on from another leads on from where that one leads. -/
theorem place_push (hq : q.isAbsolute = false) : (p.push q).place d = (p.place d).walk q.pieces := by
  by_cases hp : p.text = ""
  · have hpush : p.push q = q := by
      rw [push, if_neg (by simp [hq]), if_pos (.inl hp), hp, String.empty_append]
    have hplace : p.place d = d := by
      rw [place, origin, pieces, isAbsolute, hp]
      rfl
    rw [hpush, hplace, place, origin, if_neg (by simp [hq])]
  · obtain ⟨front, hpieces, hfront⟩ := pieces_push hp hq
    rw [place, origin, isAbsolute_push hp hq, hpieces, Location.walk_append]
    rcases hfront with hfront | hfront
    · rw [place, hfront, origin]
    · rw [place, hfront, origin, Location.walk_concat_empty]

theorem exists_text_push (hq : q.isAbsolute = false) : ∃ t, (p.push q).text = p.text ++ t := by
  rw [push, if_neg (by simp [hq])]
  split
  · exact ⟨q.text, rfl⟩
  · exact ⟨"/" ++ q.text, String.append_assoc⟩

end FilePath

namespace FileSystem

theorem checkText_eq_ok_iff :
    checkText p = .ok () ↔
      '\x00' ∉ p.text.toList ∧ p.text ≠ "" ∧ p.text.utf8ByteSize ≤ pathLimit := by
  unfold checkText
  split
  · next hzero => exact iff_of_false (fun h => by cases h) fun h => h.1 hzero
  · next hzero =>
    split
    · next hempty => exact iff_of_false (fun h => by cases h) fun h => h.2.1 hempty
    · next hempty =>
      split
      · next hlong => exact iff_of_false (fun h => by cases h) fun h => absurd h.2.2 (Nat.not_le.mpr hlong)
      · next hfits => exact iff_of_true rfl ⟨hzero, hempty, Nat.not_lt.mp hfits⟩

/-- If a path that goes on from another can be followed, so can the other. -/
theorem locate_of_push (hp : p.text ≠ "") (hq : q.isAbsolute = false)
    (h : fs.locate (p.push q) = .ok l) : fs.locate p = .ok (p.place fs.workingDirectory) := by
  obtain ⟨hcheck, hfollow⟩ := locate_eq_ok_iff.mp h
  obtain ⟨t, ht⟩ := @FilePath.exists_text_push p q hq
  have hcheck' : checkText p = .ok () := by
    obtain ⟨hzero, -, hfits⟩ := checkText_eq_ok_iff.mp hcheck
    rw [ht, String.toList_append, List.mem_append, not_or] at hzero
    rw [ht, String.utf8ByteSize_append] at hfits
    exact checkText_eq_ok_iff.mpr ⟨hzero.1, hp, by omega⟩
  obtain ⟨front, hpieces, hfront⟩ := FilePath.pieces_push hp hq
  rw [hpieces, FilePath.origin, FilePath.isAbsolute_push hp hq] at hfollow
  obtain ⟨mid, hmid, hrest⟩ := follow_append_eq_ok_iff.mp hfollow
  -- what comes next can only be followed from a directory
  have hdir : fs.node? mid = some .directory := by
    obtain ⟨c, cs, hcs⟩ := List.exists_cons_of_ne_nil
      (mt List.map_eq_nil_iff.mp (Text.pieces_ne_nil '/' q.text.toList))
    change q.pieces = c :: cs at hcs
    rw [hcs] at hrest
    obtain ⟨next, hstep, -⟩ := follow_cons_eq_ok_iff.mp hrest
    exact (step_eq_ok_iff.mp hstep).1
  have hlocate : fs.locate p = .ok mid := by
    refine locate_eq_ok_iff.mpr ⟨hcheck', ?_⟩
    rcases hfront with hfront | hfront
    · rw [hfront]
      exact hmid
    · rw [hfront]
      refine follow_append_eq_ok_iff.mpr ⟨mid, hmid, follow_cons_eq_ok_iff.mpr ⟨mid, ?_, rfl⟩⟩
      exact step_eq_ok_iff.mpr ⟨hdir, by decide, rfl⟩
  rw [hlocate, locate_eq_ok hlocate]

end FileSystem

/-! ## The location of a unit -/

namespace Java.SourceUnit

/-- The location of a unit in a source root: one directory for each segment of the package, and in the
last one a file with the name of the class. -/
def locationIn (u : SourceUnit) (root : Location) : Location :=
  (u.name ++ ".java") :: (u.packageSegments.reverse ++ root)

/-- Neither the package nor the name of the unit has a slash. -/
structure Slashless (u : SourceUnit) : Prop where
  package : '/' ∉ u.package.toList
  name : '/' ∉ u.name.toList

/-- A segment is not empty, has no dot, and has the characters of the package. -/
theorem of_mem_packageSegments {s : String} (hs : s ∈ u.packageSegments) :
    s ≠ "" ∧ '.' ∉ s.toList ∧ ∀ c ∈ s.toList, c ∈ u.package.toList := by
  obtain ⟨hpiece, hne⟩ := List.mem_filter.mp hs
  obtain ⟨cs, hcs, rfl⟩ := List.mem_map.mp hpiece
  rw [String.toList_ofList]
  exact ⟨of_decide_eq_true hne, Text.notMem_of_mem_pieces hcs, fun c hc => Text.mem_of_mem_pieces hcs hc⟩

namespace Slashless

theorem pathNames (hu : u.Slashless) :
    ∀ s ∈ u.packageSegments ++ [u.name ++ ".java"], FilePath.IsStep s := by
  intro s hs
  rcases List.mem_append.mp hs with hs | hs
  · obtain ⟨hne, -, hmem⟩ := of_mem_packageSegments hs
    exact ⟨hne, fun hslash => hu.package (hmem _ hslash)⟩
  · rw [List.mem_singleton.mp hs]
    exact ⟨by simp, by simpa using hu.name⟩

theorem isAbsolute_relativePath (hu : u.Slashless) : u.relativePath.isAbsolute = false := by
  rw [relativePath_eq_of_isStep hu.pathNames]
  exact FilePath.isAbsolute_intercalate hu.pathNames

theorem pieces_relativePath (hu : u.Slashless) :
    u.relativePath.pieces = u.packageSegments ++ [u.name ++ ".java"] := by
  rw [relativePath_eq_of_isStep hu.pathNames]
  exact Text.piecesOf_intercalate '/' (by simp) fun s hs => (hu.pathNames s hs).2

end Slashless

theorem ne_dots_of_mem_pathNames :
    ∀ s ∈ u.packageSegments ++ [u.name ++ ".java"], s ≠ "" ∧ s ≠ "." ∧ s ≠ ".." := by
  intro s hs
  rcases List.mem_append.mp hs with hs | hs
  · obtain ⟨hne, hdot, -⟩ := of_mem_packageSegments hs
    refine ⟨hne, ?_, ?_⟩
    · rintro rfl
      exact hdot (by decide)
    · rintro rfl
      exact hdot (by decide)
  · rw [List.mem_singleton.mp hs]
    have hlast : (u.name ++ ".java").toList.getLast? = some 'a' := by
      rw [String.toList_append, List.getLast?_append]
      rfl
    refine ⟨by simp, fun h => ?_, fun h => ?_⟩
    · rw [h] at hlast
      exact absurd hlast (by decide)
    · rw [h] at hlast
      exact absurd hlast (by decide)

/-- A unit lies below its root, in the directories of its package. -/
theorem place_pathUnder (hu : u.Slashless) :
    (u.pathUnder root).place d = u.locationIn (root.place d) := by
  rw [pathUnder, FilePath.place_push hu.isAbsolute_relativePath, hu.pieces_relativePath,
    Location.walk_of_names ne_dots_of_mem_pathNames, List.reverse_append]
  rfl

theorem pathUnder_eq_of_locationIn_eq (h : u.locationIn l = w.locationIn l) (root : FilePath) :
    u.pathUnder root = w.pathUnder root := by
  obtain ⟨hname, hsegments⟩ := List.cons.inj h
  rw [pathUnder, pathUnder, relativePath, relativePath, hname,
    List.reverse_inj.mp (List.append_cancel_right hsegments)]

end Java.SourceUnit

/-! ## What storing alters -/

namespace FileSystem

/-- What can have become of a location while units were stored: nothing, a directory on the way to a
unit where there was nothing, or the source of the unit that has its place there. -/
inductive Change (d : Location) (root : FilePath) (units : List SourceUnit) (l : Location) :
    Option FileNode → Option FileNode → Prop where
  | same (n : Option FileNode) : Change d root units l n n
  | made {u : SourceUnit} (hu : u ∈ units) (hl : (u.pathUnder root).Passes d l) :
      Change d root units l none (some .directory)
  | written {u : SourceUnit} {n : Option FileNode} (hu : u ∈ units)
      (hl : (u.pathUnder root).place d = l) (hn : n ≠ some .directory) :
      Change d root units l n (some (.file u.source.toUTF8))

/-- What was made stays, but for sources, which can be written again. -/
theorem Change.trans {a b c : Option FileNode} (hab : Change d root units l a b)
    (hbc : Change d root units l b c) : Change d root units l a c := by
  cases hbc with
  | same => exact hab
  | made hu hl =>
      cases hab with
      | same => exact .made hu hl
  | written hu hl hn =>
      cases hab with
      | same => exact .written hu hl hn
      | made => exact absurd rfl hn
      | written _ _ hbefore => exact .written hu hl hbefore

/-- The second file system differs from the first by no more than the storing of these units. -/
structure Altered (root : FilePath) (units : List SourceUnit) (fs fs' : FileSystem) : Prop where
  changes : ∀ l, Change fs.workingDirectory root units l (fs.node? l) (fs'.node? l)
  workingDirectory : fs'.workingDirectory = fs.workingDirectory

namespace Altered

theorem refl (root : FilePath) (units : List SourceUnit) (fs : FileSystem) : Altered root units fs fs :=
  ⟨fun _ => .same _, rfl⟩

theorem trans {mid : FileSystem} (h : Altered root units fs mid) (h' : Altered root units mid fs') :
    Altered root units fs fs' where
  changes l := (h.changes l).trans (h.workingDirectory ▸ h'.changes l)
  workingDirectory := h'.workingDirectory.trans h.workingDirectory

theorem keepsDirectories (h : Altered root units fs fs') : KeepsDirectories fs fs' := by
  refine ⟨fun l hl => ?_, h.workingDirectory⟩
  have hchange := h.changes l
  rw [hl] at hchange
  generalize fs'.node? l = after at hchange
  cases hchange with
  | same => rfl
  | written _ _ hn => exact absurd rfl hn

/-- Something that is put where no directory is. -/
theorem put {n : FileNode} (hnode : fs.node? l ≠ some .directory)
    (h : Change fs.workingDirectory root units l (fs.node? l) (some n)) :
    Altered root units fs (fs.put l n) := by
  refine ⟨fun m => ?_, rfl⟩
  rw [node?_put fs (ne_nil_of_node? hnode)]
  split
  · next heq => exact heq ▸ h
  · exact .same _

/-- Directories that are made on the way to a unit. -/
theorem of_makesDirectory (hu : u ∈ units) (h : Relation.ReflTransGen
    (MakesDirectory ((u.pathUnder root).Passes fs.workingDirectory)) fs fs') :
    Altered root units fs fs' := by
  induction h with
  | refl => exact refl root units fs
  | tail _ hstep ih =>
      cases hstep with
      | made hl hfree =>
          refine ih.trans (.put (by rw [hfree]; simp) ?_)
          rw [hfree, ih.workingDirectory]
          exact .made hu hl

/-- The source of a unit that is written to its path. -/
theorem of_write (hu : u ∈ units) (h : fs.write (u.pathUnder root) u.source = .ok fs') :
    Altered root units fs fs' := by
  obtain ⟨-, hnode, rfl⟩ := write_eq_ok h
  exact .put hnode (.written hu rfl hnode)

end Altered

/-! ## Storing units -/

/-- Different units have different places. -/
def Apart (d : Location) (root : FilePath) (units : List SourceUnit) : Prop :=
  ∀ u ∈ units, ∀ w ∈ units, (u.pathUnder root).place d = (w.pathUnder root).place d → u = w

/-- A unit is stored under its path. -/
structure Holds (fs : FileSystem) (root : FilePath) (u : SourceUnit) : Prop where
  located : fs.locate (u.pathUnder root) = .ok ((u.pathUnder root).place fs.workingDirectory)
  source : fs.node? ((u.pathUnder root).place fs.workingDirectory) = some (.file u.source.toUTF8)

/-- A unit that is stored stays so, if no other unit has its place. -/
theorem Holds.altered (hapart : Apart fs.workingDirectory root units) (hmem : u ∈ units)
    (hu : fs.Holds root u) (h : Altered root units fs fs') : fs'.Holds root u where
  located := by
    rw [h.workingDirectory]
    exact h.keepsDirectories.locate hu.located
  source := by
    rw [h.workingDirectory]
    have hchange := h.changes ((u.pathUnder root).place fs.workingDirectory)
    rw [hu.source] at hchange
    generalize fs'.node? ((u.pathUnder root).place fs.workingDirectory) = after at hchange
    cases hchange with
    | same => rfl
    | written hw hl _ => rw [hapart _ hw _ hmem hl]

/-- Every operation succeeds by which units are stored one after the other: the directories above a unit
are made, and it is written. -/
inductive StoresAll (root : FilePath) : FileSystem → List SourceUnit → FileSystem → Prop where
  | nil (fs : FileSystem) : StoresAll root fs [] fs
  | cons {fs made written fs' : FileSystem} {u : SourceUnit} {us : List SourceUnit}
      (hmade : fs.makeAbove (u.pathUnder root) = (made, .ok ()))
      (hwritten : made.write (u.pathUnder root) u.source = .ok written)
      (hrest : StoresAll root written us fs') : StoresAll root fs (u :: us) fs'

theorem storeUnit_eq_ok_iff :
    fs.storeUnit root u = (fs', .ok ()) ↔
      ∃ made, fs.makeAbove (u.pathUnder root) = (made, .ok ()) ∧
        made.write (u.pathUnder root) u.source = .ok fs' := by
  constructor
  · intro h
    unfold storeUnit at h
    split at h
    · cases h
    · next made hmade =>
      unfold writeFile at h
      split at h
      · cases h
      · next written hwritten =>
        cases h
        exact ⟨made, hmade, hwritten⟩
  · rintro ⟨made, hmade, hwritten⟩
    unfold storeUnit
    simp only [hmade, writeFile, hwritten]

-- reducing the match must not evaluate the storing of the first unit
seal storeUnit in
theorem storeUnits_cons (fs : FileSystem) (root : FilePath) (u : SourceUnit) (us : List SourceUnit) :
    fs.storeUnits root (u :: us) =
      match fs.storeUnit root u with
      | (fs, .error e) => (fs, .error e)
      | (fs, .ok ()) => fs.storeUnits root us :=
  rfl

theorem storeUnits_eq_ok_iff {us : List SourceUnit} :
    fs.storeUnits root us = (fs', .ok ()) ↔ StoresAll root fs us fs' := by
  constructor
  · intro h
    induction us generalizing fs with
    | nil => cases h; exact .nil _
    | cons u us ih =>
        rw [storeUnits_cons] at h
        rcases hstore : fs.storeUnit root u with ⟨written, e | done⟩
        · rw [hstore] at h
          cases h
        · rw [hstore] at h
          obtain ⟨made, hmade, hwritten⟩ := storeUnit_eq_ok_iff.mp hstore
          exact .cons hmade hwritten (ih h)
  · intro h
    induction h with
    | nil fs => rfl
    | cons hmade hwritten hrest ih =>
        rw [storeUnits_cons, storeUnit_eq_ok_iff.mpr ⟨_, hmade, hwritten⟩]
        exact ih

/-- Storing a unit alters what storing may alter. -/
theorem altered_of_write {made : FileSystem} (hu : u ∈ units)
    (hmade : fs.makeAbove (u.pathUnder root) = (made, .ok ()))
    (hwritten : made.write (u.pathUnder root) u.source = .ok fs') : Altered root units fs fs' := by
  have hsteps := makeAbove_steps fs (u.pathUnder root)
  rw [hmade] at hsteps
  exact (Altered.of_makesDirectory hu hsteps).trans (.of_write hu hwritten)

namespace StoresAll

variable {us : List SourceUnit}

theorem altered (h : StoresAll root fs us fs') (hus : ∀ u ∈ us, u ∈ units) :
    Altered root units fs fs' := by
  induction h with
  | nil fs => exact .refl root units fs
  | cons hmade hwritten hrest ih =>
      obtain ⟨hu, hus⟩ := List.forall_mem_cons.mp hus
      exact (altered_of_write hu hmade hwritten).trans (ih hus)

/-- All units are there at the end, since none has the place of another. -/
theorem holds (h : StoresAll root fs us fs') (hus : ∀ u ∈ us, u ∈ units)
    (hapart : Apart fs.workingDirectory root units) : ∀ u ∈ us, fs'.Holds root u := by
  induction h with
  | nil fs => exact fun u hu => absurd hu List.not_mem_nil
  | cons hmade hwritten hrest ih =>
      obtain ⟨hu, hus⟩ := List.forall_mem_cons.mp hus
      obtain ⟨hlocate, hsource⟩ := located_of_write hwritten
      rw [← (altered_of_write hu hmade hwritten).workingDirectory] at hapart
      exact List.forall_mem_cons.mpr
        ⟨Holds.altered hapart hu ⟨hlocate, hsource⟩ (hrest.altered hus), ih hus hapart⟩

end StoresAll

/-- The second file system is the first with the units stored below a root, and with nothing else. -/
structure Stored (root : FilePath) (units : List SourceUnit) (fs fs' : FileSystem) : Prop where
  /-- Units lie below what the root leads to. The empty path leads nowhere, but units under it lie below
  the working directory. -/
  base : units ≠ [] → if root.text = "" then root.place fs.workingDirectory = fs.workingDirectory
    else fs'.locate root = .ok (root.place fs.workingDirectory)
  located : ∀ u ∈ units, fs'.locate (u.pathUnder root) =
    .ok (u.locationIn (root.place fs.workingDirectory))
  source : ∀ u ∈ units, fs'.lookup (u.pathUnder root) = .ok (.file u.source.toUTF8)
  /-- What is not the location of a unit is as before, or it is a directory on the way to a unit, made
  where there was nothing. -/
  frame : ∀ l, (∀ u ∈ units, u.locationIn (root.place fs.workingDirectory) ≠ l) →
    fs'.node? l = fs.node? l ∨
      fs.node? l = none ∧ fs'.node? l = some .directory ∧
        ∃ u ∈ units, (u.pathUnder root).Passes fs.workingDirectory l
  workingDirectory : fs'.workingDirectory = fs.workingDirectory

/-- Units of distinct paths that are stored without a failure, in whatever order, are all there at the
end, and nothing else has changed. -/
theorem StoresAll.stored {us : List SourceUnit} (hslash : ∀ u ∈ units, u.Slashless)
    (hdistinct : (units.map (SourceUnit.pathUnder root)).Nodup) (hperm : us.Perm units)
    (h : StoresAll root fs us fs') : Stored root units fs fs' := by
  have hplace : ∀ u ∈ units, (u.pathUnder root).place fs.workingDirectory =
      u.locationIn (root.place fs.workingDirectory) :=
    fun u hu => SourceUnit.place_pathUnder (hslash u hu)
  have hapart : Apart fs.workingDirectory root units := by
    intro u hu w hw heq
    rw [hplace u hu, hplace w hw] at heq
    exact List.inj_on_of_nodup_map hdistinct hu hw
      (SourceUnit.pathUnder_eq_of_locationIn_eq heq root)
  have hmem : ∀ u ∈ us, u ∈ units := fun u hu => hperm.mem_iff.mp hu
  have haltered : Altered root units fs fs' := h.altered hmem
  have hdirectory : fs'.workingDirectory = fs.workingDirectory := haltered.workingDirectory
  have hholds : ∀ u ∈ units, fs'.Holds root u :=
    fun u hu => h.holds hmem hapart u (hperm.mem_iff.mpr hu)
  refine ⟨fun hne => ?_, fun u hu => ?_, fun u hu => ?_, fun l hl => ?_, hdirectory⟩
  · obtain ⟨u, us, rfl⟩ := List.exists_cons_of_ne_nil hne
    have hu : u ∈ u :: us := List.mem_cons_self
    split
    · next hempty =>
      rw [FilePath.place, FilePath.origin, FilePath.isAbsolute, FilePath.pieces, hempty]
      rfl
    · next hroot =>
      rw [← hdirectory]
      exact locate_of_push hroot (hslash u hu).isAbsolute_relativePath (hholds u hu).located
  · rw [(hholds u hu).located, hdirectory, hplace u hu]
  · exact lookup_of_locate (hholds u hu).located (hholds u hu).source
  · have hchange := haltered.changes l
    generalize fs'.node? l = after at hchange ⊢
    generalize fs.node? l = before at hchange ⊢
    cases hchange with
    | same => exact .inl rfl
    | made hu hpasses => exact .inr ⟨rfl, rfl, _, hu, hpasses⟩
    | written hu heq _ => exact absurd ((hplace _ hu).symm.trans heq) (hl _ hu)

end FileSystem

end AssertionGen
