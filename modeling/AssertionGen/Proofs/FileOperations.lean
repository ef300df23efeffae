import AssertionGen.Proofs.Storage
import Mathlib.Data.List.Infix
import Mathlib.Data.List.TakeWhile
import Mathlib.Logic.Relation
/-!
# What operations on files do

Where a path leads lies in its text: `FilePath.place` walks its components from the working directory
and asks nothing of the file system. A path that can be followed leads there (`locate_eq_ok`), and one
that could be followed still can be as long as no directory is lost (`KeepsDirectories.locate`).

So each operation can be told by places. `write` puts a file at the place of its path, and that is what
the path leads to afterwards (`write_eq_ok`, `located_of_write`). `makeDirectory` puts a directory where
nothing was (`makeDirectory_eq_ok`). `makeDirectories` makes such steps only, and only at places that the
path passes, even if it fails half way (`makeAbove_steps`).
-/

namespace AssertionGen

variable {fs fs' : FileSystem} {d l m : Location} {p q : FilePath}

/-! ## Walks -/

namespace Location

/-- Where a component leads if it can be followed. -/
def walkStep (l : Location) (component : String) : Location :=
  if component = "" ∨ component = "." then l
  else if component = ".." then l.tail
  else component :: l

/-- Where components lead, one after the other, if they can be followed. -/
def walk (l : Location) (components : List String) : Location := components.foldl walkStep l

theorem walk_append (l : Location) (cs ds : List String) : walk l (cs ++ ds) = walk (walk l cs) ds :=
  List.foldl_append

/-- An empty component goes nowhere. -/
theorem walk_concat_empty (l : Location) (cs : List String) : walk l (cs ++ [""]) = walk l cs := by
  rw [walk_append]
  rfl

theorem walk_of_forall_eq_empty {cs : List String} (h : ∀ c ∈ cs, c = "") : walk l cs = l := by
  induction cs with
  | nil => rfl
  | cons c cs ih =>
      obtain ⟨rfl, hcs⟩ := List.forall_mem_cons.mp h
      exact ih hcs

/-- Components that are names are entered one after the other. -/
theorem walk_of_names {cs : List String} (h : ∀ c ∈ cs, c ≠ "" ∧ c ≠ "." ∧ c ≠ "..") :
    walk l cs = cs.reverse ++ l := by
  induction cs generalizing l with
  | nil => rfl
  | cons c cs ih =>
      obtain ⟨⟨hempty, hdot, hdots⟩, hcs⟩ := List.forall_mem_cons.mp h
      have hstep : walkStep l c = c :: l := by
        rw [walkStep, if_neg (not_or.mpr ⟨hempty, hdot⟩), if_neg hdots]
      show walk (walkStep l c) cs = _
      rw [hstep, ih hcs, List.reverse_cons, List.append_assoc, List.singleton_append]

end Location

namespace FilePath

/-- The pieces between the slashes of a path. -/
def pieces (p : FilePath) : List String := Text.piecesOf '/' p.text

/-- Where a path begins, seen from a working directory. -/
def origin (d : Location) (p : FilePath) : Location := if p.isAbsolute then [] else d

/-- The location of a path, seen from a working directory, if it can be followed. -/
def place (d : Location) (p : FilePath) : Location := (p.origin d).walk p.pieces

/-- The location is that of a beginning of the path. -/
def Passes (d : Location) (p : FilePath) (l : Location) : Prop :=
  ∃ front, front <+: p.pieces ∧ (p.origin d).walk front = l

theorem passes_place (d : Location) (p : FilePath) : p.Passes d (p.place d) :=
  ⟨p.pieces, List.prefix_rfl, rfl⟩

/-! ## Parents -/

/-- The last piece is dropped up to a slash, if there is one. -/
theorem dropPiece_cases (cs : List Char) :
    dropPiece cs = [] ∧ '/' ∉ cs ∨
      ∃ piece rest, cs = piece ++ '/' :: rest ∧ dropPiece cs = '/' :: rest := by
  induction cs with
  | nil => exact .inl ⟨rfl, List.not_mem_nil⟩
  | cons c cs ih =>
      by_cases hc : c = '/'
      · subst hc
        exact .inr ⟨[], cs, rfl, rfl⟩
      · have hdrop : dropPiece (c :: cs) = dropPiece cs :=
          List.dropWhile_cons_of_pos (decide_eq_true hc)
        rw [hdrop]
        rcases ih with ⟨hnone, hnotMem⟩ | ⟨piece, rest, rfl, hrest⟩
        · exact .inl ⟨hnone, List.not_mem_cons_of_ne_of_not_mem (Ne.symm hc) hnotMem⟩
        · exact .inr ⟨c :: piece, rest, rfl, hrest⟩

/-- Whatever the first of two texts passes, the second passes as well. -/
def IsFront (a b : List Char) : Prop :=
  ∀ (l : Location) (front : List String), front <+: (Text.pieces '/' a).map String.ofList →
    ∃ other, other <+: (Text.pieces '/' b).map String.ofList ∧ l.walk front = l.walk other

namespace IsFront

variable {a b c : List Char}

theorem refl (a : List Char) : IsFront a a := fun _ front h => ⟨front, h, rfl⟩

theorem trans (hab : IsFront a b) (hbc : IsFront b c) : IsFront a c := by
  intro l front hfront
  obtain ⟨other, hother, hwalk⟩ := hab l front hfront
  obtain ⟨last, hlast, hwalk'⟩ := hbc l other hother
  exact ⟨last, hlast, hwalk.trans hwalk'⟩

theorem nil (b : List Char) : IsFront [] b := by
  intro l front hfront
  refine ⟨[], List.nil_prefix, ?_⟩
  exact Location.walk_of_forall_eq_empty fun c hc => List.mem_singleton.mp (hfront.subset hc)

theorem append_slash (a rest : List Char) : IsFront a (a ++ '/' :: rest) := by
  intro l front hfront
  refine ⟨front, ?_, rfl⟩
  rw [Text.pieces_append_sep, List.map_append]
  exact hfront.trans (List.prefix_append _ _)

/-- What follows a slash can be taken off. -/
theorem slash_append (a rest : List Char) : IsFront (a ++ ['/']) (a ++ '/' :: rest) := by
  intro l front hfront
  rw [Text.pieces_append_sep, List.map_append] at hfront
  rcases List.prefix_concat_iff.mp hfront with rfl | hfront
  · obtain ⟨other, hother, hwalk⟩ := append_slash a rest l _ List.prefix_rfl
    exact ⟨other, hother, (Location.walk_concat_empty l _).trans hwalk⟩
  · exact append_slash a rest l front hfront

theorem trimEnd (fuel : Nat) (cs : List Char) :
    IsFront (FilePath.trimEnd fuel cs).reverse cs.reverse := by
  fun_induction FilePath.trimEnd with
  | case4 fuel rest hrest ih =>
      rw [List.reverse_cons]
      exact ih.trans (append_slash _ [])
  | case5 fuel rest ih =>
      rw [List.reverse_cons] at ih
      simp only [List.reverse_cons, List.append_assoc, List.singleton_append]
      exact ih.trans (slash_append _ ['.'])
  | case1 => exact refl _
  | case2 => exact refl _
  | case3 => exact refl _
  | case6 => exact refl _

theorem dropPiece (cs : List Char) : IsFront (FilePath.dropPiece cs).reverse cs.reverse := by
  rcases dropPiece_cases cs with ⟨hnone, -⟩ | ⟨piece, rest, rfl, hrest⟩
  · rw [hnone]
    exact nil _
  · rw [hrest]
    simp only [List.reverse_cons, List.reverse_append, List.append_assoc, List.singleton_append]
    exact slash_append _ _

end IsFront

theorem isAbsolute_iff : p.isAbsolute = true ↔ p.text.toList.head? = some '/' := by
  rw [isAbsolute]
  split
  · next heq => simp [heq]
  · next hother =>
    refine iff_of_false (by decide) fun h => ?_
    obtain ⟨rest, hrest⟩ := List.head?_eq_some_iff.mp h
    exact hother rest hrest

theorem getLast?_trimEnd (fuel : Nat) (cs : List Char) :
    (trimEnd fuel cs).getLast? = cs.getLast? := by
  fun_induction trimEnd with
  | case4 fuel rest hrest ih =>
      rw [ih, List.getLast?_cons, List.getLast?_eq_some_getLast hrest]
      rfl
  | case5 fuel rest ih => rw [ih, List.getLast?_cons_cons]
  | case1 => rfl
  | case2 => rfl
  | case3 => rfl
  | case6 => rfl

theorem getLast?_dropPiece (cs : List Char) :
    (dropPiece cs).getLast? = some '/' ↔ cs.getLast? = some '/' := by
  rcases dropPiece_cases cs with ⟨hnone, hnotMem⟩ | ⟨piece, rest, rfl, hrest⟩
  · rw [hnone]
    exact iff_of_false (by simp) fun h => hnotMem (List.mem_of_getLast? h)
  · rw [hrest, List.getLast?_append_of_ne_nil _ (by simp)]

/-- The text of a parent is cut from the end of the path, at a slash. -/
theorem parent?_eq_some (h : p.parent? = some q) :
    IsFront q.text.toList p.text.toList ∧ q.isAbsolute = p.isAbsolute := by
  unfold parent? at h
  simp only at h
  split at h
  · cases h
  · cases h
    refine ⟨?_, ?_⟩
    · have hdropped := (IsFront.dropPiece _).trans
        (IsFront.trimEnd p.text.toList.reverse.length p.text.toList.reverse)
      rw [List.reverse_reverse] at hdropped
      rw [String.toList_ofList]
      exact (IsFront.trimEnd _ _).trans hdropped
    · rw [Bool.eq_iff_iff, isAbsolute_iff, isAbsolute_iff, String.toList_ofList, List.head?_reverse,
        getLast?_trimEnd, getLast?_dropPiece, getLast?_trimEnd, List.getLast?_reverse]

theorem Passes.of_parent? (h : p.parent? = some q) (hl : q.Passes d l) : p.Passes d l := by
  obtain ⟨hfront, habsolute⟩ := parent?_eq_some h
  obtain ⟨front, hpieces, rfl⟩ := hl
  obtain ⟨other, hother, hwalk⟩ := hfront (q.origin d) front hpieces
  refine ⟨other, hother, ?_⟩
  rw [hwalk, origin, origin, habsolute]

/-- The paths above a path stand on its way. -/
theorem Passes.of_mem_ancestors {fuel : Nat} (h : q ∈ FileSystem.ancestors fuel p)
    (hl : q.Passes d l) : p.Passes d l := by
  induction fuel generalizing p with
  | zero => exact absurd h List.not_mem_nil
  | succ fuel ih =>
      unfold FileSystem.ancestors at h
      split at h
      · exact absurd h List.not_mem_nil
      · exact absurd h List.not_mem_nil
      · next heq hparent =>
        cases heq
        rcases List.mem_cons.mp h with rfl | h
        · exact hl
        · exact .of_parent? hparent (ih h)

end FilePath

/-! ## Following -/

/-- What is done in two parts succeeds if both parts do. -/
theorem bind_eq_ok_iff {ε α β : Type} {x : Except ε α} {f : α → Except ε β} {b : β} :
    x >>= f = .ok b ↔ ∃ a, x = .ok a ∧ f a = .ok b := by
  cases x with
  | error e => exact iff_of_false (fun h => by cases h) fun ⟨_, h, _⟩ => by cases h
  | ok a => exact ⟨fun h => ⟨a, rfl, h⟩, fun ⟨_, ha, h⟩ => by cases ha; exact h⟩

namespace FileSystem

theorem enter_eq_ok_iff : fs.enter l = .ok () ↔ fs.node? l = some .directory := by
  unfold enter
  cases fs.node? l with
  | none => simp
  | some n => cases n <;> simp

theorem step_eq_ok_iff {c : String} :
    fs.step l c = .ok m ↔
      fs.node? l = some .directory ∧ c.utf8ByteSize ≤ nameLimit ∧ m = l.walkStep c := by
  have hpure : ∀ next : Location, (pure next : Except FileFault Location) = .ok m ↔ m = next :=
    fun next => ⟨fun h => by cases h; rfl, fun h => by rw [h]; rfl⟩
  unfold step Location.walkStep
  by_cases hdir : fs.node? l = some .directory
  · rw [enter_eq_ok_iff.mpr hdir, and_iff_right hdir]
    show (if c = "" ∨ c = "." then _ else _) = _ ↔ _
    split
    · next hstay =>
      have hfits : c.utf8ByteSize ≤ nameLimit := by rcases hstay with rfl | rfl <;> decide
      rw [and_iff_right hfits, hpure]
    · split
      · next hback =>
        have hfits : c.utf8ByteSize ≤ nameLimit := by subst hback; decide
        rw [and_iff_right hfits, hpure]
      · split
        · next hlong =>
          exact iff_of_false (fun h => by cases h) fun h => absurd h.1 (Nat.not_le.mpr hlong)
        · next hfits => rw [and_iff_right (Nat.not_lt.mp hfits), hpure]
  · refine iff_of_false (fun h => hdir ?_) fun h => hdir h.1
    obtain ⟨⟨⟩, henter, -⟩ := bind_eq_ok_iff.mp h
    exact enter_eq_ok_iff.mp henter

theorem follow_cons_eq_ok_iff {c : String} {cs : List String} :
    fs.follow l (c :: cs) = .ok m ↔ ∃ next, fs.step l c = .ok next ∧ fs.follow next cs = .ok m := by
  rw [follow, List.foldlM_cons, bind_eq_ok_iff]
  rfl

theorem follow_append_eq_ok_iff {cs ds : List String} :
    fs.follow l (cs ++ ds) = .ok m ↔ ∃ mid, fs.follow l cs = .ok mid ∧ fs.follow mid ds = .ok m := by
  rw [follow, List.foldlM_append, bind_eq_ok_iff]
  rfl

theorem follow_eq_ok {cs : List String} (h : fs.follow l cs = .ok m) : l.walk cs = m := by
  induction cs generalizing l with
  | nil => cases h; rfl
  | cons c cs ih =>
      obtain ⟨next, hstep, h⟩ := follow_cons_eq_ok_iff.mp h
      rw [(step_eq_ok_iff.mp hstep).2.2] at h
      exact ih h

theorem locate_eq_ok_iff :
    fs.locate p = .ok l ↔
      checkText p = .ok () ∧ fs.follow (p.origin fs.workingDirectory) p.pieces = .ok l := by
  rw [locate, bind_eq_ok_iff]
  exact ⟨fun ⟨_, hcheck, h⟩ => ⟨hcheck, h⟩, fun ⟨hcheck, h⟩ => ⟨(), hcheck, h⟩⟩

theorem locate_eq_ok (h : fs.locate p = .ok l) : p.place fs.workingDirectory = l :=
  follow_eq_ok (locate_eq_ok_iff.mp h).2

theorem lookup_of_locate {n : FileNode} (h : fs.locate p = .ok l) (hn : fs.node? l = some n) :
    fs.lookup p = .ok n := by
  refine bind_eq_ok_iff.mpr ⟨l, h, ?_⟩
  rw [hn]
  rfl

/-- No directory of the first file system is lost in the second. -/
structure KeepsDirectories (fs fs' : FileSystem) : Prop where
  directories : ∀ l, fs.node? l = some .directory → fs'.node? l = some .directory
  workingDirectory : fs'.workingDirectory = fs.workingDirectory

namespace KeepsDirectories

theorem step {c : String} (h : KeepsDirectories fs fs') (hstep : fs.step l c = .ok m) :
    fs'.step l c = .ok m := by
  obtain ⟨hdir, hfits, hm⟩ := step_eq_ok_iff.mp hstep
  exact step_eq_ok_iff.mpr ⟨h.directories l hdir, hfits, hm⟩

theorem follow {cs : List String} (h : KeepsDirectories fs fs') (hfollow : fs.follow l cs = .ok m) :
    fs'.follow l cs = .ok m := by
  induction cs generalizing l with
  | nil => exact hfollow
  | cons c cs ih =>
      obtain ⟨next, hstep, hrest⟩ := follow_cons_eq_ok_iff.mp hfollow
      exact follow_cons_eq_ok_iff.mpr ⟨next, h.step hstep, ih hrest⟩

theorem locate (h : KeepsDirectories fs fs') (hlocate : fs.locate p = .ok l) :
    fs'.locate p = .ok l := by
  obtain ⟨hcheck, hfollow⟩ := locate_eq_ok_iff.mp hlocate
  refine locate_eq_ok_iff.mpr ⟨hcheck, ?_⟩
  rw [h.workingDirectory]
  exact h.follow hfollow

end KeepsDirectories

/-! ## Writing and making directories -/

/-- What is left of a list of pieces when the empty ones at its end are dropped. -/
theorem eq_append_of_dropWhile_reverse {cs before : List String} {last : String}
    (h : cs.reverse.dropWhile (· = "") = last :: before) :
    last ≠ "" ∧ ∃ after, cs = before.reverse ++ last :: after ∧ ∀ c ∈ after, c = "" := by
  have hempty : ∀ c ∈ cs.reverse.takeWhile (· = ""), c = "" :=
    fun c hc => by simpa using List.mem_takeWhile_imp hc
  have hsplit : cs.reverse.takeWhile (· = "") ++ last :: before = cs.reverse := by
    rw [← h, List.takeWhile_append_dropWhile]
  have hlast := List.head?_dropWhile_not (fun c : String => decide (c = "")) cs.reverse
  rw [h] at hlast
  have hcs := congrArg List.reverse hsplit
  rw [List.reverse_reverse, List.reverse_append, List.reverse_cons, List.append_assoc,
    List.singleton_append] at hcs
  exact ⟨by simpa using hlast, _, hcs.symm, fun c hc => hempty c (List.mem_reverse.mp hc)⟩

/-- The name that is put somewhere is the last piece of the path but for slashes at the end, and all
before it can be followed. -/
theorem target_eq_ok {name : String} (h : fs.target p = .ok (l, some name)) :
    ∃ before after, p.pieces = before ++ name :: after ∧ (∀ c ∈ after, c = "") ∧
      checkText p = .ok () ∧ fs.follow (p.origin fs.workingDirectory) before = .ok l ∧
        fs.step l name = .ok (name :: l) := by
  obtain ⟨⟨⟩, hcheck, h⟩ := bind_eq_ok_iff.mp h
  split at h
  · cases h
  · next last before hpieces =>
    obtain ⟨hlast, after, hsplit, hafter⟩ := eq_append_of_dropWhile_reverse hpieces
    obtain ⟨mid, hfollow, h⟩ := bind_eq_ok_iff.mp h
    obtain ⟨⟨⟩, henter, h⟩ := bind_eq_ok_iff.mp h
    split at h
    · cases h
    · next hdots =>
      obtain ⟨hdot, hdots⟩ := not_or.mp hdots
      split at h
      · cases h
      · next hfits =>
        cases h
        have hwalk : l.walkStep name = name :: l := by
          rw [Location.walkStep, if_neg (not_or.mpr ⟨hlast, hdot⟩), if_neg hdots]
        exact ⟨_, after, hsplit, hafter, hcheck, hfollow,
          step_eq_ok_iff.mpr ⟨enter_eq_ok_iff.mp henter, Nat.not_lt.mp hfits, hwalk.symm⟩⟩

/-- A path leads to the name that is put somewhere, if it can be followed. -/
theorem place_of_target {name : String} (h : fs.target p = .ok (l, some name)) :
    p.place fs.workingDirectory = name :: l := by
  obtain ⟨before, after, hpieces, hafter, -, hfollow, hstep⟩ := target_eq_ok h
  rw [FilePath.place, hpieces, Location.walk_append, follow_eq_ok hfollow]
  show ((l.walkStep name).walk after) = _
  rw [← (step_eq_ok_iff.mp hstep).2.2, Location.walk_of_forall_eq_empty hafter]

/-- A directory that is made is put where nothing was. -/
theorem makeDirectory_eq_ok (h : fs.makeDirectory p = .ok fs') :
    fs.node? (p.place fs.workingDirectory) = none ∧
      fs' = fs.put (p.place fs.workingDirectory) .directory := by
  obtain ⟨⟨l, name⟩, htarget, h⟩ := bind_eq_ok_iff.mp h
  cases name with
  | none => cases h
  | some name =>
      rw [place_of_target htarget]
      change (if (fs.node? (name :: l)).isSome then _ else _) = _ at h
      split at h
      · cases h
      · next hnone =>
        cases h
        exact ⟨by simpa using hnone, rfl⟩

theorem endsWithSlash_of_pieces {before : List String} (hbefore : before ≠ [])
    (h : p.pieces = before ++ [""]) : p.endsWithSlash = true := by
  have htext : p.text = "/".intercalate before ++ "/" := by
    rw [← Text.intercalate_piecesOf '/' p.text]
    show "/".intercalate p.pieces = _
    rw [h, String.intercalate_append_of_ne_nil hbefore (by simp), String.intercalate_singleton,
      String.append_empty]
  rw [FilePath.endsWithSlash, htext]
  simp

/-- A file is written where its path leads, and not over a directory. -/
theorem write_eq_ok {text : String} (h : fs.write p text = .ok fs') :
    fs.locate p = .ok (p.place fs.workingDirectory) ∧
      fs.node? (p.place fs.workingDirectory) ≠ some .directory ∧
      fs' = fs.put (p.place fs.workingDirectory) (.file text.toUTF8) := by
  obtain ⟨⟨l, name⟩, htarget, h⟩ := bind_eq_ok_iff.mp h
  cases name with
  | none => cases h
  | some name =>
      rw [place_of_target htarget]
      change (if p.endsWithSlash then _ else _) = _ at h
      split at h
      · cases h
      · next hslash =>
        obtain ⟨before, after, hpieces, hafter, hcheck, hfollow, hstep⟩ := target_eq_ok htarget
        have hlast : after = [] := by
          refine (List.eq_nil_or_concat' after).resolve_right ?_
          rintro ⟨front, last, rfl⟩
          rw [hafter last (by simp)] at hpieces
          have hfront : before ++ name :: front ≠ [] := by simp
          refine hslash (endsWithSlash_of_pieces hfront ?_)
          rw [hpieces, List.append_assoc, List.cons_append]
        have hlocate : fs.locate p = .ok (name :: l) := by
          refine locate_eq_ok_iff.mpr ⟨hcheck, ?_⟩
          rw [hpieces, hlast]
          exact follow_append_eq_ok_iff.mpr ⟨l, hfollow, follow_cons_eq_ok_iff.mpr ⟨_, hstep, rfl⟩⟩
        have hnode : fs.node? (name :: l) ≠ some .directory ∧
            fs' = fs.put (name :: l) (.file text.toUTF8) := by
          split at h
          · cases h
          · next heq => cases h; exact ⟨by rw [heq]; simp, rfl⟩
          · next heq => cases h; exact ⟨by rw [heq]; simp, rfl⟩
        exact ⟨hlocate, hnode⟩

/-- The root is a directory. -/
theorem ne_nil_of_node? (h : fs.node? l ≠ some .directory) : l ≠ [] := by
  rintro rfl
  exact h rfl

theorem keepsDirectories_put (h : fs.node? l ≠ some .directory) (n : FileNode) :
    KeepsDirectories fs (fs.put l n) := by
  refine ⟨fun m hm => ?_, rfl⟩
  rw [node?_put fs (ne_nil_of_node? h), if_neg]
  · exact hm
  · rintro rfl
    exact h hm

/-- A path that was written can be followed to what was written. -/
theorem located_of_write {text : String} (h : fs.write p text = .ok fs') :
    fs'.locate p = .ok (p.place fs'.workingDirectory) ∧
      fs'.node? (p.place fs'.workingDirectory) = some (.file text.toUTF8) := by
  obtain ⟨hlocate, hnode, rfl⟩ := write_eq_ok h
  refine ⟨(keepsDirectories_put hnode _).locate hlocate, ?_⟩
  exact (node?_put fs (ne_nil_of_node? hnode) _ _).trans (if_pos rfl)

/-- A directory is put where nothing was, at one of some locations. -/
inductive MakesDirectory (P : Location → Prop) (fs : FileSystem) : FileSystem → Prop where
  | made {l : Location} (hl : P l) (hfree : fs.node? l = none) :
      MakesDirectory P fs (fs.put l .directory)

theorem workingDirectory_of_makesDirectory {P : Location → Prop}
    (h : Relation.ReflTransGen (MakesDirectory P) fs fs') :
    fs'.workingDirectory = fs.workingDirectory := by
  induction h with
  | refl => rfl
  | tail _ hstep ih =>
      cases hstep with
      | made hl hfree => exact ih

theorem makeDirectory_step {P : Location → Prop} (hp : P (p.place fs.workingDirectory))
    (h : fs.makeDirectory p = .ok fs') : MakesDirectory P fs fs' := by
  obtain ⟨hfree, rfl⟩ := makeDirectory_eq_ok h
  exact .made hp hfree

/-- All that is done for a chain is to make directories at places of its paths. -/
theorem makeChain_steps {P : Location → Prop} {ps : List FilePath}
    (hps : ∀ p ∈ ps, P (p.place fs.workingDirectory)) :
    Relation.ReflTransGen (MakesDirectory P) fs (fs.makeChain ps).1 := by
  induction ps with
  | nil => exact .refl
  | cons p above ih =>
      obtain ⟨hp, habove⟩ := List.forall_mem_cons.mp hps
      unfold makeChain
      split
      · next made hmade => exact .single (makeDirectory_step hp hmade)
      · specialize ih habove
        split
        · next heq => rw [heq] at ih; exact ih
        · next mid heq =>
          rw [heq] at ih
          split
          · next made hmade =>
            refine ih.tail (makeDirectory_step ?_ hmade)
            rw [workingDirectory_of_makesDirectory ih]
            exact hp
          · exact ih
      · exact .refl

/-- Above a path directories are made at locations that it passes, and nothing else is done. -/
theorem makeAbove_steps (fs : FileSystem) (p : FilePath) :
    Relation.ReflTransGen (MakesDirectory (p.Passes fs.workingDirectory)) fs (fs.makeAbove p).1 := by
  unfold makeAbove
  split
  · exact .refl
  · next q hparent =>
    have hsteps : Relation.ReflTransGen (MakesDirectory (p.Passes fs.workingDirectory)) fs
        (fs.makeDirectories q).1 := by
      refine makeChain_steps fun a ha => .of_parent? hparent (.of_mem_ancestors ha ?_)
      exact a.passes_place _
    split
    · next heq => rw [heq] at hsteps; exact hsteps
    · next heq => rw [heq] at hsteps; exact hsteps

end FileSystem

end AssertionGen
