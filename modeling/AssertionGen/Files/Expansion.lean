import AssertionGen.Files.FileSystem
import AssertionGen.Files.Wildcard
/-!
# The paths that match a pattern

A path pattern is cut at its slashes into patterns for names, which are followed from directory to
directory. A part without wildcards is looked up, other parts are tried on the names in the directory, in
ascending order; what lies below a match comes before the next name. Two asterisks stand for the
directories at any depth, and match directories alone if they end the pattern. A slash at the end asks
for directories.
-/

namespace AssertionGen

/-- The pattern for one component of a path. -/
inductive ComponentPattern where
  | literal (name : String)
  | wild (parts : List Wildcard)
  /-- Directories at any depth. -/
  | anyDepth
  deriving DecidableEq, Repr

namespace ComponentPattern

/-- Reads the pattern of a component. -/
def ofText (s : String) : Except WildcardError ComponentPattern := do
  let ws ← Wildcard.ofText s
  if ws = [.anyDirectories] then return anyDepth
  else
    match Wildcard.literal? ws with
    | some _ => return literal s
    | none => return wild ws

/-- Whether a name fits. -/
def accepts (p : ComponentPattern) (name : String) : Bool :=
  match p with
  | literal s => s = name
  | wild ws => Wildcard.accepts ws name.toList
  | anyDepth => false

/-- The directory itself and the one above it, as far as the pattern names them: it must begin with a
dot for that. The one above comes first. -/
def dots : ComponentPattern → List String
  | wild (.char '.' :: ws) =>
    ["..", "."].filter fun s => Wildcard.accepts (.char '.' :: ws) s.toList
  | _ => []

end ComponentPattern

/-- The pattern of a path. -/
structure PathPattern where
  absolute : Bool
  components : List ComponentPattern
  directoriesOnly : Bool
  deriving Repr

namespace PathPattern

/-- Repeated patterns for any depth stand for one. -/
def collapse : List ComponentPattern → List ComponentPattern
  | .anyDepth :: .anyDepth :: ps => collapse (.anyDepth :: ps)
  | p :: ps => p :: collapse ps
  | [] => []

/-- The pieces between slashes, without the empty one that a slash at the end leaves. -/
def piecesBetween (s : String) : List String :=
  let ps := Text.piecesOf '/' s
  if ps.getLast? = some "" then ps.dropLast else ps

/-- Reads a pattern: first as a whole, then by components. -/
def ofText (s : String) : Except WildcardError PathPattern := do
  let _ ← Wildcard.ofText s
  let absolute := (FilePath.mk s).isAbsolute
  let relative := if absolute then String.ofList (s.toList.drop 1) else s
  let components ← (piecesBetween relative).mapM ComponentPattern.ofText
  return ⟨absolute, collapse components, (FilePath.mk s).endsWithSlash⟩

end PathPattern

namespace FileSystem

/-- The names in a directory in ascending order. -/
def sortedNames (fs : FileSystem) (l : Location) : List String :=
  (fs.namesIn l).mergeSort fun a b => decide (a ≤ b)

/-- The length of the longest way to something. -/
def height (fs : FileSystem) : Nat := fs.entries.foldr (fun e n => max e.1.length n) 0

theorem length_le_height {fs : FileSystem} {e : Location × FileNode} (h : e ∈ fs.entries) :
    e.1.length ≤ fs.height := by
  unfold height
  generalize fs.entries = es at h ⊢
  induction es with
  | nil => simp at h
  | cons f es ih =>
    rcases List.mem_cons.mp h with rfl | h
    · simp only [List.foldr_cons]
      omega
    · have := ih h
      simp only [List.foldr_cons]
      omega

theorem length_lt_height {fs : FileSystem} {l : Location} {n : String} (h : n ∈ fs.sortedNames l) :
    l.length < fs.height := by
  rw [sortedNames, List.mem_mergeSort, namesIn, List.mem_filterMap] at h
  obtain ⟨⟨k, v⟩, he, hn⟩ := h
  have := length_le_height he
  cases k with
  | nil => simp at hn
  | cons m k =>
    by_cases hk : k = l
    · subst hk
      simp at this
      omega
    · simp [hk] at hn

/-- A place on the way: its location, and its path as it is written. -/
structure Spot where
  location : Location
  path : FilePath

/-- Whether the spot is the working directory, written as a dot. -/
def Spot.isDot (s : Spot) : Bool :=
  !s.path.isAbsolute && s.path.text ≠ "" && s.path.components.isEmpty

/-- The path of something in a directory; the working directory leaves no trace if it is written as
a dot. -/
def Spot.pathOf (s : Spot) (name : String) : FilePath :=
  if s.isDot then ⟨name⟩ else s.path.push ⟨name⟩

/-- The spot itself, unless only directories count and it is none. -/
def Spot.found (fs : FileSystem) (directoriesOnly : Bool) (s : Spot) : List FilePath :=
  if directoriesOnly && !fs.isDirectoryAt s.location then [] else [s.path]

/-- What a single name leads to. An empty name, which stands between two slashes, asks for the
directory itself; from the dot it leads nowhere, since nothing has the empty path. -/
def lookAt? (fs : FileSystem) (s : Spot) (name : String) : Option Spot :=
  if name = "" ∧ s.isDot then none
  else
    match fs.step s.location name with
    | .ok l =>
      if name = "." ∨ name = ".." ∨ (fs.node? l).isSome then some ⟨l, s.pathOf name⟩ else none
    | .error _ => none

/-- What the names that fit a pattern lead to, the two with dots first. -/
def wildSpots (fs : FileSystem) (s : Spot) (ws : List Wildcard) : List Spot :=
  let dots := (ComponentPattern.wild ws).dots.filterMap fun name =>
    match fs.step s.location name with
    | .ok l => some (Spot.mk l (s.path.push ⟨name⟩))
    | .error _ => none
  let names := (fs.sortedNames s.location).filter fun name => Wildcard.accepts ws name.toList
  dots ++ names.map fun name => Spot.mk (name :: s.location) (s.pathOf name)

/-- The paths below a directory that match the patterns. -/
def matchesBelow (fs : FileSystem) (directoriesOnly : Bool) (s : Spot) :
    List ComponentPattern → List FilePath
  | [] => []
  | .literal name :: ps =>
    match fs.lookAt? s name with
    | none => []
    | some t => if ps.isEmpty then t.found fs directoriesOnly else fs.matchesBelow directoriesOnly t ps
  | .anyDepth :: ps =>
    if fs.isDirectoryAt s.location then
      (fs.sortedNames s.location).attach.flatMap fun ⟨name, _h⟩ =>
        let t : Spot := ⟨name :: s.location, s.pathOf name⟩
        let here :=
          match ps with
          | [] => t.found fs true
          | p :: ps =>
            if p.accepts name then
              if ps.isEmpty then t.found fs directoriesOnly
              else fs.matchesBelow directoriesOnly t ps
            else []
        here ++ fs.matchesBelow directoriesOnly t (.anyDepth :: ps)
    else []
  | .wild ws :: ps =>
    if fs.isDirectoryAt s.location then
      (fs.wildSpots s ws).flatMap fun t =>
        if ps.isEmpty then t.found fs directoriesOnly else fs.matchesBelow directoriesOnly t ps
    else []
termination_by ps => (ps.length, fs.height - s.location.length)
decreasing_by
  · apply Prod.Lex.left
    simp only [List.length_cons]
    omega
  · apply Prod.Lex.left
    simp only [List.length_cons]
    omega
  · apply Prod.Lex.right
    have := length_lt_height _h
    simp only [List.length_cons]
    omega
  · apply Prod.Lex.left
    simp only [List.length_cons]
    omega

/-- The paths that match a pattern. -/
def expand (fs : FileSystem) (p : PathPattern) : List FilePath :=
  let origin : Spot := if p.absolute then ⟨[], ⟨"/"⟩⟩ else ⟨fs.workingDirectory, ⟨"."⟩⟩
  fs.matchesBelow p.directoriesOnly origin p.components

end FileSystem

end AssertionGen
