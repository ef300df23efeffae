import AssertionGen.Emission.Layout
import AssertionGen.Files.FileSystem
/-!
# Storing units

Units can be written to files below a source root, or kept in memory by qualified name. A file is
replaced; a name that is kept already is refused.
-/

namespace AssertionGen

/-! ## In files -/

/-- A path that could not be written, and why. -/
structure WriteError where
  path : FilePath
  cause : FileFault
  deriving DecidableEq, Repr

/-- The words for an error. -/
def WriteError.message (e : WriteError) : String :=
  "failed to write " ++ e.path.text ++ ": " ++ e.cause.message

namespace FileSystem

/-- Makes the directories above a path. One that cannot be made is reported by the path of the
directory that was wanted. -/
def makeAbove (fs : FileSystem) (p : FilePath) : FileSystem × Except WriteError Unit :=
  match p.parent? with
  | none => (fs, .ok ())
  | some q =>
    match fs.makeDirectories q with
    | (fs, .error cause) => (fs, .error ⟨q, cause⟩)
    | (fs, .ok ()) => (fs, .ok ())

/-- Writes a whole file. -/
def writeFile (fs : FileSystem) (p : FilePath) (text : String) :
    FileSystem × Except WriteError Unit :=
  match fs.write p text with
  | .error cause => (fs, .error ⟨p, cause⟩)
  | .ok written => (written, .ok ())

/-- Writes a unit below a source root, in directories that are made if need be. -/
def storeUnit (fs : FileSystem) (root : FilePath) (u : Java.SourceUnit) :
    FileSystem × Except WriteError Unit :=
  match fs.makeAbove (u.pathUnder root) with
  | (fs, .error e) => (fs, .error e)
  | (fs, .ok ()) => fs.writeFile (u.pathUnder root) u.source

/-- Writes units until one fails. -/
def storeUnits (fs : FileSystem) (root : FilePath) : List Java.SourceUnit →
    FileSystem × Except WriteError Unit
  | [] => (fs, .ok ())
  | u :: us =>
    match fs.storeUnit root u with
    | (fs, .error e) => (fs, .error e)
    | (fs, .ok ()) => fs.storeUnits root us

end FileSystem

/-! ## In memory -/

/-- The sources that are kept, by qualified name. -/
abbrev KeptUnits := Entries String String

/-- The qualified name of a unit that is kept already. -/
structure DuplicateUnit where
  name : String
  deriving DecidableEq, Repr

/-- The words for a duplicate. -/
def DuplicateUnit.message (d : DuplicateUnit) : String :=
  "output unit " ++ d.name ++ " was already emitted"

namespace KeptUnits

/-- Keeps a unit of a new name. -/
def keep (kept : KeptUnits) (u : Java.SourceUnit) : Except DuplicateUnit KeptUnits :=
  if (Entries.get? kept u.qualifiedName).isSome then .error ⟨u.qualifiedName⟩
  else .ok (Entries.insert kept u.qualifiedName u.source)

/-- Keeps units until one is refused; the ones before it stay. -/
def keepAll (kept : KeptUnits) : List Java.SourceUnit → KeptUnits × Except DuplicateUnit Unit
  | [] => (kept, .ok ())
  | u :: us =>
    match kept.keep u with
    | .error d => (kept, .error d)
    | .ok more => keepAll more us

/-- What is kept, in ascending order of names. -/
def sorted (kept : KeptUnits) : List (String × String) :=
  kept.mergeSort fun a b => decide (a.1 ≤ b.1)

end KeptUnits

end AssertionGen
