import AssertionGen.Files.FilePath
import AssertionGen.Java.Unit
/-!
# Where units are stored

A unit is stored below a source root, in one directory for each segment of its package, in a file
named for its class.
-/

namespace AssertionGen.Java.SourceUnit

/-- The segments of the package; empty ones do not count. -/
def packageSegments (u : SourceUnit) : List String :=
  (Text.piecesOf '.' u.package).filter (· ≠ "")

/-- The path of a unit below the source root. -/
def relativePath (u : SourceUnit) : FilePath :=
  let directory : FilePath := u.packageSegments.foldl (fun (p : FilePath) s => p.push ⟨s⟩) ⟨""⟩
  directory.push ⟨u.name ++ ".java"⟩

/-- The path of a unit under a root. -/
def pathUnder (root : FilePath) (u : SourceUnit) : FilePath := root.push u.relativePath

end AssertionGen.Java.SourceUnit
