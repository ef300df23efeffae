import AssertionGen.Discovery.Source
import AssertionGen.Files.Expansion
/-!
# Inputs

Inputs are paths, or patterns if they contain a wildcard character. A pattern must match something; a
path is taken as it is. All inputs are resolved before the first file is read.
-/

namespace AssertionGen

/-- Why the value types could not be loaded. -/
inductive DiscoveryError where
  | unreadable (path : FilePath) (cause : FileFault)
  | refused (path : FilePath) (refusal : SourceRefusal)
  | badPattern (pattern : String) (error : WildcardError)
  | noMatch (pattern : String)
  deriving DecidableEq, Repr

namespace DiscoveryError

/-- The words for an error. -/
def message : DiscoveryError → String
  | unreadable p cause => "failed to read " ++ p.text ++ ": " ++ cause.message
  | refused p r => p.text ++ ": at JSON path " ++ r.place ++ " → " ++ r.message
  | badPattern s e => "invalid input pattern `" ++ s ++ "`: " ++ e.message
  | noMatch s => "glob pattern matched no files: " ++ s

/-- What lies behind an error. -/
def cause? : DiscoveryError → Option FileFault
  | unreadable _ cause => some cause
  | refused _ _ | badPattern _ _ | noMatch _ => none

end DiscoveryError

namespace FileSystem

/-- Characters that make an input a pattern. -/
def isWildcardChar (c : Char) : Bool := c = '*' || c = '?' || c = '[' || c = '\x7b'

/-- The paths of one input. -/
def resolveInput (fs : FileSystem) (input : String) : Except DiscoveryError (List FilePath) :=
  if input.toList.any isWildcardChar then
    match PathPattern.ofText input with
    | .error e => .error (.badPattern input e)
    | .ok p =>
      match fs.expand p with
      | [] => .error (.noMatch input)
      | paths => .ok paths
  else .ok [⟨input⟩]

/-- The paths of all inputs, in order. -/
def resolveInputs (fs : FileSystem) (inputs : List String) : Except DiscoveryError (List FilePath) := do
  return (← inputs.mapM fs.resolveInput).flatten

/-- The value types in a file. -/
def loadFile (fs : FileSystem) (p : FilePath) : Except DiscoveryError (List ValueType) := do
  let source ← (fs.readText p).mapError (.unreadable p)
  (ValueType.ofText source).mapError (.refused p)

/-- The value types in all inputs, in order. -/
def loadInputs (fs : FileSystem) (inputs : List String) : Except DiscoveryError (List ValueType) := do
  let paths ← fs.resolveInputs inputs
  return (← paths.mapM fs.loadFile).flatten

end FileSystem

end AssertionGen
