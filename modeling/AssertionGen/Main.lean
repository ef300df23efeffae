import AssertionGen.CommandLine.Arguments
import AssertionGen.CommandLine.Execution
/-!
# The program

Reads the command line, observes as much of the real file system as the run can ask for, carries the run
out on what was observed, and makes the changes that it came to.
-/

namespace AssertionGen.Program

/-- The real path of a location. -/
def realPath (l : Location) : String := "/" ++ "/".intercalate l.reverse

/-- A location as the system knows it. -/
def realEntry (l : Location) : IO.FS.DirEntry := ⟨"/", realPath l⟩

/-- Adds what really stands at a location. -/
def observe (fs : FileSystem) (l : Location) : IO FileSystem := do
  if ← (realEntry l).path.isDir then return fs.put l .directory
  if ← (realEntry l).path.pathExists then
    return fs.put l (.file (← IO.FS.readBinFile (realPath l)))
  return fs

/-- Adds what really stands at every location along a path. -/
def observePath (fs : FileSystem) (p : FilePath) : IO FileSystem := do
  let mut fs := fs
  let mut l := fs.start p
  for component in Text.piecesOf '/' p.text do
    match fs.step l component with
    | .error _ => return fs
    | .ok next =>
      l := next
      fs ← observe fs l
  return fs

/-- Adds the names in a directory, and below it down to some depth. -/
partial def observeNames (fs : FileSystem) (l : Location) (depth : Option Nat) : IO FileSystem := do
  if depth = some 0 || !(← (realEntry l).path.isDir) then return fs
  let mut fs := fs
  for e in ← (realEntry l).path.readDir do
    let inner := e.fileName :: l
    if ← e.path.isDir then
      fs ← observeNames (fs.put inner .directory) inner (depth.map (· - 1))
    else
      fs := fs.put inner (.file ByteArray.empty)
  return fs

/-- Adds the names that a pattern may match. -/
def observePattern (fs : FileSystem) (pattern : String) : IO FileSystem := do
  let components := Text.piecesOf '/' pattern
  let isPlain (c : String) : Bool := !c.toList.any FileSystem.isWildcardChar
  let base : FilePath := ⟨"/".intercalate (components.takeWhile isPlain ++ ["."])⟩
  let wild := components.dropWhile isPlain
  let fs ← observePath fs base
  match fs.locate base with
  | .error _ => return fs
  | .ok l => observeNames fs l (if wild.contains "**" then none else some wild.length)

/-- Adds all that the inputs of a run can lead to. -/
def observeInputs (fs : FileSystem) (o : InputOptions) : IO FileSystem := do
  let mut fs := fs
  for input in o.inputs do
    if input.toList.any FileSystem.isWildcardChar then fs ← observePattern fs input
  if let .ok paths := fs.resolveInputs o.inputs then
    for p in paths do fs ← observePath fs p
  if let some p := o.settingsFile then fs ← observePath fs p
  return fs

/-- The working directory and the ones above it. -/
def observeWorkingDirectory : IO FileSystem := do
  let here := ((Text.piecesOf '/' (← IO.currentDir).toString).filter (· ≠ "")).reverse
  let above := (List.range here.length).map fun n => (here.drop n, FileNode.directory)
  return ⟨above.reverse, here⟩

/-- What a command is given. -/
def optionsOf : Command → InputOptions
  | .generate o _ _ | .inspect o _ => o

/-- Whether something stands at a location as it should. -/
def stands (fs : FileSystem) (l : Location) (n : FileNode) : Bool :=
  match fs.node? l, n with
  | some .directory, .directory => true
  | some (.file found), .file content => found.toList == content.toList
  | _, _ => false

/-- Carries an invocation out on the real file system. What it would change is observed too, so that
it is refused where the real system would refuse it. -/
def carryOut (i : Invocation) : IO RunResult := do
  let mut fs ← observeInputs (← observeWorkingDirectory) (optionsOf i.command)
  for e in (i.run fs).files.entries do
    if (fs.node? e.1).isNone then fs ← observe fs e.1
  let result := i.run fs
  for e in result.files.entries do
    if !stands fs e.1 e.2 then
      match e.2 with
      | .directory => IO.FS.createDirAll (realPath e.1)
      | .file content => IO.FS.writeBinFile (realPath e.1) content
  return result

end AssertionGen.Program

open AssertionGen in
/-- Runs the program; the exit code is zero if every value type has a subject. -/
def main (args : List String) : IO UInt32 := do
  match CommandLine.read args with
  | .error fault =>
    if fault.exitCode = 0 then IO.println fault.message else IO.eprintln fault.message
    return fault.exitCode.toUInt32
  | .ok invocation =>
    let result ← Program.carryOut invocation
    IO.print result.output
    IO.eprint result.diagnostics
    match result.answer with
    | .ok true => return 0
    | .ok false => return 1
    | .error e =>
      IO.eprintln ("error: " ++ e.message)
      return 1
