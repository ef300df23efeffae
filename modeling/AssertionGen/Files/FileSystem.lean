import AssertionGen.Files.FilePath
import AssertionGen.Ordered.Entries
/-!
# File systems

A file system as a value: what is stored where, and the directory in which relative paths begin. A path
is followed one component at a time; every component but the last must lead to a directory. Nothing but
files and directories exists, and nothing is denied.

The operations are those a program asks of its system: `readText`, `write`, `makeDirectory` and
`makeDirectories`. The first three answer with the cause if they fail, and then change nothing.
`makeDirectories` may fail half way, so it also answers with what was made until then.
-/

namespace AssertionGen

/-- What stands at a location. -/
inductive FileNode where
  | directory
  | file (content : ByteArray)
  deriving Inhabited

/-- Why an operation on files failed. -/
inductive FileFault where
  | missing
  | present
  | notDirectory
  | directory
  | nameTooLong
  /-- The content of a file is no text. -/
  | notText
  /-- The path contains the zero character. -/
  | zeroCharacter
  deriving DecidableEq, Repr

/-- The system's words for a fault. -/
def FileFault.message : FileFault → String
  | missing => "No such file or directory (os error 2)"
  | present => "File exists (os error 17)"
  | notDirectory => "Not a directory (os error 20)"
  | directory => "Is a directory (os error 21)"
  | nameTooLong => "File name too long (os error 36)"
  | notText => "stream did not contain valid UTF-8"
  | zeroCharacter => "file name contained an unexpected NUL byte"

/-- A location: the names on the way to it from the root, the last one first. -/
abbrev Location := List String

/-- Files and directories by location, and the working directory. The root is always a directory. -/
structure FileSystem where
  entries : Entries Location FileNode
  workingDirectory : Location
  deriving Inhabited

namespace FileSystem

/-- What stands at a location. -/
def node? (fs : FileSystem) (l : Location) : Option FileNode :=
  if l = [] then some .directory else fs.entries.get? l

/-- The file system with something put at a location. -/
def put (fs : FileSystem) (l : Location) (n : FileNode) : FileSystem :=
  { fs with entries := fs.entries.insert l n }

theorem node?_put (fs : FileSystem) {l : Location} (h : l ≠ []) (n : FileNode) (m : Location) :
    (fs.put l n).node? m = if l = m then some n else fs.node? m := by
  by_cases hm : m = []
  · subst hm
    rw [node?, if_pos rfl, if_neg h, node?, if_pos rfl]
  · rw [node?, if_neg hm, put, Entries.get?_insert, node?, if_neg hm]

/-- Whether a location is a directory. -/
def isDirectoryAt (fs : FileSystem) (l : Location) : Bool :=
  match fs.node? l with
  | some .directory => true
  | some (.file _) | none => false

/-- The names in a directory. -/
def namesIn (fs : FileSystem) (l : Location) : List String :=
  fs.entries.filterMap fun e =>
    match e.1 with
    | n :: m => if m = l then some n else none
    | [] => none

/-! ## Following a path -/

/-- A name may have so many bytes. -/
def nameLimit : Nat := 255

/-- A path may have so many bytes. -/
def pathLimit : Nat := 4095

/-- Nothing but a directory can be entered. -/
def enter (fs : FileSystem) (l : Location) : Except FileFault Unit :=
  match fs.node? l with
  | some .directory => .ok ()
  | some (.file _) => .error .notDirectory
  | none => .error .missing

/-- Where a component leads from a directory. -/
def step (fs : FileSystem) (l : Location) (component : String) : Except FileFault Location := do
  fs.enter l
  if component = "" ∨ component = "." then return l
  else if component = ".." then return l.tail
  else if component.utf8ByteSize > nameLimit then throw .nameTooLong
  else return component :: l

/-- Where components lead, one after the other; the last need not exist. -/
def follow (fs : FileSystem) (l : Location) (components : List String) : Except FileFault Location :=
  components.foldlM fs.step l

/-- Where a path begins. -/
def start (fs : FileSystem) (p : FilePath) : Location :=
  if p.isAbsolute then [] else fs.workingDirectory

/-- The faults of a path that lie in its text alone. -/
def checkText (p : FilePath) : Except FileFault Unit :=
  if '\x00' ∈ p.text.toList then .error .zeroCharacter
  else if p.text = "" then .error .missing
  else if p.text.utf8ByteSize > pathLimit then .error .nameTooLong
  else .ok ()

/-- The location of a path; nothing need stand there. -/
def locate (fs : FileSystem) (p : FilePath) : Except FileFault Location := do
  checkText p
  fs.follow (fs.start p) (Text.piecesOf '/' p.text)

/-- What a path leads to. -/
def lookup (fs : FileSystem) (p : FilePath) : Except FileFault FileNode := do
  match fs.node? (← fs.locate p) with
  | some n => return n
  | none => throw .missing

/-- Whether a path leads to a directory. -/
def isDirectory (fs : FileSystem) (p : FilePath) : Bool :=
  match fs.lookup p with
  | .ok .directory => true
  | _ => false

/-- Where a path to something new leads: the directory it is to be put in, and its name, if the path
ends in a name. Slashes at the end do not count. -/
def target (fs : FileSystem) (p : FilePath) : Except FileFault (Location × Option String) := do
  checkText p
  match (Text.piecesOf '/' p.text).reverse.dropWhile (· = "") with
  | [] => return ([], none)
  | last :: before =>
    let l ← fs.follow (fs.start p) before.reverse
    fs.enter l
    if last = "." ∨ last = ".." then return (l, none)
    else if last.utf8ByteSize > nameLimit then throw .nameTooLong
    else return (l, some last)

/-! ## Operations -/

/-- The text of a file. -/
def readText (fs : FileSystem) (p : FilePath) : Except FileFault String := do
  match ← fs.lookup p with
  | .directory => throw .directory
  | .file content =>
    match String.fromUTF8? content with
    | some s => return s
    | none => throw .notText

/-- Writes a whole file, which need not exist yet, in a directory that must. -/
def write (fs : FileSystem) (p : FilePath) (text : String) : Except FileFault FileSystem := do
  match ← fs.target p with
  | (_, none) => throw .directory
  | (l, some name) =>
    if p.endsWithSlash then throw .directory
    else
      match fs.node? (name :: l) with
      | some .directory => throw .directory
      | some (.file _) | none => return fs.put (name :: l) (.file text.toUTF8)

/-- Makes a directory in one that exists. -/
def makeDirectory (fs : FileSystem) (p : FilePath) : Except FileFault FileSystem := do
  match ← fs.target p with
  | (_, none) => throw .present
  | (l, some name) =>
    if (fs.node? (name :: l)).isSome then throw .present
    else return fs.put (name :: l) .directory

/-- The path and the paths above it, the longest first; at most `fuel` of them. The root and the empty
path are left out. -/
def ancestors (fuel : Nat) (p : FilePath) : List FilePath :=
  match fuel, p.parent? with
  | 0, _ | _, none => []
  | fuel + 1, some q => p :: ancestors fuel q

/-- Makes the directories of a chain, of which each lies in the next. One that stands already is
fine. -/
def makeChain (fs : FileSystem) : List FilePath → FileSystem × Except FileFault Unit
  | [] => (fs, .ok ())
  | p :: above =>
    match fs.makeDirectory p with
    | .ok made => (made, .ok ())
    | .error .missing =>
      match makeChain fs above with
      | (fs, .error e) => (fs, .error e)
      | (fs, .ok ()) =>
        match fs.makeDirectory p with
        | .ok made => (made, .ok ())
        | .error e => (fs, if fs.isDirectory p then .ok () else .error e)
    | .error e => (fs, if fs.isDirectory p then .ok () else .error e)

/-- Makes a directory and all above it that are missing. -/
def makeDirectories (fs : FileSystem) (p : FilePath) : FileSystem × Except FileFault Unit :=
  fs.makeChain (ancestors p.text.length.succ p)

end FileSystem

end AssertionGen
