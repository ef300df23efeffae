import AssertionGen.Text.Pieces
/-!
# File paths

A path is a text with slashes between its components; an absolute one begins with a slash. Components
that are empty or a single dot go nowhere. `push` goes on from a path, and an absolute path replaces
it; `parent?` drops the last component.
-/

namespace AssertionGen

/-- A path to a file or directory. -/
structure FilePath where
  text : String
  deriving DecidableEq, Repr, Inhabited

namespace FilePath

/-- Whether the path begins at the root. -/
def isAbsolute (p : FilePath) : Bool :=
  match p.text.toList with
  | '/' :: _ => true
  | _ => false

/-- Whether the text ends with a slash. -/
def endsWithSlash (p : FilePath) : Bool := p.text.toList.getLast? = some '/'

/-- Goes on with another path; an absolute one replaces the first. -/
def push (p q : FilePath) : FilePath :=
  if q.isAbsolute then q
  else if p.text = "" ∨ p.endsWithSlash then ⟨p.text ++ q.text⟩
  else ⟨p.text ++ "/" ++ q.text⟩

/-- The components that go somewhere. -/
def components (p : FilePath) : List String :=
  (Text.piecesOf '/' p.text).filter fun c => c ≠ "" ∧ c ≠ "."

/-- The characters before the last slash-separated piece, reversed; `cs` is reversed too. -/
def dropPiece (cs : List Char) : List Char := cs.dropWhile (· ≠ '/')

/-- Drops slashes and single-dot components at the end, down to `fuel` pieces; reversed characters. A
dot at the very beginning is a component of its own. -/
def trimEnd (fuel : Nat) (cs : List Char) : List Char :=
  match fuel, cs with
  | 0, _ => cs
  | _, [] => []
  | _, ['/'] => ['/']
  | fuel + 1, '/' :: rest => trimEnd fuel rest
  | fuel + 1, '.' :: '/' :: rest => trimEnd fuel ('/' :: rest)
  | _, _ => cs

/-- The path without its last component; the root and the empty path have none. -/
def parent? (p : FilePath) : Option FilePath :=
  let cs := p.text.toList.reverse
  let trimmed := trimEnd cs.length cs
  if trimmed = [] ∨ trimmed = ['/'] then none
  else
    let rest := dropPiece trimmed
    some ⟨String.ofList (trimEnd rest.length rest).reverse⟩

end FilePath

end AssertionGen
