/-!
# Lines and blocks

A class is written as a sequence of pieces: lines, blank lines, and openings and closings of blocks.
Each line is indented by the number of blocks that are open; an opening is a line that ends in a
brace, a closing is a line of its own, one level further out. An empty line is never indented, and a
closing without an opening stays at the outermost level.
-/

namespace AssertionGen.Java

/-- One piece of a source text. -/
inductive Piece where
  | line (text : String)
  | blank
  | opening (header : String)
  | closing
  deriving DecidableEq, Repr, Inhabited

namespace Piece

/-- The number of open blocks after a piece. -/
def levelAfter (level : Nat) : Piece → Nat
  | opening _ => level + 1
  | closing => level - 1
  | line _ | blank => level

/-- A line at a level. -/
def indented (indent : String) (level : Nat) (text : String) : String :=
  if text = "" then "\n" else String.join (List.replicate level indent) ++ text ++ "\n"

/-- The text of a piece at a level. -/
def write (indent : String) (level : Nat) : Piece → String
  | line text => indented indent level text
  | blank => "\n"
  | opening header => indented indent level (header ++ " \x7b")
  | closing => indented indent (level - 1) "\x7d"

/-- The text of pieces from a level on. -/
def writeFrom (indent : String) (level : Nat) : List Piece → String
  | [] => ""
  | p :: ps => p.write indent level ++ writeFrom indent (p.levelAfter level) ps

/-- The text of pieces. -/
def writeAll (indent : String) (ps : List Piece) : String := writeFrom indent 0 ps

end Piece

end AssertionGen.Java
