import AssertionGen.Text.CharRuns
import AssertionGen.Text.LetterTable
/-!
# Letters and digits

Which characters are upper-case letters, and which are alphanumeric, in Unicode. On ASCII both are
the familiar ranges.
-/

namespace AssertionGen.Text

/-- Upper-case letters (general category Lu). -/
def isUpperLetter (c : Char) : Bool :=
  if c.toNat < 0x80 then c.isUpper else inRuns upperLetterEdges c.toNat

/-- Alphabetic characters and numbers. -/
def isAlphanumeric (c : Char) : Bool :=
  if c.toNat < 0x80 then c.isAlphanum else inRuns alphanumericEdges c.toNat

end AssertionGen.Text
