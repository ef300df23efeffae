import AssertionGen.Text.CharRuns
import AssertionGen.Text.VisibleTable
/-!
# Quoted text for diagnostics

Messages and argument dumps show a text between double quotes, with a backslash before quotes and
backslashes, short escapes for NUL, tab, line feed and carriage return, and the code point in hexadecimal
for every character that would not be seen as itself: controls, formats, separators other than the
blank, fillers, unassigned and private characters, and marks that extend the character before them.
-/

namespace AssertionGen.Text

/-- Whether a character is seen as itself. -/
def isVisible (c : Char) : Bool :=
  if c.toNat < 0x80 then 0x20 ≤ c.toNat ∧ c.toNat < 0x7f
  else inRuns visibleEdges c.toNat && !inRuns extendingMarkEdges c.toNat

/-- A character by its code point in hexadecimal, between braces. -/
def codePointEscape (c : Char) : List Char :=
  "\\u\x7b".toList ++ Nat.toDigits 16 c.toNat ++ ['\x7d']

/-- One character of a quoted text. Single quotes stay: they do not end it. -/
def escapeChar (c : Char) : List Char :=
  if c = '\x00' then ['\\', '0']
  else if c = '\t' then ['\\', 't']
  else if c = '\n' then ['\\', 'n']
  else if c = '\r' then ['\\', 'r']
  else if c = '\\' then ['\\', '\\']
  else if c = '"' then ['\\', '"']
  else if isVisible c then [c]
  else codePointEscape c

/-- A text between double quotes, as diagnostics show it. -/
def quoted (s : String) : String :=
  String.ofList ('"' :: s.toList.flatMap escapeChar ++ ['"'])

end AssertionGen.Text
