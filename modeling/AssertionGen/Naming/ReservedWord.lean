/-!
# Reserved words

The words of the Java language that cannot name a method. `escapeReserved` puts an underscore behind
such a word, which makes it a name, and leaves every other name as it is.
-/

namespace AssertionGen

/-- The reserved words, literals included. -/
def reservedWords : List String := [
  "abstract", "assert", "boolean", "break", "byte", "case", "catch", "char", "class", "const",
  "continue", "default", "do", "double", "else", "enum", "extends", "final", "finally", "float",
  "for", "goto", "if", "implements", "import", "instanceof", "int", "interface", "long", "native",
  "new", "package", "private", "protected", "public", "return", "short", "static", "strictfp",
  "super", "switch", "synchronized", "this", "throw", "throws", "transient", "try", "void",
  "volatile", "while", "true", "false", "null"]

/-- A name that is no reserved word. -/
def escapeReserved (name : String) : String :=
  if name ∈ reservedWords then name ++ "_" else name

end AssertionGen
