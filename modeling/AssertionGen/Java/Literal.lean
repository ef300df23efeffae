/-!
# String literals

A text is written as a Java string literal with escapes for quotes, backslashes, line feeds, tabs and
carriage returns; all other characters stand for themselves. `readLiteral?` reads a literal off the front of
a text, with those escapes and no others.
-/

namespace AssertionGen.Java

/-- One character inside a literal. -/
def literalChar (c : Char) : List Char :=
  if c = '"' then ['\\', '"']
  else if c = '\\' then ['\\', '\\']
  else if c = '\n' then ['\\', 'n']
  else if c = '\t' then ['\\', 't']
  else if c = '\r' then ['\\', 'r']
  else [c]

/-- The literal of some characters. -/
def literalChars (cs : List Char) : List Char := '"' :: cs.flatMap literalChar ++ ['"']

/-- The literal of a text. -/
def literal (s : String) : String := String.ofList (literalChars s.toList)

/-- The character that an escape stands for. -/
def escapedChar? : Char → Option Char
  | '"' => some '"'
  | '\\' => some '\\'
  | 'n' => some '\n'
  | 't' => some '\t'
  | 'r' => some '\r'
  | _ => none

/-- The characters up to the closing quote, and what follows it. -/
def readLiteralBody? : List Char → Option (List Char × List Char)
  | [] => none
  | '"' :: rest => some ([], rest)
  | '\\' :: c :: rest => do
    let d ← escapedChar? c
    let (cs, rest) ← readLiteralBody? rest
    return (d :: cs, rest)
  | c :: rest =>
    if c = '\\' ∨ c = '\n' ∨ c = '\r' then none
    else do
      let (cs, rest) ← readLiteralBody? rest
      return (c :: cs, rest)

/-- The characters of the literal at the front of a text, and what follows it. -/
def readLiteral? : List Char → Option (List Char × List Char)
  | '"' :: rest => readLiteralBody? rest
  | _ => none

end AssertionGen.Java
