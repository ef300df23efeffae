import AssertionGen.Json.StringText
/-!
# Tokens of JSON text

A text is cut into tokens, each with the number of bytes read before and after it. What begins like
a word, a number or a string but goes wrong is a token too and carries its fault, so that whoever
reads the tokens decides whether the fault matters at that place; nothing is cut behind it. The last token of
any other text marks its end.
-/

namespace AssertionGen.Json

/-- What a token is. -/
inductive Lexeme where
  | openList
  | closeList
  | openObject
  | closeObject
  | comma
  | colon
  /-- A word or a number. -/
  | scalar (value : Json)
  | text (value : String)
  | brokenScalar (error : SyntaxError)
  | brokenText (error : SyntaxError)
  /-- A character that begins no token. -/
  | stray
  | finish
  deriving Repr

/-- A token with the number of bytes read before and after it. -/
structure Token where
  lexeme : Lexeme
  start : Nat
  stop : Nat
  deriving Repr

namespace Token

/-- The bytes read once the first byte of the token has been looked at. -/
def peeked (t : Token) : Nat :=
  match t.lexeme with
  | .finish => t.start
  | _ => t.start + 1

/-- Blank characters between tokens. -/
def isBlank (c : Char) : Bool := c = ' ' || c = '\n' || c = '\t' || c = '\r'

/-- The rest of a word, compared letter by letter. -/
def scanWord (value : Json) (expected : List Char) (cs : List Char) (offset : Nat) : Scan Json :=
  match expected, cs with
  | [], rest => ⟨.ok value, rest, offset⟩
  | _ :: _, [] => .fail .endInValue offset
  | e :: expected, c :: cs =>
    if c = e then scanWord value expected cs (offset + 1) else .fail .expectedWord (offset + 1)

/-- The tokens of what follows `offset` bytes. At most `fuel` characters are left. -/
def scanFrom (fuel : Nat) (cs : List Char) (offset : Nat) : List Token :=
  match fuel, cs with
  | 0, _ | _, [] => [⟨.finish, offset, offset⟩]
  | fuel + 1, c :: rest =>
    let one (l : Lexeme) : List Token := ⟨l, offset, offset + 1⟩ :: scanFrom fuel rest (offset + 1)
    let word (s : Scan Json) : List Token :=
      match s.result with
      | .ok v => ⟨.scalar v, offset, s.offset⟩ :: scanFrom fuel s.rest s.offset
      | .error e => [⟨.brokenScalar e, offset, offset⟩]
    if isBlank c then scanFrom fuel rest (offset + 1)
    else if c = '[' then one .openList
    else if c = ']' then one .closeList
    else if c = '\x7b' then one .openObject
    else if c = '\x7d' then one .closeObject
    else if c = ',' then one .comma
    else if c = ':' then one .colon
    else if c = '"' then
      let s := StringText.scan rest (offset + 1)
      match s.result with
      | .ok v => ⟨.text v, offset, s.offset⟩ :: scanFrom fuel s.rest s.offset
      | .error e => [⟨.brokenText e, offset, offset⟩]
    else if c = 'n' then word (scanWord .null "ull".toList rest (offset + 1))
    else if c = 't' then word (scanWord (.bool true) "rue".toList rest (offset + 1))
    else if c = 'f' then word (scanWord (.bool false) "alse".toList rest (offset + 1))
    else if c = '-' ∨ c.isDigit then
      let s := NumberText.scan (c :: rest) offset
      word ⟨s.result.map .number, s.rest, s.offset⟩
    else [⟨.stray, offset, offset⟩]

/-- The tokens of a text. -/
def scan (source : List Char) : List Token := scanFrom source.length source 0

end Token

end AssertionGen.Json
