import AssertionGen.Json.NumberText
/-!
# String texts

Reading a JSON string after its opening quote: characters stand for themselves, control characters
are refused, and a backslash begins an escape. A code point beyond the first plane is written as two
hexadecimal escapes, a high and a low surrogate; neither may stand alone.
-/

namespace AssertionGen.Json.StringText

/-- The value of a hexadecimal digit. -/
def hexDigit? (c : Char) : Option Nat :=
  if c.isDigit then some (c.toNat - '0'.toNat)
  else if 'a' ≤ c ∧ c ≤ 'f' then some (c.toNat - 'a'.toNat + 10)
  else if 'A' ≤ c ∧ c ≤ 'F' then some (c.toNat - 'A'.toNat + 10)
  else none

/-- The four hexadecimal digits at the front, if they are there. -/
def hexUnit? : List Char → Option Nat
  | a :: b :: c :: d :: _ => do
    let a ← hexDigit? a
    let b ← hexDigit? b
    let c ← hexDigit? c
    let d ← hexDigit? d
    return ((a * 16 + b) * 16 + c) * 16 + d
  | _ => none

/-- The number of bytes of some characters. -/
def byteLength (cs : List Char) : Nat := cs.foldl (fun n c => n + c.utf8Size) 0

/-- The four hexadecimal digits at the front, or what is wrong: fewer than four bytes are left, or
the next four are no such digits. -/
def hexUnit (cs : List Char) (offset : Nat) : Except SyntaxError Nat :=
  match hexUnit? cs with
  | some n => .ok n
  | none =>
    let left := byteLength cs
    if left < 4 then .error ⟨.endInString, offset + left⟩ else .error ⟨.invalidEscape, offset + 4⟩

/-- The character that a hexadecimal escape stands for, and how many characters it takes after the
`u`; `offset` bytes are read before these. -/
def hexEscape (cs : List Char) (offset : Nat) : Except SyntaxError (Char × Nat) := do
  let high ← hexUnit cs offset
  if 0xdc00 ≤ high ∧ high ≤ 0xdfff then throw ⟨.loneSurrogate, offset + 4⟩
  if high < 0xd800 ∨ 0xdbff < high then return (Char.ofNat high, 4)
  match cs.drop 4 with
  | [] => throw ⟨.endInString, offset + 4⟩
  | '\\' :: [] => throw ⟨.endInString, offset + 5⟩
  | '\\' :: 'u' :: more =>
    let low ← hexUnit more (offset + 6)
    if low < 0xdc00 ∨ 0xdfff < low then throw ⟨.loneSurrogate, offset + 10⟩
    return (Char.ofNat ((high - 0xd800) * 0x400 + (low - 0xdc00) + 0x10000), 10)
  | '\\' :: _ => throw ⟨.unfinishedHexEscape, offset + 6⟩
  | _ => throw ⟨.unfinishedHexEscape, offset + 5⟩

/-- The character that an escape stands for, and how many characters it takes after the backslash. -/
def escape (cs : List Char) (offset : Nat) : Except SyntaxError (Char × Nat) :=
  match cs with
  | [] => .error ⟨.endInString, offset⟩
  | '"' :: _ => .ok ('"', 1)
  | '\\' :: _ => .ok ('\\', 1)
  | '/' :: _ => .ok ('/', 1)
  | 'b' :: _ => .ok ('\x08', 1)
  | 'f' :: _ => .ok ('\x0c', 1)
  | 'n' :: _ => .ok ('\n', 1)
  | 'r' :: _ => .ok ('\r', 1)
  | 't' :: _ => .ok ('\t', 1)
  | 'u' :: rest => (hexEscape rest (offset + 1)).map fun (c, n) => (c, n + 1)
  | _ :: _ => .error ⟨.invalidEscape, offset + 1⟩

/-- The rest of a string whose characters so far are `read`, the last one first. -/
def scanFrom (read : List Char) (cs : List Char) (offset : Nat) : Scan String :=
  match cs with
  | [] => .fail .endInString offset
  | c :: rest =>
    if c = '"' then ⟨.ok (String.ofList read.reverse), rest, offset + 1⟩
    else if c = '\\' then
      match escape rest (offset + 1) with
      | .error e => .fail e.fault e.offset
      | .ok (d, n) => scanFrom (d :: read) (rest.drop n) (offset + 1 + n)
    else if c.toNat < 0x20 then .fail .controlCharacter (offset + 1)
    else scanFrom (c :: read) rest (offset + c.utf8Size)
termination_by cs.length
decreasing_by
  all_goals simp only [List.length_cons, List.length_drop]
  all_goals omega

/-- A string, after its opening quote. -/
def scan (cs : List Char) (offset : Nat) : Scan String := scanFrom [] cs offset

end AssertionGen.Json.StringText
