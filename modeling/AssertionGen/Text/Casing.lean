import AssertionGen.Text.CharRuns
import AssertionGen.Text.CaseTable
/-!
# Case mapping

Full case mapping of Unicode: a character may have several images, and a capital sigma that ends a
word becomes the final small one. `capitalize` and `decapitalize` map the first character only;
`lowercase` maps a whole word.
-/

namespace AssertionGen.Text

/-! ## One character -/

/-- The image of a code point under the first run that covers it. -/
def caseImage? : List CaseRun → Nat → Option Nat
  | [], _ => none
  | r :: rs, n =>
    if r.first ≤ n ∧ n ≤ r.last ∧ (n - r.first) % r.step = 0 then some ((n : Int) + r.shift).toNat
    else caseImage? rs n

/-- The images of a code point that has several. -/
def expansion? : List (Nat × List Nat) → Nat → Option (List Nat)
  | [], _ => none
  | (m, images) :: rest, n => if m = n then some images else expansion? rest n

/-- Maps a character by the expansions, then by the runs; others stay. -/
def mapCase (expansions : List (Nat × List Nat)) (runs : List CaseRun) (c : Char) : List Char :=
  match expansion? expansions c.toNat with
  | some images => images.map Char.ofNat
  | none =>
    match caseImage? runs c.toNat with
    | some n => [Char.ofNat n]
    | none => [c]

/-- The lower-case image of a character. -/
def lowerChar (c : Char) : List Char :=
  if c.toNat < 0x80 then [c.toLower] else mapCase lowerExpansions lowerRuns c

/-- The upper-case image of a character. -/
def upperChar (c : Char) : List Char :=
  if c.toNat < 0x80 then [c.toUpper] else mapCase upperExpansions upperRuns c

/-! ## Words -/

/-- Characters that have a case. -/
def isCased (c : Char) : Bool :=
  if c.toNat < 0x80 then c.isAlpha else inRuns casedEdges c.toNat

/-- Characters that are skipped when the case of the neighbours is asked for. -/
def isCaseIgnorable (c : Char) : Bool :=
  if c.toNat < 0x80 then c ∈ "'.:^`".toList else inRuns caseIgnorableEdges c.toNat

/-- Whether the first character that is not ignorable is a cased one. -/
def meetsCased (cs : List Char) : Bool :=
  match cs.dropWhile isCaseIgnorable with
  | [] => false
  | c :: _ => isCased c

/-- The lower-case form of `rest`, which follows the characters `before` (nearest first). A capital
sigma is final if a cased character precedes it and none follows. -/
def lowercaseAfter (before : List Char) : List Char → List Char
  | [] => []
  | c :: rest =>
    (if c = 'Σ' then
      [if meetsCased before && !meetsCased rest then 'ς' else 'σ']
    else lowerChar c) ++ lowercaseAfter (c :: before) rest

/-- The lower-case form of a word. -/
def lowercase (word : List Char) : List Char := lowercaseAfter [] word

/-- The first character in upper case, the others as they are. -/
def capitalizeChars : List Char → List Char
  | [] => []
  | c :: rest => upperChar c ++ rest

/-- The first character in lower case, the others as they are. -/
def decapitalizeChars : List Char → List Char
  | [] => []
  | c :: rest => lowerChar c ++ rest

/-- The text with its first character in upper case. -/
def capitalize (s : String) : String := String.ofList (capitalizeChars s.toList)

/-- The text with its first character in lower case. -/
def decapitalize (s : String) : String := String.ofList (decapitalizeChars s.toList)

end AssertionGen.Text
