/-!
# Name patterns with wildcards

A pattern for one name: a question mark stands for any character, an asterisk for any characters, and a
list in brackets for one character that is in it, or is not if the list begins with an exclamation mark.
Two asterisks stand for any number of directories, and must be a whole component of a path. Every other
character stands for itself. `Wildcard.ofText` reads a pattern, `accepts` tries a name.
-/

namespace AssertionGen

/-- A character or a range of characters in a list. -/
inductive CharSpan where
  | one (c : Char)
  | range (first last : Char)
  deriving DecidableEq, Repr

/-- A part of a pattern. -/
inductive Wildcard where
  | char (c : Char)
  | anyChar
  | anyChars
  | anyDirectories
  | within (spans : List CharSpan)
  | except (spans : List CharSpan)
  deriving DecidableEq, Repr

/-- What is wrong with a pattern. -/
inductive WildcardFault where
  | tooManyAsterisks
  | partOfName
  | unfinishedList
  deriving DecidableEq, Repr

/-- The words for a fault. -/
def WildcardFault.message : WildcardFault → String
  | tooManyAsterisks => "wildcards are either regular `*` or recursive `**`"
  | partOfName => "recursive wildcards must form a single path component"
  | unfinishedList => "invalid range pattern"

/-- A fault and the character at which it was noticed. -/
structure WildcardError where
  fault : WildcardFault
  position : Nat
  deriving DecidableEq, Repr

/-- The words for an error. -/
def WildcardError.message (e : WildcardError) : String :=
  "Pattern syntax error near position " ++ toString e.position ++ ": " ++ e.fault.message

namespace CharSpan

/-- The spans of a list in brackets: three characters with a hyphen in the middle are a range. -/
def ofChars : List Char → List CharSpan
  | a :: '-' :: b :: cs => range a b :: ofChars cs
  | a :: cs => one a :: ofChars cs
  | [] => []

/-- Whether a character is in a span. -/
def contains (c : Char) : CharSpan → Bool
  | one d => c = d
  | range a b => a ≤ c && c ≤ b

end CharSpan

namespace Wildcard

/-! ## Reading -/

/-- Cuts a text at its first closing bracket. -/
def cutAtBracket : List Char → Option (List Char × List Char)
  | [] => none
  | ']' :: cs => some ([], cs)
  | c :: cs => (cutAtBracket cs).map fun (inside, rest) => (c :: inside, rest)

theorem length_cutAtBracket {cs inside rest : List Char} (h : cutAtBracket cs = some (inside, rest)) :
    inside.length + 1 + rest.length = cs.length := by
  induction cs generalizing inside with
  | nil => simp [cutAtBracket] at h
  | cons c cs ih =>
    unfold cutAtBracket at h
    split at h
    · simp_all
    · next hc =>
      obtain ⟨rfl, rfl⟩ := hc
      obtain ⟨rfl, rfl⟩ := Prod.mk.inj (Option.some.inj h)
      simp
      omega
    · next hc =>
      obtain ⟨rfl, rfl⟩ := hc
      obtain ⟨⟨i, r⟩, hir, he⟩ := Option.map_eq_some_iff.mp h
      obtain ⟨rfl, rfl⟩ := Prod.mk.inj he
      have := ih hir
      simp
      omega

/-- A list in brackets, from behind its opening bracket: the part, how many characters it takes, and
what follows. The first character of a list belongs to it whatever it is. -/
def ofList? : List Char → Option (Wildcard × List Char)
  | '!' :: a :: cs => (cutAtBracket cs).map fun (i, rest) => (except (CharSpan.ofChars (a :: i)), rest)
  | ['!'] | [] => none
  | a :: cs => (cutAtBracket cs).map fun (i, rest) => (within (CharSpan.ofChars (a :: i)), rest)

theorem length_ofList? {cs rest : List Char} {w : Wildcard} (h : ofList? cs = some (w, rest)) :
    rest.length < cs.length := by
  unfold ofList? at h
  split at h
  · obtain ⟨⟨i, r⟩, hir, he⟩ := Option.map_eq_some_iff.mp h
    obtain ⟨rfl, rfl⟩ := Prod.mk.inj he
    have := length_cutAtBracket hir
    simp
    omega
  · simp at h
  · simp at h
  · obtain ⟨⟨i, r⟩, hir, he⟩ := Option.map_eq_some_iff.mp h
    obtain ⟨rfl, rfl⟩ := Prod.mk.inj he
    have := length_cutAtBracket hir
    simp
    omega

/-- Reads a pattern from a position on; `before` is the character before it. -/
def readFrom (position : Nat) (before : Option Char) (cs : List Char) :
    Except WildcardError (List Wildcard) :=
  match cs with
  | [] => .ok []
  | '?' :: cs => (readFrom (position + 1) (some '?') cs).map (anyChar :: ·)
  | '*' :: '*' :: '*' :: _ => .error ⟨.tooManyAsterisks, position + 2⟩
  | '*' :: '*' :: cs =>
    if before = none ∨ before = some '/' then
      match cs with
      | [] => .ok [anyDirectories]
      | '/' :: cs => (readFrom (position + 3) (some '/') cs).map (anyDirectories :: ·)
      | _ => .error ⟨.partOfName, position + 2⟩
    else .error ⟨.partOfName, position - 1⟩
  | '*' :: cs => (readFrom (position + 1) (some '*') cs).map (anyChars :: ·)
  | '[' :: cs =>
    match _h : ofList? cs with
    | some (w, rest) =>
      (readFrom (position + 1 + (cs.length - rest.length)) (some ']') rest).map (w :: ·)
    | none => .error ⟨.unfinishedList, position⟩
  | c :: cs => (readFrom (position + 1) (some c) cs).map (char c :: ·)
termination_by cs.length
decreasing_by
  all_goals try have hlist := length_ofList? _h
  all_goals simp only [List.length_cons]
  all_goals omega

/-- Reads a pattern. -/
def ofText (s : String) : Except WildcardError (List Wildcard) := readFrom 0 none s.toList

/-- The text of a pattern in which every character stands for itself. -/
def literal? : List Wildcard → Option (List Char)
  | [] => some []
  | char c :: ws => (literal? ws).map (c :: ·)
  | _ => none

/-! ## Trying names -/

/-- Whether a part stands for a character. -/
def acceptsChar (c : Char) : Wildcard → Bool
  | char d => c = d
  | anyChar => true
  | within spans => spans.any (CharSpan.contains c)
  | except spans => !spans.any (CharSpan.contains c)
  | anyChars | anyDirectories => false

/-- Whether a pattern stands for a whole name. -/
def accepts (ws : List Wildcard) (name : List Char) : Bool :=
  match ws, name with
  | [], [] => true
  | [], _ :: _ => false
  | anyChars :: ws, [] | anyDirectories :: ws, [] => accepts ws []
  | anyChars :: ws, c :: cs | anyDirectories :: ws, c :: cs =>
    accepts ws (c :: cs) || accepts (anyChars :: ws) cs
  | _ :: _, [] => false
  | w :: ws, c :: cs => acceptsChar c w && accepts ws cs
termination_by (ws.length, name.length)

end Wildcard

end AssertionGen
