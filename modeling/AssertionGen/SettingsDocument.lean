import AssertionGen.Json.Reader
import AssertionGen.Json.Refusal
import AssertionGen.Settings
/-!
# Serialized settings

Settings are written as an object with six fields. Reading takes the standard value for every field
that is missing, and refuses fields that it does not know. From a tree, `Settings.ofTree` reads the fields
in order. From text, `Settings.ofText` reads along the text: the first fault of either kind, of the
text or of the data, counts, and a data fault carries the position at which it was noticed.
-/

namespace AssertionGen

open Json (Cause Refusal Place Step Token Position SyntaxFault)

namespace Settings

/-- The serialized form. -/
def write (s : Settings) : Json :=
  .object [("prefix", .text s.namePrefix), ("suffix", .text s.nameSuffix), ("indent", .text s.indent),
    ("generated_annotation", .bool s.marked), ("generator_name", .text s.generatorName),
    ("assert_that", .bool s.assertThat)]

/-- The names of the fields, in order. -/
def fieldNames : List String :=
  ["prefix", "suffix", "indent", "generated_annotation", "generator_name", "assert_that"]

/-- What the list form must be. -/
def expected : String := "struct GeneratorConfig"

/-- Settings with one field set from a value; a field that is not known changes nothing. -/
def set (s : Settings) (field : String) (v : Json) : Except Cause Settings :=
  match field with
  | "prefix" => (Json.asText v).map fun x => { s with namePrefix := x }
  | "suffix" => (Json.asText v).map fun x => { s with nameSuffix := x }
  | "indent" => (Json.asText v).map fun x => { s with indent := x }
  | "generated_annotation" => (Json.asBool v).map fun x => { s with marked := x }
  | "generator_name" => (Json.asText v).map fun x => { s with generatorName := x }
  | "assert_that" => (Json.asBool v).map fun x => { s with assertThat := x }
  | _ => .ok s

/-! ## From a tree -/

/-- The fields of an object set one after the other. -/
def setFields (s : Settings) : List (String × Json) → Except Cause Settings
  | [] => .ok s
  | (k, v) :: rest =>
    if k ∈ fieldNames then
      match s.set k v with
      | .error c => .error c
      | .ok s => setFields s rest
    else .error (.unknownField k fieldNames)

/-- Reads settings from a tree. -/
def ofTree : Json → Except Cause Settings
  | .object fields => standard.setFields fields
  | .array items => do
    let s ← standard.setFields (fieldNames.zip items)
    if fieldNames.length < items.length then
      throw (.wrongLength items.length "fewer elements in array")
    return s
  | v => .error (.wrongType v expected)

/-! ## From text -/

/-- Why a text is refused: the words, with the position, and the place. -/
structure TextRefusal where
  place : Place
  message : String
  deriving DecidableEq, Repr

/-- A fault of the data: the cause and the number of bytes read when it was noticed. -/
structure DataFault where
  place : Place
  cause : Cause
  offset : Nat

/-- A fault of either kind. -/
inductive TextFault where
  | syntactic (place : Place) (error : Json.SyntaxError)
  | data (fault : DataFault)

/-- A fault of the text at a token. -/
def faultAt (place : Place) (fault : SyntaxFault) (t : Token) : TextFault :=
  .syntactic place ⟨fault, t.peeked⟩

/-- How far the reader goes after a fault inside an object or a list, which is closed first if its end
comes next: this is where the fault is reported. -/
def noticedAt (closing : Token → Bool) (tokens : List Token) : Nat :=
  match tokens with
  | [] => 0
  | t :: _ => if closing t then t.stop else t.start

/-- Whether a token closes an object. -/
def closesObject (t : Token) : Bool :=
  match t.lexeme with
  | .closeObject => true
  | _ => false

/-- The value of a field at a token. -/
def setToken (s : Settings) (field : String) (place : Place) (t : Token) : Except TextFault Settings :=
  let data (v : Json) (offset : Nat) : Except TextFault Settings :=
    match s.set field v with
    | .ok s => .ok s
    | .error c => .error (.data ⟨place, c, offset⟩)
  match t.lexeme with
  | .scalar v => data v t.stop
  | .text x => data (.text x) t.stop
  | .openList => data (.array []) t.start
  | .openObject => data (.object []) t.start
  | .brokenScalar e | .brokenText e => .error (.syntactic place e)
  | .finish => .error (faultAt place .endInValue t)
  | _ => .error (faultAt place .expectedValue t)

mutual

/-- A key, or what else may come where one is due. -/
def readKey (s : Settings) (seen : List String) (first : Bool) : List Token →
    Except TextFault Settings
  | [] => .ok s
  | t :: rest =>
    let unknown : Place := [.unknown]
    match t.lexeme with
    | .text k =>
      if k ∉ fieldNames then
        .error (.data ⟨[.key k], .unknownField k fieldNames, noticedAt closesObject rest⟩)
      else if k ∈ seen then
        .error (.data ⟨[], .duplicateField k, noticedAt closesObject rest⟩)
      else readColon s (k :: seen) k rest
    | .closeObject => if first then .ok s else .error (faultAt unknown .trailingComma t)
    | .brokenText e => .error (.syntactic unknown e)
    | .finish => .error (faultAt unknown (if first then .endInObject else .endInValue) t)
    | _ => .error (faultAt unknown .keyNotString t)

/-- The colon behind a key. -/
def readColon (s : Settings) (seen : List String) (field : String) : List Token →
    Except TextFault Settings
  | [] => .ok s
  | t :: rest =>
    match t.lexeme with
    | .colon => readValue s seen field rest
    | .finish => .error (faultAt [] .endInObject t)
    | _ => .error (faultAt [] .expectedColon t)

/-- The value behind a colon. -/
def readValue (s : Settings) (seen : List String) (field : String) : List Token →
    Except TextFault Settings
  | [] => .ok s
  | t :: rest =>
    match s.setToken field [.key field] t with
    | .error e => .error e
    | .ok s => readFieldEnd s seen rest

/-- A comma or the end of the object. -/
def readFieldEnd (s : Settings) (seen : List String) : List Token → Except TextFault Settings
  | [] => .ok s
  | t :: rest =>
    match t.lexeme with
    | .closeObject => .ok s
    | .comma => readKey s seen false rest
    | .finish => .error (faultAt [.unknown] .endInObject t)
    | _ => .error (faultAt [.unknown] .expectedObjectCommaOrEnd t)

end

mutual

/-- An item, or what else may come where one is due; `fields` are the fields not yet set. -/
def readItem (s : Settings) (i : Nat) (first : Bool) (fields : List String) : List Token →
    Except TextFault Settings
  | [] => .ok s
  | t :: rest =>
    match fields with
    | [] =>
      match t.lexeme with
      | .closeList => .error (faultAt [] .trailingComma t)
      | _ => .error (faultAt [] .trailingCharacters t)
    | field :: fields =>
      match t.lexeme with
      | .closeList => if first then .ok s else .error (faultAt [] .trailingComma t)
      | .finish => .error (faultAt [] (if first then .endInList else .endInValue) t)
      | _ =>
        match s.setToken field [.index i] t with
        | .error e => .error e
        | .ok s => readItemEnd s (i + 1) fields rest

/-- A comma or the end of the list. -/
def readItemEnd (s : Settings) (i : Nat) (fields : List String) : List Token →
    Except TextFault Settings
  | [] => .ok s
  | t :: rest =>
    match t.lexeme with
    | .closeList => .ok s
    | .comma => readItem s i false fields rest
    | .finish => .error (faultAt [] .endInList t)
    | _ =>
      .error (faultAt [] (if fields = [] then .trailingCharacters else .expectedListCommaOrEnd) t)

end

/-- Settings at the front of some tokens. -/
def ofTokens : List Token → Except TextFault Settings
  | [] => .ok standard
  | t :: rest =>
    match t.lexeme with
    | .openObject => standard.readKey [] true rest
    | .openList => standard.readItem 0 true fieldNames rest
    | .scalar v => .error (.data ⟨[], .wrongType v expected, t.stop⟩)
    | .text x => .error (.data ⟨[], .wrongType (.text x) expected, t.stop⟩)
    | .brokenScalar e | .brokenText e => .error (.syntactic [] e)
    | .finish => .error (faultAt [] .endInValue t)
    | _ => .error (faultAt [] .expectedValue t)

/-- Reads settings from text. -/
def ofText (source : String) : Except TextRefusal Settings :=
  let position (offset : Nat) : Position := Position.of source.toList offset
  match ofTokens (Token.scan source.toList) with
  | .ok s => .ok s
  | .error (.syntactic place e) => .error ⟨place, (position e.offset).mark e.fault.message⟩
  | .error (.data f) => .error ⟨f.place, (position f.offset).mark f.cause.message⟩

end Settings

end AssertionGen
