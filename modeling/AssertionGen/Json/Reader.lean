import AssertionGen.Json.Place
import AssertionGen.Json.Token
import AssertionGen.Ordered.Entries
/-!
# Reading JSON text

A JSON tree is built from tokens by an automaton with a stack of open lists and objects. It stops at
the end of the first complete value, so nothing behind that value is looked at. If a key comes twice,
the last value wins and keeps the place of the first. The place of an error is read off the stack. Lists
and objects may be nested up to a limit.
-/

namespace AssertionGen.Json

/-- An error of the text and the place in the document where it was noticed. -/
structure ReadError where
  place : Place
  error : SyntaxError
  deriving Repr

/-- A list or object that is not closed yet. -/
inductive Frame where
  /-- The items so far, the last one first. -/
  | list (items : List Json)
  /-- The fields so far. -/
  | object (fields : Entries String Json)
  /-- The fields so far, and the key whose value is being read. -/
  | field (fields : Entries String Json) (key : String)

/-- What may come next. -/
inductive Expecting where
  | value
  /-- The first item of a list, or its end. -/
  | firstItem
  /-- An item after a comma. -/
  | nextItem
  /-- A comma, or the end of the list. -/
  | itemEnd
  /-- The first key of an object, or its end. -/
  | firstKey
  /-- A key after a comma. -/
  | nextKey
  | colon
  /-- A comma, or the end of the object. -/
  | fieldEnd

/-- The step from an open list or object to the value being read in it. -/
def Frame.step? : Frame → Option Step
  | list items => some (.index items.length)
  | field _ key => some (.key key)
  | object _ => none

/-- The place of the value being read under these frames, the innermost first. -/
def placeOf (frames : List Frame) : Place := (frames.filterMap Frame.step?).reverse

/-- The state of reading: what may come next, or the finished value. -/
inductive Reading where
  | going (frames : List Frame) (next : Expecting)
  | done (value : Json)

namespace Reading

/-- A value is complete. -/
def complete (v : Json) : List Frame → Reading
  | [] => done v
  | .list items :: frames => going (.list (v :: items) :: frames) .itemEnd
  | .field fields key :: frames => going (.object (fields.insert key v) :: frames) .fieldEnd
  | .object fields :: frames => going (.object fields :: frames) .fieldEnd

/-- The innermost list or object is closed. -/
def close : List Frame → Reading
  | .list items :: frames => complete (.array items.reverse) frames
  | .object fields :: frames => complete (.object fields) frames
  | frames => going frames .value

/-- A token where a value must come. -/
def value (limit : Nat) (frames : List Frame) (t : Token) : Except ReadError Reading :=
  let fail (fault : SyntaxFault) : Except ReadError Reading :=
    .error ⟨placeOf frames, fault, t.peeked⟩
  match t.lexeme with
  | .scalar v => .ok (complete v frames)
  | .text s => .ok (complete (.text s) frames)
  | .openList =>
    if limit ≤ frames.length + 1 then fail .tooDeep else .ok (going (.list [] :: frames) .firstItem)
  | .openObject =>
    if limit ≤ frames.length + 1 then fail .tooDeep else .ok (going (.object [] :: frames) .firstKey)
  | .brokenScalar e | .brokenText e => .error ⟨placeOf frames, e⟩
  | .finish => fail .endInValue
  | _ => fail .expectedValue

/-- A token where a key must come. -/
def key (frames : List Frame) (t : Token) : Except ReadError Reading :=
  let place := placeOf frames ++ [.unknown]
  match t.lexeme, frames with
  | .text s, .object fields :: frames => .ok (going (.field fields s :: frames) .colon)
  | .brokenText e, _ => .error ⟨place, e⟩
  | _, _ => .error ⟨place, .keyNotString, t.peeked⟩

/-- One token. -/
def step (limit : Nat) (frames : List Frame) (next : Expecting) (t : Token) :
    Except ReadError Reading :=
  let outside := placeOf frames.tail
  match next, t.lexeme with
  | .value, _ => value limit frames t
  | .firstItem, .closeList => .ok (close frames)
  | .firstItem, .finish => .error ⟨outside, .endInList, t.peeked⟩
  | .firstItem, _ => value limit frames t
  | .nextItem, .closeList => .error ⟨outside, .trailingComma, t.peeked⟩
  | .nextItem, .finish => .error ⟨outside, .endInValue, t.peeked⟩
  | .nextItem, _ => value limit frames t
  | .itemEnd, .closeList => .ok (close frames)
  | .itemEnd, .comma => .ok (going frames .nextItem)
  | .itemEnd, .finish => .error ⟨outside, .endInList, t.peeked⟩
  | .itemEnd, _ => .error ⟨outside, .expectedListCommaOrEnd, t.peeked⟩
  | .firstKey, .closeObject => .ok (close frames)
  | .firstKey, .finish => .error ⟨placeOf frames ++ [.unknown], .endInObject, t.peeked⟩
  | .firstKey, _ => key frames t
  | .nextKey, .closeObject => .error ⟨placeOf frames ++ [.unknown], .trailingComma, t.peeked⟩
  | .nextKey, .finish => .error ⟨placeOf frames ++ [.unknown], .endInValue, t.peeked⟩
  | .nextKey, _ => key frames t
  | .colon, .colon => .ok (going frames .value)
  | .colon, .finish => .error ⟨outside, .endInObject, t.peeked⟩
  | .colon, _ => .error ⟨outside, .expectedColon, t.peeked⟩
  | .fieldEnd, .closeObject => .ok (close frames)
  | .fieldEnd, .comma => .ok (going frames .nextKey)
  | .fieldEnd, .finish => .error ⟨placeOf frames ++ [.unknown], .endInObject, t.peeked⟩
  | .fieldEnd, _ => .error ⟨placeOf frames ++ [.unknown], .expectedObjectCommaOrEnd, t.peeked⟩

/-- Reads tokens until a value is complete. -/
def run (limit : Nat) (frames : List Frame) (next : Expecting) : List Token → Except ReadError Json
  | [] => .error ⟨placeOf frames, .endInValue, 0⟩
  | t :: ts =>
    match step limit frames next t with
    | .error e => .error e
    | .ok (done v) => .ok v
    | .ok (going frames next) => run limit frames next ts

end Reading

/-- Lists and objects may be nested less deep than this. -/
def depthLimit : Nat := 128

/-- The first value of a text. -/
def read (limit : Nat) (source : String) : Except ReadError Json :=
  Reading.run limit [] .value (Token.scan source.toList)

end AssertionGen.Json
