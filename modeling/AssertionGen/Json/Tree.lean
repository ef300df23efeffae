import AssertionGen.Decimal.Style
import AssertionGen.Text.Escaped
/-!
# JSON trees

A `Json` is a value of a JSON document. The fields of an object keep their order. A number is a
natural number, a negative integer, or a double by its bits: integers that fit 64 bits stay exact,
all others are doubles.
-/

namespace AssertionGen

/-- A number of a document. -/
inductive Json.Number where
  | natural (value : Nat)
  /-- The integer `-magnitude`; the magnitude is positive. -/
  | negative (magnitude : Nat)
  | double (bits : UInt64)
  deriving DecidableEq, Repr, Inhabited

/-- A JSON value; objects keep the order of their fields. -/
inductive Json where
  | null
  | bool (value : Bool)
  | number (value : Json.Number)
  | text (value : String)
  | array (items : List Json)
  | object (fields : List (String × Json))
  deriving Repr, Inhabited

namespace Json

/-- A number as JSON writes it. -/
def Number.write : Number → String
  | natural n => toString n
  | negative n => "-" ++ toString n
  | double bits => Decimal.Style.scientific.write bits

/-- The value of a field, the first of that name. -/
def field? (name : String) : Json → Option Json
  | object fields => fields.lookup name
  | _ => none

/-- What a message says it found in place of something else. -/
def describe : Json → String
  | null => "null"
  | bool true => "boolean `true`"
  | bool false => "boolean `false`"
  | number (.double bits) => "floating point `" ++ Decimal.Style.scientific.write bits ++ "`"
  | number n => "integer `" ++ n.write ++ "`"
  | text s => "string " ++ Text.quoted s
  | array _ => "sequence"
  | object _ => "map"

end Json

end AssertionGen
