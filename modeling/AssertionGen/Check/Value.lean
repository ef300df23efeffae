import AssertionGen.Decimal.Style
import AssertionGen.Text.Pieces
/-!
# Values under test

The values against which generated subjects can be tried without running Java: what a property can
hold, as data. Lists stand for lists, sets, bags and streams alike and keep their order; a map is a
list of entries, in which keys may repeat; an object has its fields by accessor name.
-/

namespace AssertionGen

/-- A value of the Java program. -/
inductive Value where
  | null
  | bool (value : Bool)
  | int (value : Int64)
  | char (value : Char)
  /-- A double by its bits. -/
  | float (bits : UInt64)
  | str (value : String)
  | array (items : List Value)
  | list (items : List Value)
  | map (entries : List (Value × Value))
  | optional (value : Option Value)
  | classRef (name : String) (supertypes : List String)
  | path (text : String)
  | enum (typeName constant : String)
  | object (typeName : String) (fields : List (String × Value))
  deriving Inhabited

namespace Value

/-- Whether this is null. -/
def isNull : Value → Bool
  | null => true
  | _ => false

/-- The first field of a name; only objects have fields. -/
def field? (name : String) : Value → Option Value
  | object _ fields => fields.lookup name
  | _ => none

/-- The elements of an array or list. -/
def elements? : Value → Option (List Value)
  | array vs | list vs => some vs
  | _ => none

/-! ## Text -/

/-- The part of a name after its last dot. -/
def lastPart (name : String) : String := ((Text.piecesOf '.' name).getLast?).getD name

mutual

/-- The text of a value in messages. -/
def text : Value → String
  | null => "null"
  | bool true => "true"
  | bool false => "false"
  | int n => toString n.toInt
  | char c => "'" ++ String.singleton c ++ "'"
  | float bits => Decimal.Style.plain.write bits
  | str s => "\"" ++ s ++ "\""
  | array vs | list vs => "[" ++ ", ".intercalate (texts vs) ++ "]"
  | map es => "\x7b" ++ ", ".intercalate (entryTexts es) ++ "\x7d"
  | optional none => "Optional.empty"
  | optional (some v) => "Optional[" ++ text v ++ "]"
  | classRef n _ => "class " ++ n
  | path p => p
  | enum _ c => c
  | object t fs => lastPart t ++ "\x7b" ++ ", ".intercalate (fieldTexts fs) ++ "\x7d"

/-- The texts of several values. -/
def texts : List Value → List String
  | [] => []
  | v :: vs => text v :: texts vs

/-- The texts of the entries of a map. -/
def entryTexts : List (Value × Value) → List String
  | [] => []
  | (k, v) :: es => (text k ++ "=" ++ text v) :: entryTexts es

/-- The texts of the fields of an object. -/
def fieldTexts : List (String × Value) → List String
  | [] => []
  | (n, v) :: fs => (n ++ "=" ++ text v) :: fieldTexts fs

end

end Value

end AssertionGen
