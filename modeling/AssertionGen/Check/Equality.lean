import AssertionGen.Check.Value
/-!
# Equality of values

Values are equal as boxed Java objects are: doubles by their bits, with all that are no number taken as
one, so that zero and negative zero differ; lists and arrays element by element; two maps if they
have as many entries and each entry of the first has an equal key and value in some entry of the
second; objects by type and by their fields in order.
-/

namespace AssertionGen.Value

/-- The bits of a double, the same for everything that is no number. -/
def canonicalBits (bits : UInt64) : UInt64 :=
  if Decimal.Binary.isNaN bits then 0x7ff8000000000000 else bits

mutual

/-- Equality of values. -/
def eqv : Value → Value → Bool
  | null, null => true
  | bool a, bool b => a == b
  | int a, int b => a == b
  | char a, char b => a == b
  | float a, float b => canonicalBits a == canonicalBits b
  | str a, str b => a == b
  | array as, array bs => eqvList as bs
  | list as, list bs => eqvList as bs
  | map es, map fs => es.length == fs.length && eqvEntries es fs
  | optional none, optional none => true
  | optional (some a), optional (some b) => eqv a b
  | classRef n ss, classRef m ts => n == m && ss == ts
  | path a, path b => a == b
  | enum t c, enum u d => t == u && c == d
  | object t fs, object u gs => t == u && eqvFields fs gs
  | _, _ => false

/-- Equality element by element. -/
def eqvList : List Value → List Value → Bool
  | [], [] => true
  | a :: as, b :: bs => eqv a b && eqvList as bs
  | _, _ => false

/-- Whether each of the entries has its equal among those of the other map. -/
def eqvEntries : List (Value × Value) → List (Value × Value) → Bool
  | [], _ => true
  | (k, v) :: es, fs => (fs.any fun f => eqv k f.1 && eqv v f.2) && eqvEntries es fs

/-- Equality of fields in order, names included. -/
def eqvFields : List (String × Value) → List (String × Value) → Bool
  | [], [] => true
  | (n, v) :: fs, (m, w) :: gs => n == m && eqv v w && eqvFields fs gs
  | _, _ => false

end

/-! ## Counting up to equality -/

/-- How many of the values equal one. -/
def countEqv (v : Value) (vs : List Value) : Nat := vs.countP fun w => w.eqv v

/-- The values without the first that equals one; nothing if none does. -/
def removeFirst? (v : Value) : List Value → Option (List Value)
  | [] => none
  | w :: ws => if w.eqv v then some ws else (removeFirst? v ws).map (w :: ·)

/-- The expected values that are missing among the actual ones, and the actual ones that are not
expected, as often as they are. -/
def difference (actual : List Value) : List Value → List Value × List Value
  | [] => ([], actual)
  | e :: es =>
    match removeFirst? e actual with
    | some rest => difference rest es
    | none =>
      let d := difference actual es
      (e :: d.1, d.2)

/-- The excluded values that equal some actual one, those that equal an earlier hit left out. -/
def hits (actual : List Value) (found : List Value) : List Value → List Value
  | [] => found
  | e :: es =>
    hits actual
      (if (actual.any fun a => a.eqv e) && !(found.any fun u => u.eqv e) then found ++ [e] else found)
      es

end AssertionGen.Value
