import AssertionGen.Decimal.Shortest
/-!
# How doubles are written

A `Style` fixes how a double is written: up to which exponents positionally, whether a whole
number ends in `.0`, and how ties among shortest decimals go. `plain` never uses an exponent;
`scientific` keeps a decimal point or an exponent in every number, as number texts inside JSON do.
-/

namespace AssertionGen.Decimal

/-- How doubles are written. -/
structure Style where
  ties : Ties
  /-- The range of leading exponents that are written positionally, `none` for all. -/
  positional : Option (Int × Int)
  /-- Whether a whole number is followed by a point and a zero. -/
  point : Bool
  deriving Repr

/-- Shortest digits in positional form, a tie upward, no point after a whole number. -/
def Style.plain : Style := ⟨.up, none, false⟩

/-- Positional from `10 ^ -5` to below `10 ^ 16`, else with an exponent; a point after every whole
number. -/
def Style.scientific : Style := ⟨.toEven, some (-5, 15), true⟩

/-- The digits of a natural number. -/
def digitChars (n : Nat) : List Char := (toString n).toList

/-- Digits with the point at its place. -/
def positionalChars (point : Bool) (s : Scaled) : List Char :=
  let ds := digitChars s.digits
  if 0 ≤ s.exponent then
    ds ++ List.replicate s.exponent.toNat '0' ++ (if point then ['.', '0'] else [])
  else
    let places := (-s.exponent).toNat
    if places < ds.length then ds.take (ds.length - places) ++ '.' :: ds.drop (ds.length - places)
    else '0' :: '.' :: List.replicate (places - ds.length) '0' ++ ds

/-- One digit before the point, then the exponent with its sign. -/
def exponentChars (s : Scaled) : List Char :=
  let ds := digitChars s.digits
  let leading : Int := s.exponent + ds.length - 1
  let mantissa :=
    match ds with
    | [] => []
    | [d] => [d]
    | d :: more => d :: '.' :: more
  mantissa ++ 'e' :: (if leading < 0 then '-' else '+') :: digitChars leading.natAbs

/-- A positive finite double. -/
def Style.finiteChars (style : Style) (m : Nat) (q : Int) : List Char :=
  let s := shortest style.ties m q
  let leading : Int := s.exponent + (digitChars s.digits).length - 1
  match style.positional with
  | none => positionalChars style.point s
  | some (low, high) =>
    if low ≤ leading ∧ leading ≤ high then positionalChars style.point s else exponentChars s

/-- The text of a double. -/
def Style.write (style : Style) (bits : UInt64) : String :=
  let signed (negative : Bool) (cs : List Char) : String :=
    String.ofList (if negative then '-' :: cs else cs)
  match Binary.ofBits bits with
  | .notANumber => "NaN"
  | .infinite negative => signed negative "inf".toList
  | .zero negative => signed negative (if style.point then "0.0".toList else "0".toList)
  | .finite negative m q => signed negative (style.finiteChars m q)

end AssertionGen.Decimal
