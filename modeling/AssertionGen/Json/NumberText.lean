import AssertionGen.Json.Fault
import AssertionGen.Json.Tree
/-!
# Number texts

Reading a JSON number off the front of a text. Digits are gathered into one 64-bit natural for as
long as it can hold them, the rest only count as powers of ten. Without point and exponent an
integer that fits stays exact. Otherwise the double is the gathered natural, rounded, then
multiplied or divided by a power of ten that is itself rounded.
-/

namespace AssertionGen.Json

/-- The outcome of reading something off a text: what was read or what is wrong, what follows, and the
number of bytes read. -/
structure Scan (α : Type) where
  result : Except SyntaxError α
  rest : List Char
  offset : Nat

/-- A scan that failed. -/
def Scan.fail {α : Type} (fault : SyntaxFault) (offset : Nat) : Scan α :=
  ⟨.error ⟨fault, offset⟩, [], offset⟩

namespace NumberText

/-- The value of a digit. -/
def digit (c : Char) : Nat := c.toNat - '0'.toNat

/-- Digits gathered into a 64-bit natural, those that did fit, and those that did not. -/
structure Gathered where
  significand : Nat
  used : Nat
  dropped : Nat

/-- Gathers digits; from the first that does not fit on, all are dropped. -/
def gather (g : Gathered) : List Char → Gathered
  | [] => g
  | c :: cs =>
    if g.dropped = 0 ∧ g.significand * 10 + digit c < Decimal.twoTo 64 then
      gather ⟨g.significand * 10 + digit c, g.used + 1, 0⟩ cs
    else gather { g with dropped := g.dropped + 1 } cs

/-- A power of ten, rounded to a double. -/
def powerOfTen (n : Nat) : Float := Float.ofScientific 1 false n

/-- The magnitude `significand · 10 ^ exponent` as a double, `none` beyond the finite ones. -/
def magnitude? (significand : Nat) (exponent : Int) : Option Float :=
  let f := significand.toUInt64.toFloat
  if significand = 0 then some f
  else if 0 ≤ exponent then
    if 308 < exponent then none
    else
      let x := f * powerOfTen exponent.toNat
      if x.isInf then none else some x
  else
    let n := (-exponent).toNat
    if n ≤ 308 then some (f / powerOfTen n)
    else if n ≤ 616 then some (f / powerOfTen 308 / powerOfTen (n - 308))
    else some 0

/-- A number with a point, an exponent, or too many digits. -/
def double (negative : Bool) (significand : Nat) (exponent : Int) (rest : List Char) (offset : Nat) :
    Scan Number :=
  match magnitude? significand exponent with
  | none => .fail .numberOutOfRange offset
  | some x => ⟨.ok (.double (if negative then -x else x).toBits), rest, offset⟩

/-- An exponent may be this large, and no sum of exponents gets larger. -/
def exponentLimit : Nat := Decimal.twoTo 31 - 1

/-- The digits of an exponent that are read before it gets too large, and whether it does. -/
def exponentDigits (value read : Nat) : List Char → Nat × Nat × Bool
  | [] => (value, read, false)
  | c :: cs =>
    if value * 10 + digit c ≤ exponentLimit then exponentDigits (value * 10 + digit c) (read + 1) cs
    else (value, read + 1, true)

/-- What follows the letter of the exponent. -/
def exponent (negative : Bool) (significand : Nat) (start : Int) (cs : List Char) (offset : Nat) :
    Scan Number :=
  let (down, cs, offset) :=
    match cs with
    | '+' :: r => (false, r, offset + 1)
    | '-' :: r => (true, r, offset + 1)
    | r => (false, r, offset)
  match cs with
  | [] => .fail .endInValue offset
  | c :: _ =>
    if !c.isDigit then .fail .invalidNumber (offset + 1)
    else
      let digits := cs.takeWhile Char.isDigit
      let rest := cs.drop digits.length
      match exponentDigits 0 0 digits with
      | (_, read, true) =>
        if significand ≠ 0 ∧ down = false then .fail .numberOutOfRange (offset + read)
        else double negative 0 0 rest (offset + digits.length)
      | (value, _, false) =>
        let e : Int := if down then start - value else start + value
        double negative significand (max (-(Decimal.twoTo 31 : Int)) (min e exponentLimit)) rest
          (offset + digits.length)

/-- An exponent if one follows, else the number as it is. -/
def optionalExponent (negative : Bool) (significand : Nat) (start : Int) (cs : List Char)
    (offset : Nat) : Scan Number :=
  match cs with
  | 'e' :: r | 'E' :: r => exponent negative significand start r (offset + 1)
  | r => double negative significand start r offset

/-- What follows the point. -/
def fraction (negative : Bool) (whole : Nat) (start : Int) (cs : List Char) (offset : Nat) :
    Scan Number :=
  let digits := cs.takeWhile Char.isDigit
  let rest := cs.drop digits.length
  if digits = [] then
    if rest = [] then .fail .endInValue offset else .fail .invalidNumber (offset + 1)
  else
    let g := gather ⟨whole, 0, 0⟩ digits
    optionalExponent negative g.significand (start - g.used) rest (offset + digits.length)

/-- An integer that fits, or the double it is. -/
def whole (negative : Bool) (n : Nat) (rest : List Char) (offset : Nat) : Scan Number :=
  if !negative then ⟨.ok (.natural n), rest, offset⟩
  else if 0 < n ∧ n ≤ Decimal.twoTo 63 then ⟨.ok (.negative n), rest, offset⟩
  else double true n 0 rest offset

/-- What follows the digits before the point. -/
def afterWhole (negative : Bool) (g : Gathered) (rest : List Char) (offset : Nat) : Scan Number :=
  match rest with
  | '.' :: r => fraction negative g.significand g.dropped r (offset + 1)
  | 'e' :: r | 'E' :: r => exponent negative g.significand g.dropped r (offset + 1)
  | r =>
    if g.dropped = 0 then whole negative g.significand r offset
    else double negative g.significand g.dropped r offset

/-- A number without its sign. -/
def unsigned (negative : Bool) (cs : List Char) (offset : Nat) : Scan Number :=
  match cs with
  | [] => .fail .endInValue offset
  | '0' :: rest =>
    match rest with
    | c :: _ => if c.isDigit then .fail .invalidNumber (offset + 2)
      else afterWhole negative ⟨0, 1, 0⟩ rest (offset + 1)
    | [] => afterWhole negative ⟨0, 1, 0⟩ [] (offset + 1)
  | c :: _ =>
    if !c.isDigit then .fail .invalidNumber (offset + 1)
    else
      let digits := cs.takeWhile Char.isDigit
      afterWhole negative (gather ⟨0, 0, 0⟩ digits) (cs.drop digits.length) (offset + digits.length)

/-- A number, with or without a minus sign. -/
def scan (cs : List Char) (offset : Nat) : Scan Number :=
  match cs with
  | '-' :: rest => unsigned true rest (offset + 1)
  | _ => unsigned false cs offset

end NumberText

end AssertionGen.Json
