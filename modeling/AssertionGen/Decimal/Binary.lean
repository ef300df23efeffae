/-!
# Binary floating-point numbers as exact fractions

A double is given by its 64 bits. `Binary.ofBits` splits them into what they stand for: a signed
zero, an infinity, a number that is not one, or a sign with a positive significand `m` and a binary
exponent `q`, for `m · 2 ^ q`. Everything is exact arithmetic on naturals and integers.
-/

namespace AssertionGen.Decimal

/-- A power of two. -/
def twoTo (n : Nat) : Nat := Nat.pow 2 n

/-- A power of ten. -/
def tenTo (n : Nat) : Nat := Nat.pow 10 n

/-- What the bits of a double stand for. -/
inductive Binary where
  | notANumber
  | infinite (negative : Bool)
  | zero (negative : Bool)
  /-- A finite number `significand · 2 ^ exponent`, up to its sign. -/
  | finite (negative : Bool) (significand : Nat) (exponent : Int)
  deriving DecidableEq, Repr

namespace Binary

/-- The sign bit. -/
def negativeBit (bits : UInt64) : Bool := bits >>> 63 == 1

/-- The biased exponent, eleven bits. -/
def exponentField (bits : UInt64) : Nat := ((bits >>> 52) &&& 0x7ff).toNat

/-- The stored part of the significand, fifty-two bits. -/
def fractionField (bits : UInt64) : Nat := (bits &&& 0xfffffffffffff).toNat

/-- The number that the bits stand for. -/
def ofBits (bits : UInt64) : Binary :=
  let negative := negativeBit bits
  let e := exponentField bits
  let f := fractionField bits
  if e = 0x7ff then if f = 0 then infinite negative else notANumber
  else if e = 0 then if f = 0 then zero negative else finite negative f (-1074)
  else finite negative (twoTo 52 + f) ((e : Int) - 1075)

/-- Whether the bits stand for no number. -/
def isNaN (bits : UInt64) : Bool := ofBits bits = notANumber

end Binary

end AssertionGen.Decimal
