import AssertionGen.Decimal.Binary
/-!
# The shortest decimal that reads back

Among all decimals that round to a given double, `shortest` takes one with the fewest digits, and of
those the nearest to the double; if two are equally near, `ties` decides. The search is exact: for
one, two, … seventeen digits it tests the two neighbours of the number on that decimal grid, and
stops at the first grid on which one of them rounds to the number.
-/

namespace AssertionGen.Decimal

/-- Which of two equally near decimals is taken. -/
inductive Ties where
  | up
  | toEven
  deriving DecidableEq, Repr

/-- The decimal `digits · 10 ^ exponent`. -/
structure Scaled where
  digits : Nat
  exponent : Int
  deriving DecidableEq, Repr

/-- A positive double and the ends of the interval of reals that round to it, in units of
`scale · numerator / denominator`; the ends count when `closed`. -/
structure Target where
  value : Nat
  below : Nat
  above : Nat
  closed : Bool
  numerator : Nat
  denominator : Nat

/-- The double `m · 2 ^ q` in units of `2 ^ (q - 2)`. Below a power of two the neighbours are half as
far, except at the smallest exponent. -/
def Target.of (m : Nat) (q : Int) : Target :=
  { value := 4 * m
    below := if m = twoTo 52 ∧ q ≠ -1074 then 4 * m - 1 else 4 * m - 2
    above := 4 * m + 2
    closed := m % 2 = 0
    numerator := twoTo (q - 2).toNat
    denominator := twoTo (2 - q).toNat }

namespace Target

/-- Whether `c · 10 ^ p` rounds to the number. -/
def holds (t : Target) (c : Nat) (p : Int) : Bool :=
  let x := c * tenTo p.toNat * t.denominator
  let low := t.below * t.numerator * tenTo (-p).toNat
  let high := t.above * t.numerator * tenTo (-p).toNat
  if t.closed then low ≤ x && x ≤ high else low < x && x < high

/-- The integer part of the number divided by `10 ^ p`. -/
def quotient (t : Target) (p : Int) : Nat :=
  (t.value * t.numerator * tenTo (-p).toNat) / (tenTo p.toNat * t.denominator)

/-- How `c + 1/2` compares with the number divided by `10 ^ p`. -/
def compareHalf (t : Target) (c : Nat) (p : Int) : Ordering :=
  compare ((2 * c + 1) * tenTo p.toNat * t.denominator) (2 * t.value * t.numerator * tenTo (-p).toNat)

/-- The neighbour on the grid of step `10 ^ p` that rounds to the number, the nearer if both do. -/
def neighbour? (t : Target) (ties : Ties) (p : Int) : Option Nat :=
  let c := t.quotient p
  match t.holds c p && c != 0, t.holds (c + 1) p with
  | false, false => none
  | true, false => some c
  | false, true => some (c + 1)
  | true, true =>
    match t.compareHalf c p with
    | .gt => some c
    | .lt => some (c + 1)
    | .eq =>
      match ties with
      | .up => some (c + 1)
      | .toEven => some (if c % 2 = 0 then c else c + 1)

/-- The exponent of the leading digit: the greatest `k` with `10 ^ k` not above the number. -/
def leading (t : Target) : Int :=
  if t.quotient 0 ≠ 0 then ((toString (t.quotient 0)).length : Int) - 1
  else
    let scaled := (tenTo 330 * t.value * t.numerator) / t.denominator
    ((toString scaled).length : Int) - 331

end Target

/-- Searches the grids with more and more digits. -/
def shortestFrom (t : Target) (ties : Ties) (leading : Int) : Nat → Nat → Scaled
  | 0, _ => ⟨t.quotient (leading - 16), leading - 16⟩
  | fuel + 1, digits =>
    let p := leading - digits + 1
    match t.neighbour? ties p with
    | some c => ⟨c, p⟩
    | none => shortestFrom t ties leading fuel (digits + 1)

/-- Drops trailing zeros. -/
def trimZeros (fuel : Nat) (s : Scaled) : Scaled :=
  match fuel with
  | 0 => s
  | fuel + 1 =>
    if s.digits ≠ 0 ∧ s.digits % 10 = 0 then trimZeros fuel ⟨s.digits / 10, s.exponent + 1⟩ else s

/-- The shortest decimal that reads back as `m · 2 ^ q`; seventeen digits always suffice. -/
def shortest (ties : Ties) (m : Nat) (q : Int) : Scaled :=
  let t := Target.of m q
  trimZeros 18 (shortestFrom t ties t.leading 17 1)

end AssertionGen.Decimal
