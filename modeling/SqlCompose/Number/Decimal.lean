import SqlCompose.Number.Rounding

/-! Decimal numbers: the shortest one that stands for a given double, which is found by
exact integer arithmetic, and a double near a given one. -/

namespace SqlCompose

/-- The number `digits * 10 ^ exponent`. -/
structure Decimal where
  digits : Nat
  exponent : Int
deriving DecidableEq

/-- Where a value halfway between two candidates goes. -/
inductive Tie where
  | up
  | even
deriving DecidableEq

namespace Decimal

/-- The positive double `significand * 2 ^ exponent` with the reals that round to it, all
in quarters of its last place. The gap below a power of two is half as wide, and the
ends belong to the interval iff the significand is even. -/
structure Neighborhood where
  low : Nat
  value : Nat
  high : Nat
  closed : Bool
  exponent : Int

def Neighborhood.ofSignificand (m : Nat) (q : Int) : Neighborhood :=
  { low := 4 * m - if m = 1 <<< 52 ∧ -1074 < q then 1 else 2
    value := 4 * m
    high := 4 * m + 2
    closed := m % 2 == 0
    exponent := q - 2 }

/-- The point of the decimal grid `10 ^ e` that stands for the value, if the grid has one
in the interval: the nearer of the two points around the value. -/
def Neighborhood.onGrid? (n : Neighborhood) (tie : Tie) (e : Int) : Option Decimal :=
  let unit := Nat.pow 10 e.toNat <<< (-n.exponent).toNat
  let scale := Nat.pow 10 (-e).toNat <<< n.exponent.toNat
  let inside (c : Nat) : Bool :=
    if n.closed then n.low * scale ≤ c * unit && c * unit ≤ n.high * scale
    else n.low * scale < c * unit && c * unit < n.high * scale
  let floor := n.value * scale / unit
  match inside floor, inside (floor + 1) with
  | false, false => none
  | true, false => some ⟨floor, e⟩
  | false, true => some ⟨floor + 1, e⟩
  | true, true =>
    let twice := 2 * (n.value * scale)
    let middle := (2 * floor + 1) * unit
    if twice < middle then some ⟨floor, e⟩
    else if middle < twice then some ⟨floor + 1, e⟩
    else if tie = .even ∧ floor % 2 = 0 then some ⟨floor, e⟩
    else some ⟨floor + 1, e⟩

/-- The decimal with the fewest digits that reads back as the positive double
`m * 2 ^ q`, and the nearest of those. It lies on the coarsest grid that has a point in
the interval; grids between `10 ^ 309` and `10 ^ (-324)` cover all doubles. -/
def shortest (tie : Tie) (m : Nat) (q : Int) : Decimal :=
  let n := Neighborhood.ofSignificand m q
  ((List.range 634).findSome? fun i : Nat => n.onGrid? tie (309 - i)).getD ⟨0, 0⟩

/-- The number `digits * 10 ^ exponent` without the digits that 64 bits do not hold. -/
def leading (digits : Nat) (exponent : Int) : Decimal :=
  if digits < UInt64.size then ⟨digits, exponent⟩ else leading (digits / 10) (exponent + 1)
termination_by digits
decreasing_by simp only [UInt64.size] at *; omega

/-- A double near a decimal, found in steps that are rounded one by one: the digits, a
power of ten, and their product or quotient. Powers above `10 ^ 308` are divided by in two
parts. -/
def scaledBinary64 (negative : Bool) (d : Decimal) : Binary64 :=
  let x := Binary64.nearest negative d.digits 1
  let lowered (n : Int) (x : Binary64) : Binary64 :=
    x.dividedBy (.powerOfTen (min 308 n.toNat))
  if 0 ≤ d.exponent then x.times (.powerOfTen (min 309 d.exponent.toNat))
  else if -308 ≤ d.exponent then lowered (-d.exponent) x
  else lowered (-d.exponent - 308) (lowered 308 x)

end Decimal

end SqlCompose
