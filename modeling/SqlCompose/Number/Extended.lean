import SqlCompose.Number.Decimal

/-! Numbers with 64 significant bits, and the doubles that decimals become when they are
scaled in them. Every step of the scaling is rounded, so that the double may differ from
the nearest one. -/

namespace SqlCompose

/-- The number `significand * 2 ^ exponent`. -/
structure Extended where
  significand : Nat
  exponent : Int
deriving DecidableEq

namespace Extended

/-- The number of 64 significant bits nearest to `num / den`, ties to the even
significand. -/
def nearest (num den : Nat) : Extended :=
  let estimate : Int := (Nat.log2 num : Int) - Nat.log2 den - 64
  let place (q : Int) : Nat :=
    Binary64.roundQuotient (num <<< (-q).toNat) (den <<< q.toNat)
  let q := if place estimate < UInt64.size then estimate else estimate + 1
  ⟨place q, q⟩

/-- The rounded product. -/
def times (x y : Extended) : Extended :=
  let product := nearest (x.significand * y.significand) 1
  ⟨product.significand, product.exponent + x.exponent + y.exponent⟩

/-- The rounded product with `10 ^ e`. Hundreds of the exponent come first, then tens and
ones, and each power of ten is rounded too. -/
def scale (x : Extended) (e : Int) : Extended :=
  let power (n : Nat) : Extended :=
    if e < 0 then nearest 1 (Nat.pow 10 n) else nearest (Nat.pow 10 n) 1
  let repeated (count n : Nat) (x : Extended) : Extended :=
    Nat.repeat (·.times (power n)) count x
  repeated (e.natAbs % 10) 1 (repeated (e.natAbs / 10 % 10) 10 (repeated (e.natAbs / 100) 100 x))

/-- The double nearest to a number. -/
def toBinary64 (negative : Bool) (x : Extended) : Binary64 :=
  .nearest negative (x.significand <<< x.exponent.toNat) (1 <<< (-x.exponent).toNat)

end Extended

namespace Decimal

/-- The bound on digits to which another digit can be added in 64 bits. -/
def digitBound : Nat :=
  (UInt64.size - 10) / 10

/-- The number `digits * 10 ^ exponent` without the digits behind those that reach the
bound. -/
def bounded (digits : Nat) (exponent : Int) : Decimal :=
  if digits / 10 < digitBound then ⟨digits, exponent⟩ else bounded (digits / 10) (exponent + 1)
termination_by digits
decreasing_by simp only [digitBound, UInt64.size] at *; omega

/-- Moves at most `fuel` powers of ten between the exponent and the digits, so that the
exponent comes closer to zero and the digits fit in 64 bits. -/
def settle : (fuel : Nat) → Decimal → Decimal
  | 0, d => d
  | fuel + 1, d =>
    if 0 < d.exponent ∧ d.digits < (UInt64.size - 1) / 10 then
      settle fuel ⟨10 * d.digits, d.exponent - 1⟩
    else if d.exponent < 0 ∧ d.digits % 10 = 0 then
      settle fuel ⟨d.digits / 10, d.exponent + 1⟩
    else d

/-- A double near a decimal whose digits fit in 64 bits. Powers of ten further out than the
bounds lead to infinity or to zero just as well. -/
def extendedBinary64 (negative : Bool) (d : Decimal) : Binary64 :=
  if d.digits = 0 then .nearest negative 0 1
  else
    let settled := settle 20 d
    let e := max (-1000) (min 1000 settled.exponent)
    ((⟨settled.digits, 0⟩ : Extended).scale e).toBinary64 negative

end Decimal

end SqlCompose
