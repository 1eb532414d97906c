import SqlCompose.Number.Binary64

/-! Rounding to the nearest double: of quotients of whole numbers, and of the products and
quotients of doubles, which are exact before they are rounded. -/

namespace SqlCompose

namespace Binary64

/-- The quotient rounded to the nearest integer, halves to the even one. -/
def roundQuotient (num den : Nat) : Nat :=
  let floor := num / den
  let rest := 2 * (num % den)
  if rest < den then floor
  else if den < rest then floor + 1
  else floor + floor % 2

/-- The double nearest to `num / den`, ties to the even significand; beyond the largest
double it is infinite. -/
def nearest (negative : Bool) (num den : Nat) : Binary64 :=
  let sign : Nat := if negative then 1 <<< 63 else 0
  if num = 0 then ⟨UInt64.ofNat sign⟩
  else
    let estimate : Int := (Nat.log2 num : Int) - Nat.log2 den - 53
    let place (q : Int) : Nat :=
      roundQuotient (num <<< (-q).toNat) (den <<< q.toNat)
    let q := max (-1074) (if place estimate < 1 <<< 53 then estimate else estimate + 1)
    let word := (q + 1074).toNat <<< 52 + place q
    ⟨UInt64.ofNat (sign + min word (2047 <<< 52))⟩

/-- The magnitude of a finite number is `numerator / denominator`. -/
def numerator (x : Binary64) : Nat :=
  x.significand <<< x.exponent.toNat

def denominator (x : Binary64) : Nat :=
  1 <<< (-x.exponent).toNat

/-- The rounded product of finite numbers. -/
def times (x y : Binary64) : Binary64 :=
  nearest (x.isNegative != y.isNegative) (x.numerator * y.numerator)
    (x.denominator * y.denominator)

/-- The rounded quotient of finite numbers. -/
def dividedBy (x y : Binary64) : Binary64 :=
  nearest (x.isNegative != y.isNegative) (x.numerator * y.denominator)
    (x.denominator * y.numerator)

/-- The double nearest to a power of ten. -/
def powerOfTen (n : Nat) : Binary64 :=
  nearest false (Nat.pow 10 n) 1

end Binary64

end SqlCompose
