/-! Floating-point numbers as their words. Every question about a number is answered by
integer arithmetic on the fields of its word. -/

namespace SqlCompose

/-- A double-precision number, given by its 64-bit word. -/
structure Binary64 where
  bits : UInt64
deriving DecidableEq

/-- A single-precision number, given by its 32-bit word. -/
structure Binary32 where
  bits : UInt32
deriving DecidableEq

namespace Binary64

def isNegative (x : Binary64) : Bool :=
  1 <<< 63 ≤ x.bits.toNat

def exponentField (x : Binary64) : Nat :=
  x.bits.toNat >>> 52 % 2048

def fractionField (x : Binary64) : Nat :=
  x.bits.toNat % 1 <<< 52

def isNaN (x : Binary64) : Bool :=
  x.exponentField == 2047 && x.fractionField != 0

def isInfinite (x : Binary64) : Bool :=
  x.exponentField == 2047 && x.fractionField == 0

def isZero (x : Binary64) : Bool :=
  x.exponentField == 0 && x.fractionField == 0

/-- The magnitude of a finite number is `significand * 2 ^ exponent`. -/
def significand (x : Binary64) : Nat :=
  if x.exponentField = 0 then x.fractionField else 1 <<< 52 + x.fractionField

def exponent (x : Binary64) : Int :=
  if x.exponentField = 0 then -1074 else (x.exponentField : Int) - 1075

/-- Equality as numbers: not-a-number equals nothing, and both zeros are equal. -/
def same (x y : Binary64) : Bool :=
  !x.isNaN && !y.isNaN && (x.bits == y.bits || x.isZero && y.isZero)

/-- The value in units of `2 ^ (-1074)`, of which every finite number is a multiple. An
infinity lies beyond every finite number. -/
def scaled (x : Binary64) : Int :=
  let magnitude : Nat := x.significand <<< (x.exponent + 1074).toNat
  if x.isNegative then -magnitude else magnitude

def negativeInfinity : Binary64 :=
  ⟨0xFFF0000000000000⟩

/-- An integer in the same units as `scaled`. -/
def scaledInt (n : Int) : Int :=
  n * (1 <<< 1074 : Nat)

end Binary64

/-- The double-precision number of the same value. -/
def Binary32.widen (x : Binary32) : Binary64 :=
  let word := x.bits.toNat
  let sign := word >>> 31 <<< 63
  let exponent := word >>> 23 % 256
  let fraction := word % 1 <<< 23
  let magnitude :=
    if exponent = 255 then 2047 <<< 52 + fraction <<< 29
    else if exponent = 0 then
      if fraction = 0 then 0
      else
        let top := Nat.log2 fraction
        (top + 874) <<< 52 + (fraction - 1 <<< top) <<< (52 - top)
    else (exponent + 896) <<< 52 + fraction <<< 29
  ⟨UInt64.ofNat (sign + magnitude)⟩

end SqlCompose
