import SqlCompose.Number.Extended

/-! Numbers as they are written in text: a sign, digits with or without a point, and a
power of ten. -/

namespace SqlCompose

/-- The number `digits * 10 ^ exponent` with its sign. It is `whole` if it was written with
neither point nor exponent. -/
structure Numeral where
  negative : Bool
  digits : Nat
  exponent : Int
  whole : Bool
deriving DecidableEq

namespace Numeral

def ofDigits (ds : List Char) : Nat :=
  ds.foldl (fun n d => 10 * n + (d.toNat - '0'.toNat)) 0

/-- Splits off a sign. -/
def signOf : List Char → Bool × List Char
  | '-' :: rest => (true, rest)
  | '+' :: rest => (false, rest)
  | rest => (false, rest)

/-- Reads the power of ten that ends a number, after its `e`. -/
def readExponent? (s : List Char) : Option Int :=
  let (negative, ds) := signOf s
  if ds.isEmpty || !ds.all Char.isDigit then none
  else some (if negative then -ofDigits ds else ofDigits ds)

/-- Reads a number that takes up the whole text. It needs a digit before or after the
point. -/
def read? (s : List Char) : Option Numeral :=
  let (negative, s) := signOf s
  let (before, s) := (s.takeWhile Char.isDigit, s.dropWhile Char.isDigit)
  let (hasPoint, after, s) :=
    match s with
    | '.' :: rest => (true, rest.takeWhile Char.isDigit, rest.dropWhile Char.isDigit)
    | _ => (false, [], s)
  if (before ++ after).isEmpty then none
  else
    let digits := ofDigits (before ++ after)
    match s with
    | [] => some ⟨negative, digits, -after.length, !hasPoint⟩
    | 'e' :: rest | 'E' :: rest =>
      (readExponent? rest).map fun e => ⟨negative, digits, e - after.length, false⟩
    | _ => none

/-- The signed value of the digits. -/
def signedDigits (n : Numeral) : Int :=
  if n.negative then -n.digits else n.digits

/-- A double near the number, as the leading digits are scaled with 64 significant bits. -/
def extendedBinary64 (n : Numeral) : Binary64 :=
  (Decimal.bounded n.digits n.exponent).extendedBinary64 n.negative

/-- A double near the number, as the leading digits are scaled in rounded steps. -/
def scaledBinary64 (n : Numeral) : Binary64 :=
  (Decimal.leading n.digits n.exponent).scaledBinary64 n.negative

end Numeral

end SqlCompose
