import SqlCompose.Number.Decimal

/-! How floating-point numbers are written: which of them stand in positional form, and
what marks a number that happens to be whole. The digits are always the shortest. -/

namespace SqlCompose

/-- The choices of one number format. A number has its point after `p` digits if it is
`0.d₁d₂… * 10 ^ p`; the bounds say for which `p` the positional form is used. Elsewhere a
power of ten follows, which has `powerSign` before it unless it is negative. -/
structure NumberLayout where
  tie : Tie
  leastPoint : Option Int
  greatestPoint : Option Int
  wholeMark : String
  powerSign : String

namespace NumberLayout

def isPositional (l : NumberLayout) (point : Int) : Bool :=
  l.leastPoint.all (· ≤ point) && l.greatestPoint.all (point ≤ ·)

def zeros (n : Int) : String :=
  String.ofList (List.replicate n.toNat '0')

/-- Digits with the point among, before or after them. -/
def positional (l : NumberLayout) (digits : List Char) (point : Int) : String :=
  if point ≤ 0 then "0." ++ zeros (-point) ++ String.ofList digits
  else if digits.length ≤ point then
    String.ofList digits ++ zeros (point - digits.length) ++ l.wholeMark
  else
    String.ofList (digits.take point.toNat) ++ "." ++ String.ofList (digits.drop point.toNat)

/-- One digit before the point, and the power of ten after an `e`. -/
def scientific (l : NumberLayout) (digits : List Char) (point : Int) : String :=
  let mantissa :=
    match digits with
    | first :: second :: rest => String.ofList (first :: '.' :: second :: rest)
    | _ => String.ofList digits
  mantissa ++ "e" ++ (if point < 1 then "" else l.powerSign) ++ toString (point - 1)

def decimal (l : NumberLayout) (d : Decimal) : String :=
  let digits := Nat.toDigits 10 d.digits
  let point := digits.length + d.exponent
  if l.isPositional point then l.positional digits point else l.scientific digits point

/-- The text of a number, with a sign for every negative one, zero included. -/
def write (l : NumberLayout) (x : Binary64) : String :=
  if x.isNaN then "NaN"
  else
    let magnitude :=
      if x.isInfinite then "inf"
      else if x.isZero then "0" ++ l.wholeMark
      else l.decimal (Decimal.shortest l.tie x.significand x.exponent)
    if x.isNegative then "-" ++ magnitude else magnitude

/-- Inspections write magnitudes from `0.0001` to below `10 ^ 16` positionally and mark
whole numbers. -/
def inspected : NumberLayout :=
  ⟨.up, some (-3), some 16, ".0", ""⟩

/-- Plain SQL text never uses the scientific form and does not mark whole numbers. -/
def plain : NumberLayout :=
  ⟨.up, none, none, "", ""⟩

/-- JSON text reaches one place further below one, halves go to the even digit, and
positive powers have a sign. -/
def json : NumberLayout :=
  ⟨.even, some (-4), some 16, ".0", "+"⟩

end NumberLayout

end SqlCompose
