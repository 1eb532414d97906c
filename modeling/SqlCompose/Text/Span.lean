/-! Sets of code points given by evenly spaced spans, the form in which the tables of
character properties are kept. -/

namespace SqlCompose.Text

/-- The code points `first`, `first + step`, and so on up to `last`. -/
structure Span where
  first : Nat
  last : Nat
  step : Nat

def Span.contains (s : Span) (n : Nat) : Bool :=
  s.first ≤ n && n ≤ s.last && (n - s.first) % s.step == 0

/-- Membership in a table of spans. -/
def inSpans (table : List Span) (c : Char) : Bool :=
  table.any fun s => s.contains c.toNat

/-- A span of characters that all map to the character at the same distance. -/
structure Shift where
  span : Span
  distance : Int

/-- The image of a character under the first shift that holds it. -/
def shifted? (table : List Shift) (c : Char) : Option Char :=
  (table.find? fun s => s.span.contains c.toNat).map fun s =>
    Char.ofNat ((c.toNat : Int) + s.distance).toNat

end SqlCompose.Text
