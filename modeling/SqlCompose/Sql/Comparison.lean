import SqlCompose.Number.Numeral
import SqlCompose.Value

/-! How SQL compares stored values: numbers come before texts and texts before blobs, and
a comparison with NULL has no result. -/

namespace SqlCompose

namespace Value

/-- The value that is stored for a bound parameter. Not-a-number is stored as NULL. -/
def bound : Value → Value
  | real x => if x.isNaN then null else real x
  | v => v

/-- Blanks around a number do not keep a text from being read as one. -/
def isBlank (c : Char) : Bool :=
  c == ' ' || ('\t' ≤ c && c ≤ '\r')

/-- A real that is compared with row ids. One that is not above the least of them counts as
being below all of them. -/
def besideRowIds (x : Binary64) : Value :=
  if !x.isNaN && x.scaled ≤ Binary64.scaledInt Int64.minValue.toInt then real .negativeInfinity else real x

/-- The number that a value is compared with row ids as. A text counts as the number that it
stands for, if it stands for one. -/
def numeric : Value → Value
  | text s =>
    let trimmed := ((s.toList.dropWhile isBlank).reverse.dropWhile isBlank).reverse
    match Numeral.read? trimmed with
    | none => text s
    | some n =>
      if n.whole ∧ Int64.minValue.toInt ≤ n.signedDigits ∧ n.signedDigits ≤ Int64.maxValue.toInt then
        integer (Int64.ofInt n.signedDigits)
      else besideRowIds n.extendedBinary64
  | real x => besideRowIds x
  | v => v

/-- The row id that a value stands for, if it stands for one. A real has to be a whole number
between the least and the greatest row id. -/
def rowId? (v : Value) : Option Int64 :=
  match v.numeric with
  | integer n => some n
  | real x =>
    let n := x.scaled / Binary64.scaledInt 1
    if Binary64.scaledInt n = x.scaled ∧ Int64.minValue.toInt < n ∧ n < Int64.maxValue.toInt then
      some (Int64.ofInt n)
    else none
  | _ => none

/-- The order of two values by number, text or bytes. Integers and reals are compared
exactly. -/
def order? : Value → Value → Option Ordering
  | null, _ | _, null => none
  | integer m, integer n => some (compare m.toInt n.toInt)
  | integer m, real y => orderReals (Binary64.scaledInt m.toInt) y
  | real x, integer n => (orderReals (Binary64.scaledInt n.toInt) x).map Ordering.swap
  | real x, real y => if x.isNaN then none else orderReals x.scaled y
  | integer _, _ | real _, _ => some .lt
  | _, integer _ | _, real _ => some .gt
  | text s, text t => some (compareOfLessAndEq s t)
  | text _, blob _ => some .lt
  | blob _, text _ => some .gt
  | blob a, blob b => some (compareOfLessAndEq a b)
where
  /-- The order of a scaled number and a real. -/
  orderReals (scaled : Int) (y : Binary64) : Option Ordering :=
    if y.isNaN then none else some (compare scaled y.scaled)

/-- Whether two values are the same key. NULL is not the same as itself. -/
def sameKey (v w : Value) : Bool :=
  v.order? w == some .eq

end Value

/-- A comparison between two values. -/
inductive Comparison where
  | equal
  | notEqual
  | less
  | lessOrEqual
  | greater
  | greaterOrEqual
deriving DecidableEq

/-- Whether a comparison holds for values in the given order. -/
def Comparison.holds : Comparison → Ordering → Bool
  | equal, o => o == .eq
  | notEqual, o => o != .eq
  | less, o => o == .lt
  | lessOrEqual, o => o != .gt
  | greater, o => o == .gt
  | greaterOrEqual, o => o != .lt

end SqlCompose
