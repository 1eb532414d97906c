import SqlCompose.Inspect
import SqlCompose.Number.Layout
import SqlCompose.Text.Quoted

/-! The values that a database stores and that statements bind as parameters. -/

namespace SqlCompose

inductive Value where
  | null
  | integer (n : Int64)
  | real (x : Binary64)
  | text (s : String)
  | blob (bytes : List UInt8)
deriving DecidableEq

/-- What a value is, as far as composing statements is concerned. -/
inductive Kind where
  | null
  | string
  | number
  | boolean
  | date
  | object
deriving DecidableEq

def Kind.all : List Kind :=
  [null, string, number, boolean, date, object]

def Kind.text : Kind → String
  | null => "null"
  | string => "string"
  | number => "number"
  | boolean => "boolean"
  | date => "date"
  | object => "object"

namespace Value

/-- The kind that a stored value can be seen to have. Truth values and dates are stored
as integers and so come back as numbers. -/
def kind : Value → Kind
  | null => .null
  | integer _ => .number
  | real _ => .number
  | text _ => .string
  | blob _ => .object

/-- Equality in which reals are compared as numbers. -/
def same : Value → Value → Bool
  | null, null => true
  | integer m, integer n => m == n
  | real x, real y => x.same y
  | text s, text t => s == t
  | blob a, blob b => a == b
  | _, _ => false

def inspect : Value → String
  | null => "Null"
  | integer n => Inspect.tuple "Integer" [toString n.toInt]
  | real x => Inspect.tuple "Real" [NumberLayout.inspected.write x]
  | text s => Inspect.tuple "Text" [Text.quoted s]
  | blob bytes => Inspect.tuple "Blob" [Inspect.list (bytes.map fun b => toString b.toNat)]

end Value

/-- A row of values as a list in brackets. -/
def inspectRow (row : List Value) : String :=
  Inspect.list (row.map Value.inspect)

end SqlCompose
