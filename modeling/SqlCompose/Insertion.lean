import SqlCompose.Fragment
import SqlCompose.Record

/-! INSERT statements for any number of rows. The rows are split over as many statements
as the limit on bound parameters requires; no row is ever split. -/

namespace SqlCompose

/-- The limit on the parameters of one statement, unless another is given. -/
def defaultMaxParams : Nat := 999

structure Insertion where
  table : String
  columns : List String
  maxParams : Nat := defaultMaxParams
deriving DecidableEq

/-- Splits a list into pieces of `size` elements, the last one possibly shorter. At most
`pieces` of them are cut. -/
def chunksWithin {α : Type} (size : Nat) : (pieces : Nat) → List α → List (List α)
  | 0, _ => []
  | _ + 1, [] => []
  | pieces + 1, a :: rest =>
    (a :: rest).take size :: chunksWithin size pieces ((a :: rest).drop size)

/-- A list in pieces of `size` elements, for a positive size. -/
def chunks {α : Type} (size : Nat) (l : List α) : List (List α) :=
  chunksWithin size l.length l

namespace Insertion

/-- Insertion into all stored columns of a model's table. -/
def ofModel (m : Model) : Insertion :=
  { table := m.table, columns := m.columnNames }

/-- The same insertion under another limit, if one is given. -/
def limited (i : Insertion) (maxParams : Option Nat) : Insertion :=
  { i with maxParams := maxParams.getD i.maxParams }

/-- How many rows one statement takes. Statements stay strictly below the limit, unless a
single row reaches it. -/
def rowsPerStatement (i : Insertion) : Except Error Nat :=
  let columns := i.columns.length
  if columns = 0 then .error (.nothingToInsert i.table)
  else if i.maxParams < columns then .error (.parameterLimit columns i.maxParams)
  else .ok (max 1 ((i.maxParams - 1) / columns))

/-- The text before the rows. -/
def head (i : Insertion) : String :=
  "INSERT INTO " ++ i.table ++ " (" ++ ", ".intercalate i.columns ++ ") VALUES "

/-- One statement for the given rows. -/
def statement [b : Binding] (i : Insertion) (rows : List (List Value)) : Fragment :=
  .verbatim i.head ++ .join ", " (rows.map fun row => (Fragment.boundList row).parenthesized)

/-- The statements for a batch of rows. There must be a row, and every row must have one
value for each column; the first that does not is reported. -/
def compile [b : Binding] (i : Insertion) (rows : List (List Value)) :
    Except Error (List Fragment) :=
  if rows.isEmpty then .error (.emptyBatch i.table)
  else
    match rows.find? fun row => row.length ≠ i.columns.length with
    | some row => .error (.raggedBatch i.table i.columns.length row.length (inspectRow row))
    | none => do
      let size ← i.rowsPerStatement
      return (chunks size rows).map i.statement

/-- The statements that insert records. -/
def compileRecords [b : Binding] {ρ : Type} (i : Insertion) (T : RecordType ρ)
    (records : List ρ) : Except Error (List Fragment) := do
  i.compile (← records.mapM T.values)

def inspect (i : Insertion) : String :=
  Inspect.record "Insert"
    [("table", Text.quoted i.table),
     ("columns", Inspect.list (i.columns.map Text.quoted)),
     ("max_params", toString i.maxParams)]

end Insertion

end SqlCompose
