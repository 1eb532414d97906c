import SqlCompose.Model
import SqlCompose.Sql.Statement

/-! Tables with a primary key, and what the statements do to them. A table keeps its rows
in the order of their row ids. A statement that fails leaves no trace in it. A value that is
given as a row id is converted to one, and an update may change keys, row by row.

Two things are simpler than in a database. Names of tables and columns are compared letter by
letter. A row without a key is refused once the largest of all row ids is in use; no id that
is still free is looked for. -/

namespace SqlCompose

/-- The columns of a table and its primary key. A generated key is the row id itself; an
assigned one is never NULL and differs from row to row. -/
structure Layout where
  name : String
  columns : List String
  key : Option (String × KeyOrigin)
deriving DecidableEq

structure Row where
  id : Int64
  cells : List Value
deriving DecidableEq

structure Table where
  layout : Layout
  rows : List Row := []
deriving DecidableEq

namespace Layout

/-- The layout of the table that a model describes. -/
def ofModel (m : Model) : Layout :=
  { name := m.table
    columns := m.columnNames
    key := m.primaryKey?.bind fun c => c.key.map fun origin => (c.name, origin) }

/-- The cell of a column; NULL for one that the table does not have. -/
def cell (l : Layout) (cells : List Value) (column : String) : Value :=
  ((l.columns.zip cells).lookup column).getD .null

def setCell (l : Layout) (cells : List Value) (column : String) (v : Value) : List Value :=
  (l.columns.zip cells).map fun p => if p.1 == column then v else p.2

/-- The cells of a row whose values are given for some columns. The others are NULL. -/
def arrange (l : Layout) (columns : List String) (row : List Value) : List Value :=
  l.columns.map fun column => ((columns.zip row).lookup column).getD .null

def isRowId (l : Layout) (column : String) : Bool :=
  l.key == some (column, .autoIncrement)

/-- The cells of a row after assignments. -/
def assign (l : Layout) (assignments : List (String × Value)) (cells : List Value) : List Value :=
  assignments.foldl (fun cells a => l.setCell cells a.1 a.2) cells

/-- Whether some assignment is to the primary key. -/
def assignsKey (l : Layout) (assignments : List (String × Value)) : Bool :=
  l.key.any fun k => assignments.any fun a => a.1 == k.1

/-- Cells as they are stored under a row id, which is also the value of a generated key. -/
def row (l : Layout) (cells : List Value) (id : Int64) : Row :=
  ⟨id, match l.key with
    | some (column, .autoIncrement) => l.setCell cells column (.integer id)
    | _ => cells⟩

/-- The values of a row's columns. Row ids are numeric; no other column has a type. -/
def valuation (l : Layout) (cells : List Value) : Valuation where
  value _ column := l.cell cells column
  isNumeric _ column := l.isRowId column

end Layout

namespace Table

/-! ### Rows -/

def hasRow (t : Table) (id : Int64) : Bool :=
  t.rows.any fun r => r.id == id

/-- The id that a row gets by itself: one more than the last, or 1 in an empty table. -/
def nextRowId (t : Table) : Except DatabaseFault Int64 :=
  match t.rows.getLast? with
  | none => .ok 1
  | some r => if r.id < Int64.maxValue then .ok (r.id + 1) else .error .noRowIdLeft

/-- Puts a row before the first that has a greater id. -/
def placeRow (r : Row) : List Row → List Row
  | [] => [r]
  | s :: rest => if r.id < s.id then r :: s :: rest else s :: placeRow r rest

def addRow (t : Table) (r : Row) : Table :=
  { t with rows := placeRow r t.rows }

/-- The row id that a generated key is to be. It has to stand for one that is not in use. -/
def givenRowId (t : Table) (column : String) (key : Value) : Except DatabaseFault Int64 :=
  match key.rowId? with
  | none => .error .typeMismatch
  | some id => if t.hasRow id then .error (.notUnique t.layout.name column) else .ok id

/-- What keeps a value from being an assigned key, if anything does. -/
def assignedFault? (t : Table) (column : String) (key : Value) : Option DatabaseFault :=
  if key = .null then some (.nullNotAllowed t.layout.name column)
  else if t.rows.any fun r => (t.layout.cell r.cells column).sameKey key then
    some (.notUnique t.layout.name column)
  else none

/-- The id under which cells are to be stored, if the key permits it. -/
def rowIdFor (t : Table) (cells : List Value) : Except DatabaseFault Int64 :=
  match t.layout.key with
  | none => t.nextRowId
  | some (column, .autoIncrement) =>
    let key := t.layout.cell cells column
    if key = .null then t.nextRowId else t.givenRowId column key
  | some (column, .assigned) =>
    match t.assignedFault? column (t.layout.cell cells column) with
    | some fault => .error fault
    | none => t.nextRowId

/-- Stores cells as a new row. -/
def insertCells (t : Table) (cells : List Value) : Except DatabaseFault (Table × Int64) := do
  let id ← t.rowIdFor cells
  return (t.addRow (t.layout.row cells id), id)

def removeRow (t : Table) (id : Int64) : Table :=
  { t with rows := t.rows.filter fun r => r.id != id }

/-- The id of a row after its cells have been changed, if the key permits it beside those of
the other rows. Unlike a new row, one that is there does not get a key by itself. -/
def changedRowId (t : Table) (id : Int64) (cells : List Value) : Except DatabaseFault Int64 :=
  match t.layout.key with
  | none => .ok id
  | some (column, .autoIncrement) => (t.removeRow id).givenRowId column (t.layout.cell cells column)
  | some (column, .assigned) =>
    match (t.removeRow id).assignedFault? column (t.layout.cell cells column) with
    | some fault => .error fault
    | none => .ok id

/-- Changes the cells of a row. It moves if its id changes. -/
def changeCells (t : Table) (id : Int64) (cells : List Value) : Except DatabaseFault Table := do
  let newId ← t.changedRowId id cells
  return (t.removeRow id).addRow (t.layout.row cells newId)

/-- Whether a row meets a condition. One that is unknown is not met. -/
def meets (t : Table) (filter : Option Condition) (r : Row) : Bool :=
  match filter with
  | none => true
  | some c => c.eval (t.layout.valuation r.cells) == some true

/-! ### Statements -/

/-- What a statement has done: the table afterwards, how many rows it touched, the id of
the last row that it inserted, and the rows that it returned. -/
structure Effect where
  table : Table
  affected : Nat := 0
  lastRowId : Option Int64 := none
  rows : List (List Value) := []

/-- Why a statement has failed, and the id of the last row that it had inserted before it
was undone. -/
structure Failure where
  fault : DatabaseFault
  lastRowId : Option Int64 := none

/-- Inserts rows of cells one after the other. -/
def insertRows (t : Table) : List (List Value) → Except Failure Effect
  | [] => .ok { table := t }
  | cells :: rest =>
    match t.insertCells cells with
    | .error fault => .error { fault }
    | .ok (t, id) =>
      match t.insertRows rest with
      | .error f => .error { f with lastRowId := some (f.lastRowId.getD id) }
      | .ok e =>
        .ok { e with affected := e.affected + 1, lastRowId := some (e.lastRowId.getD id) }

/-- Makes assignments to rows, one after the other. -/
def changeRows (t : Table) (assignments : List (String × Value)) :
    List Row → Except DatabaseFault Table
  | [] => .ok t
  | r :: rest => do
    let t ← t.changeCells r.id (t.layout.assign assignments r.cells)
    t.changeRows assignments rest

/-- Makes assignments to the rows that meet a condition. Only a new key can be refused. -/
def updateRows (t : Table) (assignments : List (String × Value)) (filter : Option Condition) :
    Except Failure Effect :=
  let affected := t.rows.countP (t.meets filter)
  if t.layout.assignsKey assignments then
    match t.changeRows assignments (t.rows.filter (t.meets filter)) with
    | .error fault => .error { fault }
    | .ok table => .ok { table, affected }
  else
    let assign (r : Row) : Row := { r with cells := t.layout.assign assignments r.cells }
    let rows := t.rows.map fun r => if t.meets filter r then assign r else r
    .ok { table := { t with rows }, affected }

def deleteRows (t : Table) (filter : Option Condition) : Effect :=
  { table := { t with rows := t.rows.filter fun r => !t.meets filter r }
    affected := t.rows.countP (t.meets filter) }

/-- Carries out a statement. -/
def run (t : Table) : Statement → Except Failure Effect
  | .select row => .ok { table := t, rows := [row] }
  | .insert _ columns rows => t.insertRows (rows.map (t.layout.arrange columns))
  | .update _ assignments filter => t.updateRows assignments filter
  | .delete _ filter => .ok (t.deleteRows filter)

end Table

/-! ### Checks before a statement is run -/

/-- The columns that a condition mentions, with their qualifiers. -/
def Condition.columns : Condition → List (Option String × String)
  | compare _ a b => [a, b].filterMap Term.column?
  | between _ a low high => [a, low, high].filterMap Term.column?
  | isIn _ a items => (a :: items).filterMap Term.column?
  | like _ a pattern => [a, pattern].filterMap Term.column?
  | isNull _ a => [a].filterMap Term.column?
  | not c => c.columns
  | and c d | or c d => c.columns ++ d.columns

namespace Layout

def tableFault? (l : Layout) (table : String) : Option DatabaseFault :=
  if table = l.name then none else some (.unknownTable table)

def columnFault? (l : Layout) (column : Option String × String) : Option DatabaseFault :=
  if column.1.all (· == l.name) && column.2 ∈ l.columns then none
  else some (.unknownColumn column.2)

def filterFault? (l : Layout) (filter : Option Condition) : Option DatabaseFault :=
  ((filter.map Condition.columns).getD []).findSome? l.columnFault?

/-- Why a statement cannot be run on a table with this layout, if it cannot. -/
def fault? (l : Layout) : Statement → Option DatabaseFault
  | .select _ => none
  | .insert table columns rows =>
    l.tableFault? table <|> columns.findSome? (fun c => l.columnFault? (none, c)) <|>
      (rows.find? fun row => row.length ≠ columns.length).map fun row =>
        .valueCount row.length columns.length
  | .update table assignments filter =>
    l.tableFault? table <|> assignments.findSome? (fun a => l.columnFault? (none, a.1)) <|>
      l.filterFault? filter
  | .delete table filter => l.tableFault? table <|> l.filterFault? filter

end Layout

end SqlCompose
