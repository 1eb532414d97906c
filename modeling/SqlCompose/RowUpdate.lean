import SqlCompose.Predicate
import SqlCompose.Record

/-! UPDATE statements. Columns in the condition are qualified with the name of the table. -/

namespace SqlCompose

structure RowUpdate where
  assignments : List Fragment := []
  filter : Predicate
deriving DecidableEq

namespace RowUpdate

/-- An update of a model's table, with nothing assigned yet. -/
def ofModel (schema : Schema) (m : Model) : RowUpdate :=
  { filter := { source := { schema, model := m, aliasName := m.table } } }

def table (u : RowUpdate) : String :=
  u.filter.source.model.table

/-- Assigns a value to a column. -/
def set [b : Binding] (u : RowUpdate) (column : ColumnRef) (value : Scalar) :
    Except Error RowUpdate := do
  let target ← u.filter.source.unqualified column
  let assignment := target ++ .verbatim " = " ++ .bound (← value.toValue)
  return { u with assignments := u.assignments ++ [assignment] }

/-- The statement. Something has to be assigned. -/
def compile (u : RowUpdate) : Except Error Fragment :=
  if u.assignments.isEmpty then .error (.nothingToUpdate u.table)
  else
    let condition :=
      if u.filter.isEmpty then .empty else .verbatim " WHERE " ++ u.filter.compile
    .ok (.verbatim ("UPDATE " ++ u.table ++ " SET ") ++ .join ", " u.assignments ++ condition)

/-- The update of every column of a record's row but the primary key, which finds it. -/
def ofRecord [b : Binding] {ρ : Type} (T : RecordType ρ) (r : ρ) : Except Error RowUpdate := do
  let key ← T.model.requirePrimaryKey
  let values ← T.values r
  let assigned := (T.model.storedColumns.zip values).filter fun p => p.1.key.isNone
  let u ← assigned.foldlM (fun u p => u.set (.raw p.1.name) (.stored p.2))
    (ofModel T.schema T.model)
  let filter ← u.filter.compare .equal (.raw key.name) (.operand (.value (← T.key r)))
  return { u with filter := filter }

/-- The statement that stores the values of a record in its row. -/
def compileRecord [b : Binding] {ρ : Type} (T : RecordType ρ) (r : ρ) :
    Except Error Fragment := do
  (← ofRecord T r).compile

def inspect (u : RowUpdate) : String :=
  Inspect.record "Update"
    [("table", Text.quoted u.table),
     ("assignments", inspectFragments u.assignments),
     ("filter", u.filter.inspect)]

end RowUpdate

end SqlCompose
