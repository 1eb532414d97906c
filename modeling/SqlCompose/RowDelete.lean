import SqlCompose.Predicate
import SqlCompose.Record

/-! DELETE statements. Columns in the condition are qualified with the name of the table. -/

namespace SqlCompose

structure RowDelete where
  filter : Predicate
deriving DecidableEq

namespace RowDelete

/-- A deletion from a model's table; of all rows, until a condition is added. -/
def ofModel (schema : Schema) (m : Model) : RowDelete :=
  { filter := { source := { schema, model := m, aliasName := m.table } } }

def table (d : RowDelete) : String :=
  d.filter.source.model.table

/-- The deletion of the rows with one of the given primary keys. -/
def ofKeys [b : Binding] (schema : Schema) (m : Model) (keys : List Scalar) :
    Except Error RowDelete := do
  let key ← m.requirePrimaryKey
  let filter ← (ofModel schema m).filter.isIn (.raw key.name) keys
  return { filter := filter }

/-- The deletion of a record's row. -/
def ofRecord [b : Binding] {ρ : Type} (T : RecordType ρ) (r : ρ) : Except Error RowDelete := do
  ofKeys T.schema T.model [.stored (← T.key r)]

def compile (d : RowDelete) : Fragment :=
  let condition :=
    if d.filter.isEmpty then .empty else .verbatim " WHERE " ++ d.filter.compile
  .verbatim ("DELETE FROM " ++ d.table) ++ condition

/-- The statement that deletes the row of a record. -/
def compileRecord [b : Binding] {ρ : Type} (T : RecordType ρ) (r : ρ) :
    Except Error Fragment := do
  return (← ofRecord T r).compile

def inspect (d : RowDelete) : String :=
  Inspect.record "Delete" [("table", Text.quoted d.table), ("filter", d.filter.inspect)]

end RowDelete

end SqlCompose
