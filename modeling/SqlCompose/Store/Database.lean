import SqlCompose.Insertion
import SqlCompose.Keys
import SqlCompose.RowDelete
import SqlCompose.RowUpdate
import SqlCompose.Store.Table

/-! A database of one table: how composed fragments are executed on it, and how records are
inserted together with the keys that they are given. -/

namespace SqlCompose

/-- A table, with the id of the last row that was inserted into it. -/
structure Database where
  table : Table
  lastRowId : Int64 := 0
deriving DecidableEq

namespace Database

/-- An empty database for the records that a model describes. -/
def ofModel (m : Model) : Database :=
  { table := { layout := .ofModel m } }

/-! ### Fragments -/

/-- The number of placeholders in a fragment's text. -/
def parameterCount (f : Fragment) : Nat :=
  ((Token.ofText? f.sql).map Token.placeholders).getD 0

/-- The statement of a fragment. It has to suit the table, and then to have as many
parameters as placeholders. -/
def prepare (db : Database) (f : Fragment) : Except Error Statement :=
  match Statement.ofFragment? f with
  | none => .error (.database (.unreadable f.sql))
  | some s =>
    match db.table.layout.fault? s with
    | some fault => .error (.database fault)
    | none =>
      if parameterCount f = f.params.length then .ok s
      else .error (.parameterCount (parameterCount f) f.params.length)

/-- Carries out a statement. The id of the last row counts rows of failed insertions too. -/
def run (db : Database) (s : Statement) : Except Error Table.Effect × Database :=
  match db.table.run s with
  | .ok e => (.ok e, { table := e.table, lastRowId := e.lastRowId.getD db.lastRowId })
  | .error f =>
    (.error (.database f.fault), { db with lastRowId := f.lastRowId.getD db.lastRowId })

/-- Executes a fragment that returns no rows. -/
def execute (db : Database) (f : Fragment) : Except Error Outcome × Database :=
  match db.prepare f with
  | .error e => (.error e, db)
  | .ok s =>
    match db.run s with
    | (.error e, db) => (.error e, db)
    | (.ok e, db) =>
      if e.rows.isEmpty then
        (.ok { lastRowId := db.lastRowId, rowsAffected := e.affected }, db)
      else (.error (.database .returnedRows), db)

/-- Executes a fragment and gives the rows that it returns. -/
def query (db : Database) (f : Fragment) : Except Error (List (List Value)) × Database :=
  match db.prepare f with
  | .error e => (.error e, db)
  | .ok s =>
    let (result, db) := db.run s
    (result.map Table.Effect.rows, db)

/-- Executes a fragment, unless there is an error instead of it. -/
def executeCompiled (db : Database) :
    Except Error Fragment → Except Error Outcome × Database
  | .error e => (.error e, db)
  | .ok f => db.execute f

/-- All rows of the table, by row id. -/
def dump (db : Database) : List (List Value) :=
  db.table.rows.map (·.cells)

end Database

/-! ### Records -/

/-- What has become of a database and of the records that were inserted into it. -/
structure Batch (ρ : Type) where
  result : Ending
  database : Database
  records : List ρ

/-- Executes the statements in order and gives the records of each its keys. What has
been done before a failure stays done. -/
def insertChunks {ρ : Type} (T : RecordType ρ) (db : Database) :
    (statements : List Fragment) → (chunks : List (List ρ)) → Batch ρ
  | statement :: statements, chunk :: chunks =>
    match db.execute statement with
    | (.error e, db) => ⟨.error e, db, chunk ++ chunks.flatten⟩
    | (.ok outcome, db) =>
      let keyed := resolveKeys Outcome.recorded T outcome chunk
      match keyed.result with
      | .ok =>
        let rest := insertChunks T db statements chunks
        { rest with records := keyed.records ++ rest.records }
      | failure => ⟨failure, db, keyed.records ++ chunks.flatten⟩
  | _, chunks => ⟨.ok, db, chunks.flatten⟩

/-- An open transaction: the database at its beginning, and as the transaction sees it. -/
structure Transaction where
  before : Database
  current : Database
deriving DecidableEq

namespace Transaction

def start (db : Database) : Transaction :=
  ⟨db, db⟩

/-- Inserts records by as few statements as possible. -/
def insertRecords {ρ : Type} (t : Transaction) (T : RecordType ρ) (records : List ρ) : Batch ρ :=
  if records.isEmpty then ⟨.ok, t.current, records⟩
  else
    let insertion := Insertion.ofModel T.model
    let plan := do
      let statements ← insertion.compileRecords T records
      return (statements, chunks (← insertion.rowsPerStatement) records)
    match plan with
    | .error e => ⟨.error e, t.current, records⟩
    | .ok (statements, chunks) => insertChunks T t.current statements chunks

/-- Inserts batches of records one after the other, whether they fail or not. An overflow
is the end of it. -/
def insertBatches {ρ : Type} (t : Transaction) (T : RecordType ρ) :
    List (List ρ) → List (Batch ρ) × Transaction
  | [] => ([], t)
  | records :: rest =>
    let batch := t.insertRecords T records
    let t := { t with current := batch.database }
    if batch.result = .overflow then ([batch], t)
    else
      let (batches, t) := t.insertBatches T rest
      (batch :: batches, t)

def commit (t : Transaction) : Database :=
  t.current

/-- The table is as it was before. The id of the last row is not taken back. -/
def rollback (t : Transaction) : Database :=
  { t.before with lastRowId := t.current.lastRowId }

end Transaction

namespace Database

/-- Inserts records in a transaction of their own, which is rolled back on failure and on
overflow. The records keep the keys that they were given. -/
def insertRecords {ρ : Type} (db : Database) (T : RecordType ρ) (records : List ρ) : Batch ρ :=
  let batch := (Transaction.start db).insertRecords T records
  let t : Transaction := { before := db, current := batch.database }
  match batch.result with
  | .ok => { batch with database := t.commit }
  | _ => { batch with database := t.rollback }

/-- Stores the values of a record in its row. -/
def updateRecord {ρ : Type} (db : Database) (T : RecordType ρ) (r : ρ) :
    Except Error Outcome × Database :=
  db.executeCompiled (RowUpdate.compileRecord T r)

/-- Deletes the row of a record. -/
def deleteRecord {ρ : Type} (db : Database) (T : RecordType ρ) (r : ρ) :
    Except Error Outcome × Database :=
  db.executeCompiled (RowDelete.compileRecord T r)

/-- Deletes the rows that have one of the given keys. -/
def deleteKeys {ρ : Type} (db : Database) (T : RecordType ρ) (keys : List Scalar) :
    Except Error Outcome × Database :=
  db.executeCompiled do return (← RowDelete.ofKeys T.schema T.model keys).compile

end Database

end SqlCompose
