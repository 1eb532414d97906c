import SqlCompose.Record

/-! Giving inserted records the keys that the database generated for them. -/

namespace SqlCompose

/-- What there is to know of the outcomes of an insertion: the row id of the last row, how
many rows there were, and a place for a key that the caller assigned. -/
structure OutcomeType (ω : Type) where
  lastRowId : ω → Int64
  rowsAffected : ω → Nat
  setInsertId : ω → Value → Except Error ω

/-- The outcome of an insertion as plain data. -/
structure Outcome where
  lastRowId : Int64 := 0
  rowsAffected : Nat := 0
  insertId : Option Value := none
deriving DecidableEq

namespace Outcome

def recorded : OutcomeType Outcome where
  lastRowId := lastRowId
  rowsAffected := rowsAffected
  setInsertId o key := .ok { o with insertId := some key }

/-- The same outcome where no key can be put. -/
def readOnly : OutcomeType Outcome where
  lastRowId := lastRowId
  rowsAffected := rowsAffected
  setInsertId _ _ := .error (.custom "read-only outcome")

def inspect (o : Outcome) : String :=
  Inspect.record "Outcome"
    [("last_insert_id", toString o.lastRowId.toInt),
     ("rows_affected", toString o.rowsAffected),
     ("insert_id", Inspect.optional (o.insertId.map Value.inspect))]

end Outcome

/-- How keys are given out: to all records, or up to an error, or up to a number that has more
than 64 bits. Such a number ends the whole program, and no caller learns of it. -/
inductive Ending where
  | ok
  | error (e : Error)
  | overflow
deriving DecidableEq

namespace Ending

def ofExcept : Except Error Unit → Ending
  | .ok () => ok
  | .error e => error e

/-- What the program says as it ends. -/
def overflowMessage : String :=
  "attempt to subtract with overflow"

end Ending

/-- What is left after keys have been given out: whether all of it went well, the outcome
of the insertion, and the records. -/
structure KeyResolution (ω ρ : Type) where
  result : Ending
  outcome : ω
  records : List ρ

/-- Integers of 64 bits. -/
def FitsKey (n : Int) : Prop :=
  Int64.minValue.toInt ≤ n ∧ n ≤ Int64.maxValue.toInt

instance (n : Int) : Decidable (FitsKey n) :=
  inferInstanceAs (Decidable (_ ∧ _))

/-- An integer as a key, if it has 64 bits. -/
def key? (n : Int) : Option Int64 :=
  if FitsKey n then some (Int64.ofInt n) else none

/-- The key of record number `index`, from 1 on, when the rows of one statement have
consecutive row ids that end in `last`. There is none if a number on the way to it has more
than 64 bits. -/
def generatedKey? (last : Int64) (affected index : Nat) : Option Int64 := do
  let number ← key? index
  let offset ← key? (affected - number.toInt)
  key? (last.toInt - offset.toInt)

/-- Sets the keys of the records from number `index` on, up to the first that refuses. -/
def setGeneratedKeys {ρ : Type} (T : RecordType ρ) (last : Int64) (affected : Nat) :
    (index : Nat) → List ρ → Ending × List ρ
  | _, [] => (.ok, [])
  | index, r :: rest =>
    match generatedKey? last affected index with
    | none => (.overflow, r :: rest)
    | some key =>
      match T.setKey r key with
      | .error e => (.error e, r :: rest)
      | .ok r =>
        let (result, rest) := setGeneratedKeys T last affected (index + 1) rest
        (result, r :: rest)

/-- Puts the keys of the records into the outcome, one after the other. An outcome that
does not take a key stays as it is. -/
def putKeys {ω ρ : Type} (O : OutcomeType ω) (T : RecordType ρ) :
    ω → List ρ → Except Error Unit × ω
  | o, [] => (.ok (), o)
  | o, r :: rest =>
    match T.key r with
    | .error e => (.error e, o)
    | .ok key =>
      match O.setInsertId o key with
      | .ok o => putKeys O T o rest
      | .error _ => putKeys O T o rest

/-- Resolves the keys of records after they have been inserted by one statement. -/
def resolveKeys {ω ρ : Type} (O : OutcomeType ω) (T : RecordType ρ) (o : ω) (records : List ρ) :
    KeyResolution ω ρ :=
  match T.model.requirePrimaryKey with
  | .error e => ⟨.error e, o, records⟩
  | .ok column =>
    match column.key.getD .autoIncrement with
    | .autoIncrement =>
      if O.rowsAffected o ≤ Int64.maxValue.toInt then
        let (result, records) :=
          setGeneratedKeys T (O.lastRowId o) (O.rowsAffected o) 1 records
        ⟨result, o, records⟩
      else ⟨.error .integerTooLarge, o, records⟩
    | .assigned =>
      let (result, o) := putKeys O T o records
      ⟨.ofExcept result, o, records⟩

end SqlCompose
