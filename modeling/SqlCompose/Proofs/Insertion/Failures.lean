import SqlCompose.Proofs.Derive.Records
import SqlCompose.Proofs.Store.Batches

/-! What an insertion that fails leaves behind. The table is as it was before, but keys are written
into the records while the statements are carried out, and are not taken out again. -/

namespace SqlCompose

namespace Database

variable {ρ : Type} {T : RecordType ρ}

/-- The first statement for some records is carried out, and the first record takes its key. -/
def GivesKey (db : Database) (T : RecordType ρ) (records : List ρ) : Prop :=
  ∃ statement statements outcome r,
    (Insertion.ofModel T.model).compileRecords T records = .ok (statement :: statements) ∧
    (db.execute statement).1 = .ok outcome ∧ records.head? = some r ∧ T.TakesFirst outcome r

/-- Records are changed by an insertion only from the first on, and only by the keys they take. -/
theorem givesKey_cases (db : Database) (T : RecordType ρ) (records : List ρ) :
    (¬ db.GivesKey T records ∧ (db.insertRecords T records).records = records) ∨
      (db.GivesKey T records ∧ ∃ key keys,
        T.TakeKeys records (key :: keys) (db.insertRecords T records).records) := by
  rw [records_insertRecords]
  cases records with
  | nil => exact .inl ⟨fun ⟨_, _, _, _, _, _, hfirst, _⟩ => (by cases hfirst), rfl⟩
  | cons r rest =>
    have hrecords : r :: rest ≠ [] := List.cons_ne_nil r rest
    cases hcompile : (Insertion.ofModel T.model).compileRecords T (r :: rest) with
    | error e =>
      rw [Transaction.insertRecords_uncompiled hrecords hcompile]
      refine .inl ⟨fun ⟨_, _, _, _, h, _⟩ => ?_, rfl⟩
      rw [hcompile] at h
      cases h
    | ok statements =>
      obtain ⟨rows, size, hrows, hsize, -, rfl⟩ := Insertion.compileRecords_ok hcompile
      obtain ⟨-, -, hpos, -⟩ := Insertion.rowsPerStatement_ok hsize
      rw [Transaction.insertRecords_compiled hrecords hcompile hsize]
      have hflat := flatten_chunks hpos (r :: rest)
      obtain ⟨row, rows, -, -, rfl⟩ := mapM_cons_ok hrows
      obtain ⟨piece, pieces, hpieces⟩ := exists_chunks_cons hpos row rows
      obtain ⟨chunk, chunks', hchunks⟩ := exists_chunks_cons hpos r rest
      rw [hpieces, List.map_cons] at hcompile
      rw [hchunks] at hflat
      rw [hpieces, hchunks, List.map_cons]
      by_cases hT : T.HasGeneratedKey
      · have hfirst := insertChunks_first hT db ((Insertion.ofModel T.model).statement (row :: piece))
          (pieces.map (Insertion.ofModel T.model).statement) r chunk chunks'
        rw [hflat] at hfirst
        rcases hfirst with ⟨⟨outcome, hexecute, htakes⟩, hkeys⟩ | ⟨hnot, hsame⟩
        · exact .inr ⟨⟨_, _, outcome, r, hcompile, hexecute, rfl, htakes⟩, hkeys⟩
        · refine .inl ⟨fun ⟨_, _, outcome, _, h, hexecute, hhead, htakes⟩ => hnot ?_, hsame⟩
          cases hhead
          rw [hcompile] at h
          cases h
          exact ⟨outcome, hexecute, htakes⟩
      · refine .inl ⟨fun ⟨_, _, _, _, _, _, _, htakes⟩ => hT htakes.1, ?_⟩
        rw [records_insertChunks hT, hflat]

/-- After a failure the table is the old one, and the records are as they were, unless the first of
them took a key: then the first records have the keys of rows that are gone. -/
theorem records_of_failure {db : Database} {records : List ρ} {e : Error}
    (h : (db.insertRecords T records).result = .error e) :
    (db.insertRecords T records).database.table = db.table ∧
      ((¬ db.GivesKey T records ∧ (db.insertRecords T records).records = records) ∨
        (db.GivesKey T records ∧ ∃ key keys,
          T.TakeKeys records (key :: keys) (db.insertRecords T records).records)) :=
  ⟨table_insertRecords_failed (by rw [h]; nofun), db.givesKey_cases T records⟩

/-- A record whose key is taken already. Its statement fails, and no key is written. -/
theorem records_of_failure_of_duplicate :
    let T := Derive.recordType [Derive.cityMapping] Derive.cityMapping
    let db := ((ofModel T.model).insertRecords T [[.present (.signed 1), .text "a"]]).database
    let records : List Derive.Record := [[.absent, .text "b"], [.present (.signed 1), .text "c"]]
    (db.insertRecords T records).result = .error (.database (.notUnique "City" "id")) ∧
      (db.insertRecords T records).database.table = db.table ∧
      ((¬ db.GivesKey T records ∧ (db.insertRecords T records).records = records) ∨
        (db.GivesKey T records ∧ ∃ key keys,
          T.TakeKeys records (key :: keys) (db.insertRecords T records).records)) := by
  intro T db records
  have h : (db.insertRecords T records).result = .error (.database (.notUnique "City" "id")) := by
    decide +kernel
  exact ⟨h, records_of_failure h⟩

/-- Only one key of 16 bits is left for two records. The first takes it and keeps it when the second
makes the insertion fail, although there is no row with that key. -/
theorem key_stays_after_failure :
    let d : Derive.FamilyMember := {
      ident := ⟨"OptTiny", false⟩
      shape := .named [⟨⟨"id", false⟩, some (.optional (.integer .int16)), [.autoIncrement true]⟩,
        ⟨⟨"big", false⟩, some (.integer .uint64), []⟩] }
    ∃ m, d.map .model = .ok m ∧
      let T := Derive.recordType [m] m
      let db := ((ofModel T.model).insertRecords T [[.present (.signed 32766), .unsigned 1]]).database
      let records : List Derive.Record := [[.absent, .unsigned 2], [.absent, .unsigned 3]]
      let batch := db.insertRecords T records
      batch.result = .error .integerTooLarge ∧ batch.records ≠ records ∧
        records.map T.key = [.ok .null, .ok .null] ∧
        batch.records.map T.key = [.ok (.integer 32767), .ok .null] ∧
        batch.database.dump = [[.integer 32766, .integer 1]] := by
  refine ⟨_, rfl, ?_⟩
  intro T db records batch
  have hbefore : records.map T.key = [.ok .null, .ok .null] := by decide +kernel
  have hafter : batch.records.map T.key = [.ok (.integer 32767), .ok .null] := by decide +kernel
  refine ⟨by decide +kernel, fun h => ?_, hbefore, hafter, by decide +kernel⟩
  rw [h, hbefore] at hafter
  cases hafter

end Database

end SqlCompose
