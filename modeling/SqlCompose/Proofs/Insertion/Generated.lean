import SqlCompose.Proofs.Insertion.Keys

/-! Records whose keys are left to the database. They are all inserted, with the ids that follow the
largest one in the table, and each gets the id of its row as its key, over however many statements
the rows are split; or none is inserted. -/

namespace SqlCompose.Derive

open Mapping

section

variable {t : Target} {d : FamilyMember} {m : MemberMapping} (hm : d.map t = .ok m)
  (hd : d.IsWorded) {f : MappedField (Option ScalarType) Nat} (hf : m.keyField? = some f)
  (hauto : f.key = some .autoIncrement) (mappings : List MemberMapping) {db : Database}
  (hlayout : db.table.layout = .ofModel (m.model kindOfField id)) {records : List Record}
  (hfields : ∀ r ∈ records, r.length = d.fields.length) (hordered : db.table.IsOrdered)
  (hnull : ∀ r ∈ records, m.key r = .ok .null)

include hm hf hlayout hnull

/-- The cells of records without keys. -/
theorem null_of_values {values : List (List Value)} (hvalues : records.mapM m.values = .ok values) :
    ∀ row ∈ values, db.table.layout.cell (row.map Value.bound) f.column = .null := by
  intro row hrow
  obtain ⟨r, hr, hrow⟩ := mem_mapM_ok hvalues row hrow
  rw [hlayout, cell_key (Declaration.map_ok hm) hf hrow (hnull r hr)]
  rfl

include hauto hordered

/-- Rows of records without keys come after all others, under the next ids. -/
theorem StoredRows.generated {stored : List (List Row)} {t' : Table}
    (h : StoredRows m db.table records stored t') :
    t' = { db.table with rows := db.table.rows ++ stored.flatten } ∧
      ∀ (i : Nat) (row : Row), stored.flatten[i]? = some row →
        row.id.toInt = db.table.lastId + 1 + i := by
  obtain ⟨values, hvalues, hstores⟩ := h.rows
  obtain ⟨htable, -, hids⟩ := hstores.generated (key_of_layout hf hauto hlayout) hordered
    (List.forall_mem_map.mpr (null_of_values hm hf hlayout hnull hvalues))
  exact ⟨htable, hids⟩

include hd

/-- Records without keys take the ids of their rows. -/
theorem takeKeys_generated (hrecords : records ≠ [])
    (h : (db.insertRecords (recordType mappings m) records).result = .ok) :
    let batch := db.insertRecords (recordType mappings m) records
    (Insertion.ofModel (m.model kindOfField id)).IsNamed ∧ ∃ stored,
      StoredRows m db.table records stored batch.database.table ∧
      (recordType mappings m).TakeKeys records (stored.flatten.map Row.id) batch.records := by
  intro batch
  obtain ⟨hnamed, stored, keys, hstored, hresolves, hkeys⟩ :=
    storedRows_of_insertRecords hm hd hf hauto mappings hlayout hrecords h
  refine ⟨hnamed, stored, hstored, ?_⟩
  have hconsecutive : AreConsecutive (stored.flatten.map Row.id) :=
    areConsecutive_ids (hstored.generated hm hf hauto hlayout hordered hnull).2
  rw [List.map_flatten] at hconsecutive
  rwa [flatten_eq_of_consecutive hresolves hconsecutive, ← List.map_flatten] at hkeys

theorem result_ne_overflow :
    (db.insertRecords (recordType mappings m) records).result ≠ .overflow := by
  have hof := Declaration.map_ok hm
  exact Database.insertRecords_ne_overflow (T := recordType mappings m) hlayout
    (hof.hasWords kindOfField id hd) (hof.nodup_columnNames kindOfField id)
    (hasGeneratedKey mappings hf hauto) (key_of_layout hf hauto hlayout) hordered
    fun values hvalues => null_of_values hm hf hlayout hnull hvalues

/-- Records without keys are inserted if the names of the table and its columns are not empty, a row
fits into a statement, all values can be stored, and every record takes its id as the key. -/
theorem result_generated_iff (hroom : db.table.lastId + records.length ≤ Int64.maxValue.toInt) :
    let insertion := Insertion.ofModel (m.model kindOfField id)
    (db.insertRecords (recordType mappings m) records).result = .ok ↔ records = [] ∨
      insertion.IsNamed ∧ insertion.columns.length ≤ insertion.maxParams ∧
        (∀ r ∈ records, ∃ values, m.values r = .ok values) ∧
        ∀ (i : Nat) r, records[i]? = some r →
          ∃ r', m.setKey r (Int64.ofInt (db.table.lastId + 1 + i)) = .ok r' := by
  intro insertion
  have hof := Declaration.map_ok hm
  constructor
  · intro h
    by_cases hrecords : records = []
    · exact .inl hrecords
    · obtain ⟨hnamed, stored, hstored, hkeys⟩ :=
        takeKeys_generated hm hd hf hauto mappings hlayout hordered hnull hrecords h
      have hids := (hstored.generated hm hf hauto hlayout hordered hnull).2
      obtain ⟨size, hsize, -⟩ := hstored.statements
      refine .inr ⟨hnamed, (Insertion.rowsPerStatement_ok hsize).2.1, fun r hr => ?_,
        fun i r hr => ?_⟩
      · obtain ⟨values, hvalues, -⟩ := hstored.rows
        obtain ⟨i, hi⟩ := List.getElem?_of_mem hr
        obtain ⟨row, -, hrow⟩ := mapM_getElem hvalues hi
        exact ⟨row, hrow⟩
      · have hi : i < records.length := (List.getElem?_eq_some_iff.mp hr).1
        have hrow := List.getElem?_eq_getElem (hstored.length_eq ▸ hi : i < stored.flatten.length)
        have hr' := List.getElem?_eq_getElem (hkeys.length_eq ▸ hi)
        refine ⟨_, hkeys.setKey_getElem hr hr' ?_⟩
        rw [List.getElem?_map, hrow, ← hids i _ hrow, Int64.ofInt_toInt]
        rfl
  · rintro (rfl | ⟨hnamed, hlimit, hstorable, haccepts⟩)
    · rfl
    · obtain ⟨values, hvalues⟩ := exists_mapM_ok hstorable
      obtain ⟨size, hsize⟩ := Insertion.exists_rowsPerStatement (columnNames_ne_nil hof hf) hlimit
      refine Database.insertRecords_ok (T := recordType mappings m) hlayout
        (hof.hasWords kindOfField id hd) (hof.nodup_columnNames kindOfField id)
        (hasGeneratedKey mappings hf hauto) hnamed (key_of_layout hf hauto hlayout) hordered hvalues
        (fun row hrow => ?_) hsize
        (null_of_values hm hf hlayout hnull hvalues) hroom haccepts
      obtain ⟨r, -, hrow⟩ := mem_mapM_ok hvalues row hrow
      exact length_values hrow

include hfields

/-- What is stored for records without keys. -/
theorem isStoredAs_generated (h : (db.insertRecords (recordType mappings m) records).result = .ok) :
    let batch := db.insertRecords (recordType mappings m) records
    ∃ stored : List Row,
      batch.database.table = { db.table with rows := db.table.rows ++ stored } ∧
      stored.length = records.length ∧ batch.records.length = records.length ∧
      ∀ (i : Nat) r r' row, records[i]? = some r → batch.records[i]? = some r' →
        stored[i]? = some row → row.id.toInt = db.table.lastId + 1 + i ∧ IsStoredAs m f r r' row := by
  intro batch
  by_cases hrecords : records = []
  · subst hrecords
    exact ⟨[], by simp [batch, Database.insertRecords_nil], rfl, rfl,
      fun i r r' row hr => by cases hr⟩
  · obtain ⟨-, stored, hstored, hkeys⟩ :=
      takeKeys_generated hm hd hf hauto mappings hlayout hordered hnull hrecords h
    obtain ⟨htable, hids⟩ := hstored.generated hm hf hauto hlayout hordered hnull
    refine ⟨stored.flatten, htable, hstored.length_eq, hkeys.length_eq,
      fun i r r' row hr hr' hrow => ⟨hids i row hrow, ?_⟩⟩
    obtain ⟨values, hvalues, hcells, -⟩ := hstored.getElem hr hrow
    rw [hlayout] at hcells
    have hkey : (stored.flatten.map Row.id)[i]? = some row.id := by
      rw [List.getElem?_map, hrow]
      rfl
    exact isStoredAs_of_setKey (Declaration.map_ok hm) hf hauto
      (hfields r (List.mem_of_getElem? hr)) hvalues hcells (hkeys.setKey_getElem hr hr' hkey)

/-- Inserting records whose keys are left to the database either fails and leaves the table alone,
or adds one row for each record, in order and with consecutive ids, and makes each record the image
of its own row. It succeeds if the names of the table and its columns are not empty, a row fits into
a statement, all values can be stored, and every record takes its id as the key. -/
theorem keys_generated (hroom : db.table.lastId + records.length ≤ Int64.maxValue.toInt) :
    let batch := db.insertRecords (recordType mappings m) records
    let insertion := Insertion.ofModel (m.model kindOfField id)
    ((batch.result = .ok ∧ ∃ stored : List Row,
        batch.database.table = { db.table with rows := db.table.rows ++ stored } ∧
        stored.length = records.length ∧ batch.records.length = records.length ∧
        ∀ (i : Nat) r r' row, records[i]? = some r → batch.records[i]? = some r' →
          stored[i]? = some row →
          row.id.toInt = db.table.lastId + 1 + i ∧ IsStoredAs m f r r' row) ∨
      (∃ e, batch.result = .error e) ∧ batch.database.table = db.table) ∧
    (batch.result = .ok ↔ records = [] ∨
      insertion.IsNamed ∧ insertion.columns.length ≤ insertion.maxParams ∧
        (∀ r ∈ records, ∃ values, m.values r = .ok values) ∧
        ∀ (i : Nat) r, records[i]? = some r →
          ∃ r', m.setKey r (Int64.ofInt (db.table.lastId + 1 + i)) = .ok r') := by
  intro batch insertion
  refine ⟨?_, result_generated_iff hm hd hf hauto mappings hlayout hordered hnull hroom⟩
  cases hresult : batch.result with
  | ok =>
    exact .inl ⟨rfl, isStoredAs_generated hm hd hf hauto mappings hlayout hfields hordered hnull
      hresult⟩
  | error e => exact .inr ⟨⟨e, rfl⟩, Database.table_insertRecords_failed (by rw [hresult]; nofun)⟩
  | overflow =>
    exact absurd hresult (result_ne_overflow hm hd hf hauto mappings hlayout hordered hnull)

end

/-- A thousand records, for which three statements are needed. -/
theorem keys_generated_of_thousand :
    let db : Database := { table := {
      layout := .ofModel (cityMapping.model kindOfField id)
      rows := [⟨41, [.integer 41, .text "a"]⟩] } }
    let records : List Record := List.replicate 1000 [.absent, .text "b"]
    let batch := db.insertRecords (recordType [cityMapping] cityMapping) records
    batch.result = .ok ∧ ∃ stored : List Row,
      batch.database.table = { db.table with rows := db.table.rows ++ stored } ∧
      stored.length = 1000 ∧ batch.records.length = 1000 ∧
      ∀ (i : Nat) r r' row, records[i]? = some r → batch.records[i]? = some r' →
        stored[i]? = some row →
        row.id.toInt = 41 + 1 + i ∧ IsStoredAs cityMapping cityKey r r' row := by
  intro db records batch
  have hrecord : ∀ r ∈ records, r = [.absent, .text "b"] := fun r => List.eq_of_mem_replicate
  have hlength : records.length = 1000 := List.length_replicate
  have hlast : db.table.lastId = 41 := by decide
  -- From here on it only matters that there are a thousand of them.
  clear_value records
  have hlayout : db.table.layout = .ofModel (cityMapping.model kindOfField id) := rfl
  have hordered : db.table.IsOrdered := List.pairwise_singleton _ _
  have hfields : ∀ r ∈ records, r.length = city.fields.length := fun r hr => hrecord r hr ▸ rfl
  have hnull : ∀ r ∈ records, cityMapping.key r = .ok .null := fun r hr => hrecord r hr ▸ rfl
  have hroom : db.table.lastId + records.length ≤ Int64.maxValue.toInt := by
    rw [hlast, hlength]
    decide
  obtain ⟨hcases, hresult⟩ := keys_generated map_city isWorded_city (f := cityKey) rfl rfl
    [cityMapping] hlayout hfields hordered hnull hroom
  have hok : batch.result = .ok := by
    refine hresult.mpr (.inr ⟨⟨by decide, by decide⟩, by decide, fun r hr => ?_, fun i r hr => ?_⟩)
    · rw [hrecord r hr]
      exact ⟨_, rfl⟩
    · rw [hrecord r (List.mem_of_getElem? hr)]
      exact ⟨_, setKey_city .absent "b" _⟩
  rw [hlast, hlength] at hcases
  rcases hcases with hstored | ⟨⟨e, he⟩, -⟩
  · exact hstored
  · rw [hok] at he
    cases he

end SqlCompose.Derive
