import SqlCompose.Proofs.Derive.Records
import SqlCompose.Proofs.Store.Batches

/-! The records of a declared type after they have been inserted, and the rows that hold them. The
keys of the records are the ids of their rows exactly if the ids of each statement are consecutive.
Records that bring keys along can break this. -/

namespace SqlCompose.Derive

open Mapping

/-- The row of a record, and the record afterwards: it has the row id as its key, its values are
those in the row, and its other fields are the same as before. -/
structure IsStoredAs (m : MemberMapping) (f : MappedField (Option ScalarType) Nat) (r r' : Record)
    (row : Row) : Prop where
  key : m.key r' = .ok (.integer row.id)
  cells : ∃ values, m.values r' = .ok values ∧ row.cells = values.map Value.bound
  length : r'.length = r.length
  unchanged : ∀ j ≠ f.position, r'[j]? = r[j]?

section

variable {d : FamilyMember} {m : MemberMapping} (hm : m.IsOf d)
  {f : MappedField (Option ScalarType) Nat} (hf : m.keyField? = some f)

include hm hf

/-- The column of the key field. -/
theorem exists_keyPlace :
    ∃ i : Nat, m.storedFields[i]? = some f ∧
      (m.model kindOfField id).columnNames[i]? = some f.column := by
  obtain ⟨i, hi, hplace⟩ := List.mem_iff_getElem.mp (hm.keyField_stored hf)
  have hfield : m.storedFields[i]? = some f := by rw [List.getElem?_eq_getElem hi, hplace]
  refine ⟨i, hfield, ?_⟩
  rw [columnNames_model, List.getElem?_map, hfield]
  rfl

theorem columnNames_ne_nil : (m.model kindOfField id).columnNames ≠ [] := by
  obtain ⟨i, -, hcolumn⟩ := exists_keyPlace hm hf
  exact List.ne_nil_of_mem (List.mem_of_getElem? hcolumn)

/-- The value of the key among the values of a record. -/
theorem key_of_values {r : Record} {values : List Value} (hvalues : m.values r = .ok values) :
    ∃ (i : Nat) (v : Value), m.storedFields[i]? = some f ∧ values[i]? = some v ∧
      m.key r = .ok v := by
  obtain ⟨i, hfield, -⟩ := exists_keyPlace hm hf
  obtain ⟨v, hv, hscalar⟩ := mapM_getElem hvalues hfield
  exact ⟨i, v, hfield, hv, (key_eq hf r).trans hscalar⟩

theorem keyPosition_lt {r : Record} (hr : r.length = d.fields.length) : f.position < r.length :=
  hr ▸ hm.position_lt (List.mem_of_find?_eq_some hf)

/-- The cell of the key column. -/
theorem cell_key {r : Record} {values : List Value} (hvalues : m.values r = .ok values) {v : Value}
    (hkey : m.key r = .ok v) :
    (Layout.ofModel (m.model kindOfField id)).cell (values.map Value.bound) f.column = v.bound := by
  obtain ⟨i, hfield, hcolumn⟩ := exists_keyPlace hm hf
  obtain ⟨w, hw, hscalar⟩ := mapM_getElem hvalues hfield
  rw [key_eq hf, hscalar] at hkey
  cases hkey
  refine Layout.cell_of_getElem (hm.nodup_columnNames kindOfField id) hcolumn ?_
  rw [List.getElem?_map, hw]
  rfl

/-- A record that has taken the id of its row. -/
theorem isStoredAs_of_setKey (hauto : f.key = some .autoIncrement) {r r' : Record}
    (hr : r.length = d.fields.length) {values : List Value} (hvalues : m.values r = .ok values)
    {row : Row}
    (hrow : row = (Layout.ofModel (m.model kindOfField id)).row (values.map Value.bound) row.id)
    (hset : m.setKey r row.id = .ok r') : IsStoredAs m f r r' row := by
  have hlt := keyPosition_lt hm hf hr
  obtain ⟨i, hfield, hcolumn⟩ := exists_keyPlace hm hf
  refine ⟨key_setKey hf hset hlt, ⟨_, values_setKey hf hset hm hlt hfield hvalues, ?_⟩,
    length_setKey hf hset, fun j hj => getElem_setKey hf hset hj⟩
  have hcells : row.cells = (Layout.ofModel (m.model kindOfField id)).setCell
      (values.map Value.bound) f.column (.integer row.id) := by
    rw [hrow, Layout.row, layout_key kindOfField id hf hauto]
  have hlength : (values.map Value.bound).length = (m.model kindOfField id).columnNames.length := by
    rw [List.length_map, length_values hvalues]
  rw [hcells, Layout.setCell_eq_set (hm.nodup_columnNames kindOfField id) hlength hcolumn,
    List.map_set]
  rfl

omit hm in
/-- The key column of a table that is laid out for the model. -/
theorem key_of_layout (hauto : f.key = some .autoIncrement) {t : Table}
    (hlayout : t.layout = .ofModel (m.model kindOfField id)) :
    t.layout.key = some (f.column, .autoIncrement) := by
  rw [hlayout, layout_key kindOfField id hf hauto]

end

/-! ### Rows of several statements -/

/-- The rows that the statements for some records have stored, statement by statement. -/
structure StoredRows (m : MemberMapping) (t : Table) (records : List Record)
    (stored : List (List Row)) (t' : Table) : Prop where
  statements : ∃ size, (Insertion.ofModel (m.model kindOfField id)).rowsPerStatement = .ok size ∧
    List.Forall₂ (fun chunk rows => rows.length = chunk.length) (chunks size records) stored
  rows : ∃ values, records.mapM m.values = .ok values ∧
    t.Stores (values.map (·.map Value.bound)) stored.flatten t'

theorem StoredRows.length_eq {m : MemberMapping} {t t' : Table} {records : List Record}
    {stored : List (List Row)} (h : StoredRows m t records stored t') :
    stored.flatten.length = records.length := by
  obtain ⟨values, hvalues, hstores⟩ := h.rows
  rw [hstores.length_eq, List.length_map, length_mapM_ok hvalues]

/-- The row of a record has the id that its key stands for, if it brought one along. -/
theorem StoredRows.getElem {m : MemberMapping} {t t' : Table} {records : List Record}
    {stored : List (List Row)} (h : StoredRows m t records stored t') {i : Nat} {r : Record}
    (hr : records[i]? = some r) {row : Row} (hrow : stored.flatten[i]? = some row) :
    ∃ values, m.values r = .ok values ∧ row = t.layout.row (values.map Value.bound) row.id ∧
      ∀ column, t.layout.key = some (column, .autoIncrement) →
        t.layout.cell (values.map Value.bound) column ≠ .null →
        (t.layout.cell (values.map Value.bound) column).rowId? = some row.id := by
  obtain ⟨values, hvalues, hstores⟩ := h.rows
  obtain ⟨cells, hcells, hrest⟩ := hstores.getElem hrow
  obtain ⟨row', hrow', hr⟩ := mapM_getElem hvalues hr
  rw [List.getElem?_map, hrow'] at hcells
  cases hcells
  exact ⟨row', hr, hrest⟩

section

variable {t : Target} {d : FamilyMember} {m : MemberMapping} (hm : d.map t = .ok m)
  (hd : d.IsWorded) {f : MappedField (Option ScalarType) Nat} (hf : m.keyField? = some f)
  (hauto : f.key = some .autoIncrement) (mappings : List MemberMapping) {db : Database}
  (hlayout : db.table.layout = .ofModel (m.model kindOfField id)) {records : List Record}

include hm hd hf hauto hlayout

/-- The rows that an insertion has stored, and the keys that the records have taken. -/
theorem storedRows_of_insertRecords (hrecords : records ≠ [])
    (h : (db.insertRecords (recordType mappings m) records).result = .ok) :
    let batch := db.insertRecords (recordType mappings m) records
    (Insertion.ofModel (m.model kindOfField id)).IsNamed ∧ ∃ stored keys,
      StoredRows m db.table records stored batch.database.table ∧
      List.Forall₂ Resolves (stored.map (List.map Row.id)) keys ∧
      (recordType mappings m).TakeKeys records keys.flatten batch.records := by
  have hof := Declaration.map_ok hm
  obtain ⟨hnamed, values, size, stored, keys, hvalues, hsize, hlengths, hstores, hkeys⟩ :=
    Database.stores_of_insertRecords (T := recordType mappings m) hlayout
      (hof.hasWords kindOfField id hd) (hof.nodup_columnNames kindOfField id)
      (hasGeneratedKey mappings hf hauto) hrecords h
  exact ⟨hnamed, stored, keys, ⟨⟨size, hsize, hlengths⟩, values, hvalues, hstores⟩, hkeys⟩

variable (hfields : ∀ r ∈ records, r.length = d.fields.length)

include hfields

/-- After an insertion, every record has the key of its row, and the key that it may have brought
along, exactly if the row ids of each statement are consecutive. -/
theorem keys_correct_iff (hrecords : records ≠ [])
    (h : (db.insertRecords (recordType mappings m) records).result = .ok) :
    let batch := db.insertRecords (recordType mappings m) records
    ∃ stored, StoredRows m db.table records stored batch.database.table ∧
      ((∀ (i : Nat) r r' row, records[i]? = some r → batch.records[i]? = some r' →
          stored.flatten[i]? = some row →
          (∀ key, m.key r = .ok (.integer key) → m.key r' = .ok (.integer key)) ∧
            m.key r' = .ok (.integer row.id)) ↔
        ∀ rows ∈ stored, AreConsecutive (rows.map (·.id))) := by
  intro batch
  have hof := Declaration.map_ok hm
  obtain ⟨-, stored, keys, hstored, hresolves, hkeys⟩ :=
    storedRows_of_insertRecords hm hd hf hauto mappings hlayout hrecords h
  refine ⟨stored, hstored, ?_⟩
  have hids : (stored.map (List.map Row.id)).flatten = stored.flatten.map Row.id :=
    List.map_flatten.symm
  have hlength : keys.flatten.length = records.length := by
    rw [length_flatten_of_resolves hresolves, hids, List.length_map, hstored.length_eq]
  have htaken {i : Nat} {r r' : Record} {key : Int64} (hr : records[i]? = some r)
      (hr' : batch.records[i]? = some r')
      (hkey : keys.flatten[i]? = some key) :
      m.key r' = .ok (.integer key) :=
    key_setKey hf (hkeys.setKey_getElem hr hr' hkey)
      (keyPosition_lt hof hf (hfields r (List.mem_of_getElem? hr)))
  rw [← List.forall_mem_map (f := List.map Row.id) (P := AreConsecutive),
    ← flatten_eq_iff_of_resolves hresolves, hids]
  constructor
  · intro hall
    apply List.ext_getElem
    · rw [hlength, List.length_map, hstored.length_eq]
    · intro i hi hi'
      have hrow : i < stored.flatten.length := by rwa [List.length_map] at hi'
      have hr : i < records.length := hstored.length_eq ▸ hrow
      have hr' : i < batch.records.length := hkeys.length_eq ▸ hr
      have hkey := htaken (List.getElem?_eq_getElem hr) (List.getElem?_eq_getElem hr')
        (List.getElem?_eq_getElem hi)
      rw [(hall i _ _ _ (List.getElem?_eq_getElem hr) (List.getElem?_eq_getElem hr')
        (List.getElem?_eq_getElem hrow)).2] at hkey
      rw [List.getElem_map]
      exact (Value.integer.inj (Except.ok.inj hkey)).symm
  · intro heq i r r' row hr hr' hrow
    have hkey : m.key r' = .ok (.integer row.id) := by
      refine htaken hr hr' ?_
      rw [heq, List.getElem?_map, hrow]
      rfl
    refine ⟨fun key hbrought => ?_, hkey⟩
    obtain ⟨values, hvalues, -, hgiven⟩ := hstored.getElem hr hrow
    rw [hlayout] at hgiven
    have hcell := cell_key hof hf hvalues hbrought
    have hid := hgiven f.column (layout_key kindOfField id hf hauto) (by rw [hcell]; nofun)
    rw [hcell] at hid
    rw [hkey, ← Option.some.inj hid]

end

/-- A record with a key before one without. Their rows have the ids 10 and 11, and so the keys are
right. -/
theorem keys_correct_of_first :
    let db := Database.ofModel (cityMapping.model kindOfField id)
    let records : List Record := [[.present (.signed 10), .text "a"], [.absent, .text "b"]]
    let batch := db.insertRecords (recordType [cityMapping] cityMapping) records
    batch.result = .ok ∧
      batch.records.map cityMapping.key = [.ok (.integer 10), .ok (.integer 11)] ∧
      ∃ stored, StoredRows cityMapping db.table records stored batch.database.table ∧
        ((∀ (i : Nat) r r' row, records[i]? = some r → batch.records[i]? = some r' →
            stored.flatten[i]? = some row →
            (∀ key, cityMapping.key r = .ok (.integer key) →
              cityMapping.key r' = .ok (.integer key)) ∧
              cityMapping.key r' = .ok (.integer row.id)) ↔
          ∀ rows ∈ stored, AreConsecutive (rows.map (·.id))) := by
  intro db records
  have hok : (db.insertRecords (recordType [cityMapping] cityMapping) records).result = .ok := by
    decide +kernel
  have hlayout : db.table.layout = .ofModel (cityMapping.model kindOfField id) := rfl
  have hfields : ∀ r ∈ records, r.length = city.fields.length := by decide
  have hne : records ≠ [] := List.cons_ne_nil _ _
  have hiff := keys_correct_iff map_city isWorded_city (f := cityKey) rfl rfl [cityMapping] hlayout
    hfields hne hok
  dsimp only at hiff ⊢
  exact ⟨hok, by decide +kernel, hiff⟩

/-- Two records with keys and one without. The rows have the ids 10, 3 and 11, but the keys are
counted back from the last of them. -/
theorem brought_keys_lost :
    let db := Database.ofModel (cityMapping.model kindOfField id)
    let records : List Record := [[.present (.signed 10), .text "a"],
      [.present (.signed 3), .text "b"], [.absent, .text "c"]]
    let batch := db.insertRecords (recordType [cityMapping] cityMapping) records
    batch.result = .ok ∧
      records.map cityMapping.key = [.ok (.integer 10), .ok (.integer 3), .ok .null] ∧
      batch.records.map cityMapping.key =
        [.ok (.integer 9), .ok (.integer 10), .ok (.integer 11)] ∧
      batch.database.dump =
        [[.integer 3, .text "b"], [.integer 10, .text "a"], [.integer 11, .text "c"]] := by
  decide +kernel

end SqlCompose.Derive
