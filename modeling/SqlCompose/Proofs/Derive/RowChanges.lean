import SqlCompose.Proofs.Derive.TypedRecords
import SqlCompose.Proofs.Insertion.Generated
import SqlCompose.Proofs.Insertion.Transactions

/-! What updating and deleting a record does to a table that operations on records and statements
have led to. It concerns the row with the key of the record, if there is one, and no other row. A
record that was inserted without a key owns its row from then on. -/

namespace SqlCompose

namespace Derive

open Mapping

/-! ### Reachable tables -/

/-- The databases that operations on records of a mapping, and fragments that are executed or
queried, lead to from the empty one. -/
inductive Reachable (mappings : List MemberMapping) (m : MemberMapping) : Database → Prop
  | empty : Reachable mappings m (.ofModel (m.model kindOfField id))
  | insertRecords {db : Database} (h : Reachable mappings m db) (records : List Record) :
      Reachable mappings m (db.insertRecords (recordType mappings m) records).database
  | commit {db : Database} (h : Reachable mappings m db) (recordss : List (List Record)) :
      Reachable mappings m
        ((Transaction.start db).insertBatches (recordType mappings m) recordss).2.commit
  | rollback {db : Database} (h : Reachable mappings m db) (recordss : List (List Record)) :
      Reachable mappings m
        ((Transaction.start db).insertBatches (recordType mappings m) recordss).2.rollback
  | updateRecord {db : Database} (h : Reachable mappings m db) (r : Record) :
      Reachable mappings m (db.updateRecord (recordType mappings m) r).2
  | deleteRecord {db : Database} (h : Reachable mappings m db) (r : Record) :
      Reachable mappings m (db.deleteRecord (recordType mappings m) r).2
  | deleteKeys {db : Database} (h : Reachable mappings m db) (keys : List Scalar) :
      Reachable mappings m (db.deleteKeys (recordType mappings m) keys).2
  | execute {db : Database} (h : Reachable mappings m db) (f : Fragment) :
      Reachable mappings m (db.execute f).2
  | query {db : Database} (h : Reachable mappings m db) (f : Fragment) :
      Reachable mappings m (db.query f).2

/-- The table of the records of a mapping, whose rows are told apart by the key field. -/
structure Mapping.KeysTable (m : MemberMapping) (f : MappedField (Option ScalarType) Nat)
    (t : Table) : Prop where
  layout : t.layout = .ofModel (m.model kindOfField id)
  keyed : t.IsKeyed f.column

section

variable {t : Target} {d : FamilyMember} {m : MemberMapping} (hm : m.IsOf d) (hnamed : m.IsNamed)
  {f : MappedField (Option ScalarType) Nat} (hf : m.keyField? = some f)
  (mappings : List MemberMapping) {db : Database}

include hm hnamed hf

theorem exists_isKeyedBy :
    ∃ origin, f.key = some origin ∧
      (m.model kindOfField id).IsKeyedBy (f.storedColumn kindOfField) origin := by
  have hisKey : f.key.isSome = true := (List.find?_eq_some_iff_append.mp hf).1
  obtain ⟨origin, horigin⟩ := Option.isSome_iff_exists.mp hisKey
  exact ⟨origin, horigin, hm.isKeyedBy hnamed hf horigin⟩

omit hnamed in
/-- The key of a record has the place of the key column among its values. -/
theorem value_of_keyColumn {r : Record} {v : Value} (hkey : m.key r = .ok v) {values : List Value}
    (hvalues : m.values r = .ok values) {i : Nat}
    (hi : (m.model kindOfField id).storedColumns[i]? = some (f.storedColumn kindOfField)) :
    values[i]? = some v := by
  rw [storedColumns_model, List.getElem?_map] at hi
  obtain ⟨g, hg, hcolumn⟩ := Option.map_eq_some_iff.mp hi
  have hisKey : g.key.isSome = true := by
    have hsame : g.key = f.key := congrArg Column.key hcolumn
    rw [hsame]
    exact (List.find?_eq_some_iff_append.mp hf).1
  have hfield := hm.keyField_eq (List.mem_filter.mp (List.mem_of_getElem? hg)).1 hisKey
  obtain rfl : g = f := Option.some.inj (hfield.symm.trans hf)
  obtain ⟨w, hw, hscalar⟩ := mapM_getElem hvalues hg
  rw [key_eq hf, hscalar] at hkey
  rwa [← Except.ok.inj hkey]

/-- In a table with its keys, a record concerns the rows that have its key. -/
theorem changesOnly_of_keysTable (hdb : m.KeysTable f db.table) {r : Record} {v : Value}
    (hkey : m.key r = .ok v)
    (hnumeric : f.key = some .autoIncrement → v.bound.numeric = v.bound) :
    ChangesOnly (recordType mappings m) db r
      (db.table.rows.filter (db.table.layout.hasKey v)) := by
  obtain ⟨origin, horigin, hmodel⟩ := exists_isKeyedBy hm hnamed hf
  refine changesOnly_hasKey (T := recordType mappings m) hmodel hdb.layout hkey
    (fun hauto => hnumeric (hauto ▸ horigin)) hdb.keyed fun values hvalues => ?_
  exact ⟨length_values hvalues, fun i hi => value_of_keyColumn hm hf hkey hvalues hi⟩

theorem keysTable_execute (hdb : m.KeysTable f db.table) (fragment : Fragment) :
    m.KeysTable f (db.execute fragment).2.table ∧ m.KeysTable f (db.query fragment).2.table := by
  obtain ⟨origin, -, hmodel⟩ := exists_isKeyedBy hm hnamed hf
  have hl : db.table.layout.IsKeyedBy f.column origin := hdb.layout ▸ hmodel.layout
  obtain ⟨⟨hlayout, hkeyed⟩, hlayout', hkeyed'⟩ := Database.isKeyed_execute hdb.keyed hl fragment
  exact ⟨⟨hlayout.trans hdb.layout, hkeyed⟩, hlayout'.trans hdb.layout, hkeyed'⟩

theorem keysTable_executeCompiled (hdb : m.KeysTable f db.table)
    (compiled : Except Error Fragment) :
    m.KeysTable f (db.executeCompiled compiled).2.table := by
  cases compiled with
  | error e => exact hdb
  | ok fragment => exact (keysTable_execute hm hnamed hf hdb fragment).1

theorem keysTable_storesRecords {t t' : Table} (ht : m.KeysTable f t) {records : List Record}
    (hstores : (recordType mappings m).StoresRecords t records t') : m.KeysTable f t' := by
  obtain ⟨origin, -, hmodel⟩ := exists_isKeyedBy hm hnamed hf
  have hl : t.layout.IsKeyedBy f.column origin := ht.layout ▸ hmodel.layout
  obtain ⟨values, stored, hvalues, hstored⟩ := hstores
  refine ⟨hstored.layout_eq.trans ht.layout, ht.keyed.stores hstored hl ?_⟩
  refine List.forall_mem_map.mpr fun row hrow => ?_
  obtain ⟨r, -, hr⟩ := mem_mapM_ok hvalues row hrow
  rw [List.length_map, length_values hr, ht.layout]
  rfl

/-- What a batch leaves in a transaction. -/
theorem keysTable_insertRecords {transaction : Transaction}
    (hcurrent : m.KeysTable f transaction.current.table) (records : List Record) :
    m.KeysTable f (transaction.insertRecords (recordType mappings m) records).database.table := by
  obtain ⟨origin, -, hmodel⟩ := exists_isKeyedBy hm hnamed hf
  obtain ⟨k, hbatch⟩ := Transaction.exists_hasStored (T := recordType mappings m) (t := transaction)
    hmodel.hasWords hmodel.nodup hcurrent.layout records
  exact keysTable_storesRecords hm hnamed hf mappings hcurrent hbatch.rows

theorem keysTable_insertBatches {transaction : Transaction}
    (hcurrent : m.KeysTable f transaction.current.table) (recordss : List (List Record)) :
    m.KeysTable f
      (transaction.insertBatches (recordType mappings m) recordss).2.current.table := by
  obtain ⟨origin, -, hmodel⟩ := exists_isKeyedBy hm hnamed hf
  obtain ⟨counts, hcounts⟩ := Transaction.exists_haveStored (T := recordType mappings m)
    hmodel.hasWords hmodel.nodup hcurrent.layout recordss
  exact keysTable_storesRecords hm hnamed hf mappings hcurrent hcounts.kept

/-- All reachable tables have their keys. -/
theorem Reachable.keysTable {db : Database} (h : Reachable mappings m db) :
    m.KeysTable f db.table := by
  induction h with
  | empty => exact ⟨rfl, Table.isKeyed_empty _ _⟩
  | @insertRecords db _ records ih =>
    have hstart : m.KeysTable f (Transaction.start db).current.table := ih
    by_cases hresult : (db.insertRecords (recordType mappings m) records).result = .ok
    · rw [Database.result_insertRecords] at hresult
      rw [Database.database_insertRecords_ok hresult]
      exact keysTable_insertRecords hm hnamed hf mappings hstart records
    · rw [Database.table_insertRecords_failed hresult]
      exact ih
  | @commit db _ recordss ih =>
    have hstart : m.KeysTable f (Transaction.start db).current.table := ih
    exact keysTable_insertBatches hm hnamed hf mappings hstart recordss
  | rollback _ recordss ih =>
    rw [Transaction.rollback, Transaction.before_insertBatches]
    exact ih
  | updateRecord _ r ih => exact keysTable_executeCompiled hm hnamed hf ih _
  | deleteRecord _ r ih => exact keysTable_executeCompiled hm hnamed hf ih _
  | deleteKeys _ keys ih => exact keysTable_executeCompiled hm hnamed hf ih _
  | execute _ f ih => exact (keysTable_execute hm hnamed hf ih f).1
  | query _ f ih => exact (keysTable_execute hm hnamed hf ih f).2

/-! ### Changes -/

/-- Without keys, no records are inserted where keys have to be assigned. -/
theorem eq_nil_of_assigned (hdb : m.KeysTable f db.table) (hassigned : f.key = some .assigned)
    {records : List Record} (hnull : ∀ r ∈ records, m.key r = .ok .null)
    (h : (db.insertRecords (recordType mappings m) records).result = .ok) : records = [] := by
  by_contra hrecords
  obtain ⟨origin, horigin, hmodel⟩ := exists_isKeyedBy hm hnamed hf
  obtain rfl : origin = .assigned := Option.some.inj (horigin.symm.trans hassigned)
  have hl : db.table.layout.IsKeyedBy f.column .assigned := hdb.layout ▸ hmodel.layout
  rw [Database.result_insertRecords] at h
  obtain ⟨k, hbatch⟩ := Transaction.exists_hasStored (T := recordType mappings m)
    (t := Transaction.start db) hmodel.hasWords hmodel.nodup hdb.layout records
  cases hcompile : (Insertion.ofModel (recordType mappings m).model).compileRecords
      (recordType mappings m) records with
  | error e =>
    rw [Transaction.insertRecords_uncompiled hrecords hcompile] at h
    cases h
  | ok statements =>
    obtain ⟨rows, size, -, hsize, -, -⟩ := Insertion.compileRecords_ok hcompile
    obtain ⟨values, stored, hvalues, hstored⟩ := hbatch.all h hsize
    obtain ⟨r, rest, rfl⟩ := List.exists_cons_of_ne_nil hrecords
    obtain ⟨row, rows, hrow, -, rfl⟩ := mapM_cons_ok hvalues
    -- The first row is refused already.
    cases hstored with
    | cons hid _ =>
      have hcell : db.table.layout.cell (row.map Value.bound) f.column = .null := by
        rw [hdb.layout, cell_key hm hf hrow (hnull r List.mem_cons_self)]
        rfl
      exact Table.ne_null_of_rowIdFor hl.key hid hcell

/-- The row that has the id of a record as its key. -/
theorem filter_hasKey_eq_singleton (hdb : m.KeysTable f db.table)
    (hauto : f.key = some .autoIncrement) {row : Row} (hrow : row ∈ db.table.rows) :
    db.table.rows.filter (db.table.layout.hasKey (.integer row.id)) = [row] := by
  obtain ⟨origin, horigin, hmodel⟩ := exists_isKeyedBy hm hnamed hf
  obtain rfl : origin = .autoIncrement := Option.some.inj (horigin.symm.trans hauto)
  have hl : db.table.layout.IsKeyedBy f.column .autoIncrement := hdb.layout ▸ hmodel.layout
  have hcell := hdb.keyed.ids ((Table.isRowId_iff hl).mpr rfl) row hrow
  have hkey : db.table.layout.hasKey (.integer row.id) row = true := by
    rw [Table.hasKey_eq hl, hcell, Value.sameKey_integer]
  have hmem : row ∈ db.table.rows.filter (db.table.layout.hasKey (.integer row.id)) :=
    List.mem_filter.mpr ⟨hrow, hkey⟩
  have hle := hdb.keyed.length_hasKey_le hl (.integer row.id)
  obtain ⟨other, hone⟩ := List.length_eq_one_iff.mp
    (Nat.le_antisymm hle (List.length_pos_of_mem hmem))
  rw [hone, List.mem_singleton] at hmem
  rw [hone, hmem]

end

/-- In every reachable table at most one row has the key of a record, and none has a NULL key.
Updating and deleting the record concerns exactly this row. Records that are inserted without keys
concern the rows that have been stored for them. -/
theorem changes_own_row {t : Target} {d : FamilyMember} {m : MemberMapping} (hm : d.map t = .ok m)
    (hd : d.IsWorded) (hnamed : m.IsNamed) {f : MappedField (Option ScalarType) Nat}
    (hf : m.keyField? = some f) (htakes : f.TakesKeys) {mappings : List MemberMapping} {db : Database}
    (hdb : Reachable mappings m db) :
    let T := recordType mappings m
    (∀ r v, d.HasRecord r → m.key r = .ok v →
      let own := db.table.rows.filter (db.table.layout.hasKey v)
      own.length ≤ 1 ∧ (v = .null → own = []) ∧ ChangesOnly T db r own) ∧
    ∀ records : List Record, (∀ r ∈ records, d.HasRecord r ∧ m.key r = .ok .null) →
      let batch := db.insertRecords T records
      batch.result = .ok → ∃ stored : List Row,
        batch.database.table = { db.table with rows := db.table.rows ++ stored } ∧
        stored.length = records.length ∧ batch.records.length = records.length ∧
        ∀ (i : Nat) r r' row, records[i]? = some r → batch.records[i]? = some r' →
          stored[i]? = some row → IsStoredAs m f r r' row ∧ ChangesOnly T batch.database r' [row] := by
  intro T
  have hof := Declaration.map_ok hm
  have hkeys := hdb.keysTable hof hnamed hf
  obtain ⟨origin, horigin, hmodel⟩ := exists_isKeyedBy hof hnamed hf
  have hl : db.table.layout.IsKeyedBy f.column origin := hkeys.layout ▸ hmodel.layout
  refine ⟨fun r v hr hkey => ⟨hkeys.keyed.length_hasKey_le hl v, ?_, ?_⟩, ?_⟩
  · rintro rfl
    exact Table.filter_hasKey_null hl
  · exact changesOnly_of_keysTable hof hnamed hf mappings hkeys hkey
      (numeric_key hof hr hf hkey htakes)
  · intro records hrecords batch hok
    have hnull : ∀ r ∈ records, m.key r = .ok .null := fun r hr => (hrecords r hr).2
    cases origin with
    | assigned =>
      obtain rfl := eq_nil_of_assigned hof hnamed hf mappings hkeys horigin hnull hok
      exact ⟨[], by simp [batch, Database.insertRecords_nil], rfl, rfl,
        fun i r r' row hr => by cases hr⟩
    | autoIncrement =>
      have hfields : ∀ r ∈ records, r.length = d.fields.length :=
        fun r hr => (hrecords r hr).1.length_eq
      obtain ⟨stored, htable, hlength, hlength', hrows⟩ := isStoredAs_generated hm hd hf horigin
        mappings hkeys.layout hfields hkeys.keyed.ordered hnull hok
      have hbatch := (hdb.insertRecords records).keysTable hof hnamed hf
      refine ⟨stored, htable, hlength, hlength', fun i r r' row hr hr' hrow => ?_⟩
      have hstored := (hrows i r r' row hr hr' hrow).2
      have hmem : row ∈ batch.database.table.rows := by
        rw [htable]
        exact List.mem_append_right _ (List.mem_of_getElem? hrow)
      have hchanges := changesOnly_of_keysTable hof hnamed hf mappings hbatch hstored.key
        fun _ => rfl
      rw [filter_hasKey_eq_singleton hof hnamed hf hbatch horigin hmem] at hchanges
      exact ⟨hstored, hchanges⟩

/-- Of two cities the first is deleted and a third one inserted. Each of the other two owns its row,
and the first one no row any more. -/
theorem changes_own_row_of_cities :
    let T := recordType [cityMapping] cityMapping
    let start := Database.ofModel (cityMapping.model kindOfField id)
    let both := start.insertRecords T [[.absent, .text "Paris"], [.absent, .text "Oslo"]]
    let db := (both.database.deleteKeys T [.signed 1]).2
    let batch := db.insertRecords T [[.absent, .text "Rome"]]
    ChangesOnly T db [.present (.signed 1), .text "Lyon"] [] ∧
      ChangesOnly T db [.present (.signed 2), .text "Bergen"] [⟨2, [.integer 2, .text "Oslo"]⟩] ∧
      batch.records.map cityMapping.key = [.ok (.integer 3)] ∧
      ∀ r ∈ batch.records,
        ChangesOnly T batch.database r [⟨3, [.integer 3, .text "Rome"]⟩] := by
  intro T start both db batch
  have hcity (s : Scalar) (name : String) (hs : s.IsOf (.optional (.integer .int64))) :
      city.HasRecord [s, .text name] := .cons hs (.cons (.text name) .nil)
  have hkey (n : Int64) (hn : IntegerType.int64.check n.toInt = .ok n.toInt) (name : String) :
      city.HasRecord [.present (.signed n), .text name] := hcity _ name (.present (.signed rfl hn))
  have hnew (name : String) : city.HasRecord [.absent, .text name] := hcity _ name (.absent _)
  have hnamed : cityMapping.IsNamed := ⟨by decide, by decide⟩
  have htakes : cityKey.TakesKeys := fun _ t ht => by cases ht; rfl
  have hboth : Reachable [cityMapping] cityMapping both.database := .insertRecords .empty _
  have hnone : db.table.rows.filter (db.table.layout.hasKey (.integer 1)) = [] := by
    decide +kernel
  have hone : db.table.rows.filter (db.table.layout.hasKey (.integer 2)) =
      [⟨2, [.integer 2, .text "Oslo"]⟩] := by decide +kernel
  have hok : batch.result = .ok := by decide +kernel
  have hrows : batch.database.table.rows =
      db.table.rows ++ [⟨3, [.integer 3, .text "Rome"]⟩] := by decide +kernel
  have hkeys : batch.records.map cityMapping.key = [.ok (.integer 3)] := by decide +kernel
  -- From here on the tables are known by these rows alone.
  have hdb : Reachable [cityMapping] cityMapping db := hboth.deleteKeys [.signed 1]
  clear_value db
  obtain ⟨hchanges, hinserts⟩ := changes_own_row (d := city) map_city isWorded_city hnamed (f := cityKey)
    rfl htakes hdb
  have hlyon := (hchanges _ (.integer 1) (hkey 1 (by decide) "Lyon") rfl).2.2
  have hbergen := (hchanges _ (.integer 2) (hkey 2 (by decide) "Bergen") rfl).2.2
  obtain ⟨stored, htable, -, hlength, hown⟩ := hinserts [[.absent, .text "Rome"]]
    (List.forall_mem_singleton.mpr ⟨hnew _, rfl⟩) hok
  obtain rfl : stored = [⟨3, [.integer 3, .text "Rome"]⟩] :=
    List.append_cancel_left ((congrArg Table.rows htable).symm.trans hrows)
  refine ⟨hnone ▸ hlyon, hone ▸ hbergen, hkeys, fun r hr => ?_⟩
  obtain ⟨i, hi, rfl⟩ := List.mem_iff_getElem.mp hr
  obtain rfl : i = 0 := Nat.lt_one_iff.mp (hi.trans_eq hlength)
  exact (hown 0 _ _ _ rfl (List.getElem?_eq_getElem hi) rfl).2

end Derive

end SqlCompose
