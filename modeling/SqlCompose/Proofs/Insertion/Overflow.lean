import SqlCompose.Proofs.Insertion.Keys
import SqlCompose.Proofs.Keys.Outcomes
import SqlCompose.Proofs.Sql.Equality

/-! Overflow on the way to generated keys. They are counted back from the last row id, in integers
of 64 bits, and an overflow ends it all. A row id that the table has generated leaves room for this,
as all other rows have smaller ids; a key near the least integer, brought along by the last record,
does not. -/

namespace SqlCompose

/-! ### Counting back -/

variable {ω : Type} {O : OutcomeType ω} {o : ω} {n : Nat}

/-- The rows can be counted, but some number on the way to the keys is no integer of 64 bits. -/
def OutcomeType.Overflows (O : OutcomeType ω) (o : ω) (records : Nat) : Prop :=
  O.rowsAffected o ≤ Int64.maxValue.toInt ∧ ¬ O.KeysFit o records

section

variable (haffected : O.rowsAffected o = n) (hcount : n ≤ Int64.maxValue.toInt)

include haffected hcount

/-- The numbers fit if the keys do. -/
theorem keysFit_of_key
    (h : ∀ i : Nat, 1 ≤ i → i ≤ n → FitsKey ((O.lastRowId o).toInt - (n - i))) :
    O.KeysFit o n := by
  have hleast : Int64.minValue.toInt ≤ 0 := by decide
  refine ⟨?_, fun i hi hin => ?_, fun i hi hin => ?_, ?_⟩
  · exact ⟨by omega, by omega⟩
  · exact ⟨by omega, by omega⟩
  · exact ⟨by omega, by omega⟩
  · rwa [haffected]

/-- The first key is the least. -/
theorem keysFit_iff (hn : n ≠ 0) :
    O.KeysFit o n ↔ Int64.minValue.toInt + n ≤ (O.lastRowId o).toInt + 1 := by
  constructor
  · intro h
    have hfirst := (h.key 1 (Nat.le_refl 1) (by omega)).1
    omega
  · intro h
    have hlast := (fitsKey_toInt (O.lastRowId o)).2
    refine keysFit_of_key haffected hcount fun i hi hin => ⟨?_, ?_⟩
    · omega
    · omega

/-- Resolving the keys of some records overflows exactly if the number of some key does. The first
key is the first to do so. -/
theorem resolveKeys_overflow_iff {ρ : Type} {T : RecordType ρ} (hT : T.HasGeneratedKey)
    {records : List ρ} (hlength : records.length = n) (hn : n ≠ 0) :
    (resolveKeys O T o records).result = .overflow ↔ ¬ O.KeysFit o n := by
  constructor
  · intro hoverflow hfit
    obtain ⟨keys, -, -, ⟨hok, -⟩ | ⟨e, he, -⟩⟩ := resolveKeys_counted hT (hlength ▸ hfit)
    · cases hok.symm.trans hoverflow
    · cases he.symm.trans hoverflow
  · intro hfit
    rw [keysFit_iff haffected hcount hn] at hfit
    have hnone : generatedKey? (O.lastRowId o) (O.rowsAffected o) 1 = none := by
      refine Option.eq_none_iff_forall_ne_some.mpr fun key hkey => ?_
      have hleast := (fitsKey_toInt key).1
      rw [(generatedKey?_eq_some_iff.mp hkey).2.2, haffected] at hleast
      omega
    obtain ⟨r, rest, rfl⟩ := List.exists_cons_of_length_pos (hlength ▸ Nat.pos_of_ne_zero hn)
    rw [resolveKeys_generated hT (haffected ▸ hcount), setGeneratedKeys, hnone]

end

/-! ### The id of the last row -/

namespace Table

variable {t t' : Table}

/-- Rows in order take up as many ids, from the least integer on. -/
theorem IsOrdered.length_le (ht : t.IsOrdered) :
    Int64.minValue.toInt + t.rows.length ≤ t.lastId + 1 := by
  obtain ⟨layout, rows⟩ := t
  unfold IsOrdered at ht
  unfold lastId
  dsimp only at ht ⊢
  induction rows using List.reverseRecOn with
  | nil => decide
  | append_singleton rows r ih =>
    obtain ⟨hrows, -, hlt⟩ := List.pairwise_append.mp ht
    have hleast := (fitsKey_toInt r.id).1
    have hrest := ih hrows
    rw [List.getLast?_concat, Option.map_some, Option.getD_some, List.length_append,
      List.length_singleton]
    cases hlast : rows.getLast? with
    | none =>
      rw [List.getLast?_eq_none_iff.mp hlast, List.length_nil]
      omega
    | some s =>
      have hs := Int64.lt_iff_toInt_lt.mp
        (hlt s (List.mem_of_getLast? hlast) r List.mem_cons_self)
      rw [hlast, Option.map_some, Option.getD_some] at hrest
      omega

/-- The id of the last row is what the given key stands for, or else all other rows are below. -/
theorem Stores.last_cases {column : String} {rows : List (List Value)} {stored : List Row}
    (h : t.Stores rows stored t') (hkey : t.layout.key = some (column, .autoIncrement))
    (ht : t.IsOrdered) {cells : List Value} (hcells : rows.getLast? = some cells) {row : Row}
    (hrow : stored.getLast? = some row) :
    (t.layout.cell cells column).rowId? = some row.id ∨
      t.layout.cell cells column = .null ∧
        Int64.minValue.toInt + (t.rows.length + rows.length) ≤ row.id.toInt + 1 := by
  induction h with
  | nil => cases hcells
  | @cons t t' first rest id stored hid hrest ih =>
    by_cases hnil : rest = []
    · subst hnil
      cases hrest
      cases hcells
      cases hrow
      by_cases hnull : t.layout.cell first column = .null
      · have hlength := ht.length_le
        have hnext := toInt_nextRowId ((rowIdFor_null hkey hnull).symm.trans hid)
        refine .inr ⟨hnull, ?_⟩
        change _ ≤ id.toInt + 1
        rw [List.length_singleton]
        omega
      · exact .inl (rowId?_of_rowIdFor hkey hid hnull)
    · have hstored : stored ≠ [] := by
        rintro rfl
        exact hnil (List.eq_nil_of_length_eq_zero hrest.length_eq.symm)
      rw [List.getLast?_cons_of_ne_nil hnil] at hcells
      rw [List.getLast?_cons_of_ne_nil hstored] at hrow
      have hlength := (placeRow_perm (t.layout.row first id) t.rows).length_eq
      have hordered := ht.addRow (ht.permits hid)
      refine (ih hkey hordered hcells hrow).imp_right fun ⟨hcell, hle⟩ => ⟨hcell, ?_⟩
      simp only [addRow, hlength, List.length_cons] at hle ⊢
      omega

end Table

/-! ### Statements -/

/-- The key arithmetic after a statement overflows exactly if its last row was given a key that
stands for an id too near to the least integer for the number of rows. -/
theorem Database.overflows_iff_lastRow {db db' : Database} {m : Model}
    (hlayout : db.table.layout = .ofModel m) (hwords : (Insertion.ofModel m).HasWords)
    (hnodup : m.columnNames.Nodup) {column : String}
    (hkey : db.table.layout.key = some (column, .autoIncrement)) (ht : db.table.IsOrdered)
    {rows : List (List Value)} (hrows : rows ≠ []) (hcolumns : m.columnNames ≠ [])
    (hwidth : ∀ row ∈ rows, row.length = m.columnNames.length) {outcome : Outcome}
    (h : db.execute ((Insertion.ofModel m).statement rows) = (.ok outcome, db')) :
    outcome.rowsAffected = rows.length ∧
      (Outcome.recorded.Overflows outcome rows.length ↔
        rows.length ≤ Int64.maxValue.toInt ∧ ∃ row key, rows.getLast? = some row ∧
          (db.table.layout.cell (row.map Value.bound) column).rowId? = some key ∧
          key.toInt + 1 < Int64.minValue.toInt + rows.length) := by
  obtain ⟨-, stored, hstored, hlast, haffected⟩ :=
    stores_of_execute hlayout hwords hrows hcolumns hwidth hnodup h
  rw [hstored.length_eq, List.length_map] at haffected
  refine ⟨haffected, ?_⟩
  obtain ⟨before, row, rfl⟩ := rows.eq_nil_or_concat'.resolve_left hrows
  have hstoredRows : stored ≠ [] := by
    rintro rfl
    simpa using hstored.length_eq
  obtain ⟨storedBefore, storedRow, rfl⟩ := stored.eq_nil_or_concat'.resolve_left hstoredRows
  have hid : outcome.lastRowId = storedRow.id := by simp [hlast]
  have hlastRow : ((before ++ [row]).map (·.map Value.bound)).getLast? =
      some (row.map Value.bound) := by simp
  have hcases := hstored.last_cases hkey ht hlastRow List.getLast?_concat
  rw [List.length_map] at hcases
  have hne : (before ++ [row]).length ≠ 0 := by simp
  unfold OutcomeType.Overflows
  rw [show Outcome.recorded.rowsAffected outcome = (before ++ [row]).length from haffected]
  refine and_congr_right fun hcount => ?_
  rw [keysFit_iff haffected hcount hne, show Outcome.recorded.lastRowId outcome = _ from hid]
  constructor
  · intro hlow
    obtain hcell | ⟨-, hhigh⟩ := hcases
    · exact ⟨row, storedRow.id, by simp, hcell, by omega⟩
    · omega
  · rintro ⟨row', key, hrow', hcell, hlow⟩
    rw [List.getLast?_concat] at hrow'
    cases hrow'
    obtain hgiven | ⟨hnull, -⟩ := hcases
    · obtain rfl := Option.some.inj (hgiven.symm.trans hcell)
      omega
    · rw [hnull] at hcell
      cases hcell

namespace Derive

open Mapping

section

variable {t : Target} {d : FamilyMember} {m : MemberMapping} (hm : d.map t = .ok m)
  (hd : d.IsWorded) {f : MappedField (Option ScalarType) Nat} (hf : m.keyField? = some f)
  (hauto : f.key = some .autoIncrement) (mappings : List MemberMapping) {db db' : Database}
  (hlayout : db.table.layout = .ofModel (m.model kindOfField id)) (hordered : db.table.IsOrdered)
  {records : List Record}

include hm hd hf hauto hlayout hordered

/-- After a statement for some records, resolving their keys ends in an overflow exactly if some
number on the way to a key is no integer of 64 bits. This is so exactly if the last record has
brought along a key that stands for an id too near to the least integer for the number of
records. -/
theorem overflows_iff_lastKey (hrecords : records ≠ []) {values : List (List Value)}
    (hvalues : records.mapM m.values = .ok values) {outcome : Outcome}
    (h : db.execute ((Insertion.ofModel (m.model kindOfField id)).statement values) =
      (.ok outcome, db')) :
    outcome.rowsAffected = records.length ∧
      ((resolveKeys Outcome.recorded (recordType mappings m) outcome records).result = .overflow ↔
        Outcome.recorded.Overflows outcome records.length) ∧
      (Outcome.recorded.Overflows outcome records.length ↔
        records.length ≤ Int64.maxValue.toInt ∧ ∃ r v key, records.getLast? = some r ∧
          m.key r = .ok v ∧ v.bound.rowId? = some key ∧
          key.toInt + 1 < Int64.minValue.toInt + records.length) := by
  have hof := Declaration.map_ok hm
  have hlength := length_mapM_ok hvalues
  have hrows : values ≠ [] := by
    rintro rfl
    exact hrecords (List.eq_nil_of_length_eq_zero hlength.symm)
  have hwidth : ∀ row ∈ values, row.length = (m.model kindOfField id).columnNames.length := by
    intro row hrow
    obtain ⟨r, -, hr⟩ := mem_mapM_ok hvalues row hrow
    exact length_values hr
  obtain ⟨haffected, hiff⟩ := Database.overflows_iff_lastRow hlayout
    (hof.hasWords kindOfField id hd) (hof.nodup_columnNames kindOfField id)
    (key_of_layout hf hauto hlayout) hordered hrows (columnNames_ne_nil hof hf) hwidth h
  rw [hlength] at haffected hiff
  have hgenerated := hasGeneratedKey mappings hf hauto
  refine ⟨haffected, ?_, hiff.trans (and_congr_right fun _ => ?_)⟩
  · unfold OutcomeType.Overflows
    rw [show Outcome.recorded.rowsAffected outcome = records.length from haffected]
    by_cases hcount : (records.length : Int) ≤ Int64.maxValue.toInt
    · rw [resolveKeys_overflow_iff haffected hcount hgenerated rfl (by simpa using hrecords)]
      exact (and_iff_right hcount).symm
    · have hmany : ¬ Outcome.recorded.rowsAffected outcome ≤ Int64.maxValue.toInt := by
        rwa [show Outcome.recorded.rowsAffected outcome = records.length from haffected]
      rw [resolveKeys_tooMany hgenerated hmany]
      simp [hcount]
  · -- The last row holds the values of the last record.
    rw [List.getLast?_eq_getElem?, List.getLast?_eq_getElem?, hlength]
    constructor
    · rintro ⟨row, key, hrow, hcell, hlow⟩
      have hlt : records.length - 1 < records.length :=
        Nat.sub_lt (List.length_pos_of_ne_nil hrecords) Nat.one_pos
      obtain ⟨row', hrow', hvalues⟩ := mapM_getElem hvalues (List.getElem?_eq_getElem hlt)
      cases hrow.symm.trans hrow'
      obtain ⟨-, v, -, -, hv⟩ := key_of_values hof hf hvalues
      rw [hlayout, cell_key hof hf hvalues hv] at hcell
      exact ⟨_, v, key, List.getElem?_eq_getElem hlt, hv, hcell, hlow⟩
    · rintro ⟨r, v, key, hr, hkey, hid, hlow⟩
      obtain ⟨row, hrow, hvalues⟩ := mapM_getElem hvalues hr
      refine ⟨row, key, hrow, ?_, hlow⟩
      rw [hlayout, cell_key hof hf hvalues hkey]
      exact hid

end

/-- A city without a key and one with the least key. -/
theorem overflows_iff_lastKey_of_least :
    let db := Database.ofModel (cityMapping.model kindOfField id)
    let T := recordType [cityMapping] cityMapping
    let records : List Record :=
      [[.absent, .text "a"], [.present (.signed Int64.minValue), .text "b"]]
    let values : List (List Value) :=
      [[.null, .text "a"], [.integer Int64.minValue, .text "b"]]
    ∃ outcome db', records ≠ [] ∧ records.mapM cityMapping.values = .ok values ∧
      db.execute ((Insertion.ofModel (cityMapping.model kindOfField id)).statement values) =
        (.ok outcome, db') ∧
      outcome.rowsAffected = records.length ∧
      ((resolveKeys Outcome.recorded T outcome records).result = .overflow ↔
        Outcome.recorded.Overflows outcome records.length) ∧
      (Outcome.recorded.Overflows outcome records.length ↔
        records.length ≤ Int64.maxValue.toInt ∧ ∃ r v key, records.getLast? = some r ∧
          cityMapping.key r = .ok v ∧ v.bound.rowId? = some key ∧
          key.toInt + 1 < Int64.minValue.toInt + records.length) := by
  intro db T records values
  have hvalues : records.mapM cityMapping.values = .ok values := by decide +kernel
  have hexecute : db.execute
      ((Insertion.ofModel (cityMapping.model kindOfField id)).statement values) =
      (.ok { lastRowId := Int64.minValue, rowsAffected := 2 }, (db.execute
        ((Insertion.ofModel (cityMapping.model kindOfField id)).statement values)).2) :=
    Prod.ext (by decide +kernel) rfl
  have hlayout : db.table.layout = .ofModel (cityMapping.model kindOfField id) := rfl
  have hne : records ≠ [] := List.cons_ne_nil _ _
  exact ⟨_, _, hne, hvalues, hexecute, overflows_iff_lastKey map_city isWorded_city (f := cityKey)
    rfl rfl [cityMapping] hlayout .nil hne hvalues hexecute⟩

/-- The least key is one below what the first of two cities would need. Resolving the keys
overflows, and the rows are taken back. -/
theorem overflow_of_least :
    let db := Database.ofModel (cityMapping.model kindOfField id)
    let records : List Record :=
      [[.absent, .text "a"], [.present (.signed Int64.minValue), .text "b"]]
    let values : List (List Value) :=
      [[.null, .text "a"], [.integer Int64.minValue, .text "b"]]
    let outcome : Outcome := { lastRowId := Int64.minValue, rowsAffected := 2 }
    let executed := db.execute
      ((Insertion.ofModel (cityMapping.model kindOfField id)).statement values)
    let batch := db.insertRecords (recordType [cityMapping] cityMapping) records
    records.mapM cityMapping.values = .ok values ∧
      executed.1 = .ok outcome ∧
      executed.2.dump = [[.integer Int64.minValue, .text "b"], [.integer 1, .text "a"]] ∧
      Outcome.recorded.Overflows outcome records.length ∧
      batch.result = .overflow ∧ batch.database.dump = [] ∧
      batch.records.map cityMapping.key = [.ok .null, .ok (.integer Int64.minValue)] := by
  intro db records values outcome executed batch
  have hoverflows : Outcome.recorded.Overflows outcome records.length :=
    ⟨by decide, fun h => absurd (h.key 1 (by decide) (by decide)).1 (by decide)⟩
  exact ⟨by decide +kernel, by decide +kernel, by decide +kernel, hoverflows, by decide +kernel⟩

end Derive

end SqlCompose
