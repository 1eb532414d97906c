import Mathlib.Data.List.Nodup
import SqlCompose.Proofs.Sql.Insertions
import SqlCompose.Proofs.Store.Rows
import SqlCompose.Store.Database

/-! What a database does with the statements that insert the rows of a model: the table gets one
row for each row of values, in order, and the outcome tells the last row id and their number. -/

namespace SqlCompose

/-! ### Cells by column -/

namespace Layout

variable {l : Layout} {column : String} {i : Nat}

theorem lookup_zip {columns : List String} (hnodup : columns.Nodup) {cells : List Value} {v : Value}
    (hcolumn : columns[i]? = some column) (hv : cells[i]? = some v) :
    (columns.zip cells).lookup column = some v := by
  induction columns generalizing cells i with
  | nil => cases hcolumn
  | cons c columns ih =>
    obtain ⟨hc, hnodup⟩ := List.nodup_cons.mp hnodup
    cases cells with
    | nil => cases hv
    | cons w cells =>
      cases i with
      | zero =>
        cases hcolumn
        cases hv
        exact List.lookup_cons_self
      | succ i =>
        have hne : column ≠ c := fun heq => hc (heq ▸ List.mem_of_getElem? hcolumn)
        rw [List.zip_cons_cons, List.lookup_cons, beq_false_of_ne hne]
        exact ih hnodup hcolumn hv

theorem cell_of_getElem (hnodup : l.columns.Nodup) {cells : List Value} {v : Value}
    (hcolumn : l.columns[i]? = some column) (hv : cells[i]? = some v) : l.cell cells column = v := by
  rw [cell, lookup_zip hnodup hcolumn hv]
  rfl

theorem setCell_eq_set (hnodup : l.columns.Nodup) {cells : List Value} {v : Value}
    (hlength : cells.length = l.columns.length) (hcolumn : l.columns[i]? = some column) :
    l.setCell cells column v = cells.set i v := by
  obtain ⟨hi, hcolumn⟩ := List.getElem?_eq_some_iff.mp hcolumn
  apply List.ext_getElem
  · simp [setCell, hlength]
  · intro j hj _
    have hj : j < l.columns.length := by simp [setCell] at hj; omega
    have hplace : l.columns[j] = column ↔ i = j := by
      rw [← hcolumn, hnodup.getElem_inj_iff]
      exact eq_comm
    simp only [setCell, List.getElem_map, List.getElem_zip, List.getElem_set, beq_iff_eq, hplace]

/-- A row that is given for all columns. -/
theorem arrange_columns (hnodup : l.columns.Nodup) {row : List Value}
    (hlength : row.length = l.columns.length) : l.arrange l.columns row = row := by
  apply List.ext_getElem
  · simp [arrange, hlength]
  · intro j hj hj'
    have hcolumn : j < l.columns.length := hlength ▸ hj'
    have hlookup := lookup_zip hnodup (List.getElem?_eq_getElem hcolumn)
      (List.getElem?_eq_getElem hj')
    simp [arrange, hlookup]

end Layout

/-! ### Insertions into the table of a model -/

namespace Database

section

variable {db : Database} {m : Model} (hlayout : db.table.layout = .ofModel m)
  (hwords : (Insertion.ofModel m).HasWords) (hnodup : m.columnNames.Nodup)
  {rows : List (List Value)} (hrows : rows ≠ []) (hcolumns : m.columnNames ≠ [])
  (hwidth : ∀ row ∈ rows, row.length = m.columnNames.length)

include hwords

theorem prepare_unnamed (hnamed : ¬ (Insertion.ofModel m).IsNamed) :
    ∃ e, db.prepare ((Insertion.ofModel m).statement rows) = .error e := by
  rw [prepare, Insertion.ofFragment_of_not_isNamed hwords hnamed]
  exact ⟨_, rfl⟩

include hlayout hrows hcolumns hwidth

theorem prepare_statement (hnamed : (Insertion.ofModel m).IsNamed) :
    db.prepare ((Insertion.ofModel m).statement rows) =
      .ok (.insert m.table m.columnNames (rows.map (·.map Value.bound))) := by
  have hvalues : ∀ row ∈ rows, row ≠ [] := by
    rintro row hrow rfl
    exact hcolumns (List.eq_nil_of_length_eq_zero (hwidth [] hrow).symm)
  have hread : Statement.ofFragment? ((Insertion.ofModel m).statement rows) =
      some (.insert m.table m.columnNames (rows.map (·.map Value.bound))) :=
    Insertion.ofFragment_statement hwords hnamed hcolumns hrows hvalues
  have hcolumn : m.columnNames.findSome? (fun c => (Layout.ofModel m).columnFault? (none, c)) =
      none := by
    rw [List.findSome?_eq_none_iff]
    intro c hc
    simp [Layout.columnFault?, Layout.ofModel, hc]
  have hragged : (rows.map (·.map Value.bound)).find? (fun row => row.length ≠ m.columnNames.length) =
      none := by
    simpa using hwidth
  have hfault : (Layout.ofModel m).fault?
      (.insert m.table m.columnNames (rows.map (·.map Value.bound))) = none := by
    rw [Layout.fault?, Layout.tableFault?, hcolumn, hragged]
    simp [Layout.ofModel]
  obtain ⟨ts, hts, hcount⟩ := Insertion.placeholders_statement hwords rows
  have hparameters : parameterCount ((Insertion.ofModel m).statement rows) =
      ((Insertion.ofModel m).statement rows).params.length := by
    rw [parameterCount, hts, ← hcount]
    rfl
  rw [prepare, hread, hlayout]
  simp only [hfault]
  exact if_pos hparameters

/-- Carrying out the statement is inserting the bound rows. -/
theorem execute_statement (hnodup : m.columnNames.Nodup) (hnamed : (Insertion.ofModel m).IsNamed) :
    db.execute ((Insertion.ofModel m).statement rows) =
      match db.table.insertRows (rows.map (·.map Value.bound)) with
      | .ok e =>
        (.ok { lastRowId := e.lastRowId.getD db.lastRowId, rowsAffected := e.affected },
          { table := e.table, lastRowId := e.lastRowId.getD db.lastRowId })
      | .error f =>
        (.error (.database f.fault), { db with lastRowId := f.lastRowId.getD db.lastRowId }) := by
  have harranged : (rows.map (·.map Value.bound)).map (db.table.layout.arrange m.columnNames) =
      rows.map (·.map Value.bound) := by
    rw [List.map_congr_left, List.map_id]
    intro row hrow
    obtain ⟨row, hmem, rfl⟩ := List.mem_map.mp hrow
    rw [hlayout]
    have hlength : (row.map Value.bound).length = m.columnNames.length := by
      rw [List.length_map, hwidth row hmem]
    exact (Layout.ofModel m).arrange_columns hnodup hlength
  rw [execute, prepare_statement hlayout hwords hrows hcolumns hwidth hnamed]
  simp only [run, Table.run, harranged]
  cases h : db.table.insertRows (rows.map (·.map Value.bound)) with
  | error f => rfl
  | ok e =>
    obtain ⟨stored, -, -, -, hnone⟩ := Table.stores_of_insertRows h
    simp only [hnone]
    rfl

/-- What a statement has done that has been carried out. -/
theorem stores_of_execute (hnodup : m.columnNames.Nodup) {outcome : Outcome} {db' : Database}
    (h : db.execute ((Insertion.ofModel m).statement rows) = (.ok outcome, db')) :
    (Insertion.ofModel m).IsNamed ∧ ∃ stored,
      db.table.Stores (rows.map (·.map Value.bound)) stored db'.table ∧
      outcome.lastRowId = (stored.map (·.id)).getLast?.getD 0 ∧
      outcome.rowsAffected = stored.length := by
  have hnamed : (Insertion.ofModel m).IsNamed := by
    by_cases hnamed : (Insertion.ofModel m).IsNamed
    · exact hnamed
    · obtain ⟨e, he⟩ := prepare_unnamed hwords hnamed
      rw [execute, he] at h
      cases h
  refine ⟨hnamed, ?_⟩
  rw [execute_statement hlayout hwords hrows hcolumns hwidth hnodup hnamed] at h
  split at h
  · next e he =>
    cases h
    obtain ⟨stored, hstored, hlast, haffected, -⟩ := Table.stores_of_insertRows he
    refine ⟨stored, hstored, ?_, haffected⟩
    have hne : stored ≠ [] := by
      rintro rfl
      exact hrows (List.map_eq_nil_iff.mp (List.eq_nil_of_length_eq_zero hstored.length_eq.symm))
    simp [hlast, List.getLast?_eq_some_getLast hne]
  · cases h

/-- Rows without keys are stored as long as there are ids for them. -/
theorem exists_execute (hnodup : m.columnNames.Nodup) (hnamed : (Insertion.ofModel m).IsNamed)
    (hordered : db.table.IsOrdered) {column : String}
    (hkey : db.table.layout.key = some (column, .autoIncrement))
    (hnull : ∀ row ∈ rows, db.table.layout.cell (row.map Value.bound) column = .null)
    (hroom : db.table.lastId + rows.length ≤ Int64.maxValue.toInt) :
    ∃ outcome db', db.execute ((Insertion.ofModel m).statement rows) = (.ok outcome, db') := by
  obtain ⟨e, he⟩ := Table.exists_insertRows hkey hordered (List.forall_mem_map.mpr hnull)
    (by simpa using hroom)
  rw [execute_statement hlayout hwords hrows hcolumns hwidth hnodup hnamed, he]
  exact ⟨_, _, rfl⟩

end

end Database

end SqlCompose
