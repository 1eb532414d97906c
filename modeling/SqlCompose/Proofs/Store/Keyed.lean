import SqlCompose.Proofs.Except
import SqlCompose.Proofs.Sql.Equality
import SqlCompose.Proofs.Store.Execution

/-! Tables whose rows are told apart by their keys. No statement makes two keys the same: an
insertion refuses a key that is in use, and so does an update that assigns keys, for each row beside
the others; a deletion only leaves rows out. -/

namespace SqlCompose

/-! ### Cells -/

namespace Layout

/-- The primary key of a table is one of its columns, which all have different names. -/
structure IsKeyedBy (l : Layout) (column : String) (origin : KeyOrigin) : Prop where
  key : l.key = some (column, origin)
  nodup : l.columns.Nodup
  mem : column ∈ l.columns

variable {l : Layout} {cells : List Value} (hwidth : cells.length = l.columns.length)
  {column : String} {v : Value}

include hwidth

theorem length_setCell : (l.setCell cells column v).length = l.columns.length := by
  simp [setCell, hwidth]

theorem getElem_setCell {i : Nat} {other : String} (hi : l.columns[i]? = some other) :
    (l.setCell cells column v)[i]? = if other = column then some v else cells[i]? := by
  have hlt : i < cells.length := hwidth ▸ (List.getElem?_eq_some_iff.mp hi).1
  have hcell : cells[i]? = some cells[i] := List.getElem?_eq_getElem hlt
  have hzip : (l.columns.zip cells)[i]? = some (other, cells[i]) :=
    List.getElem?_zip_eq_some.mpr ⟨hi, hcell⟩
  rw [setCell, List.getElem?_map, hzip, hcell, ← apply_ite some]
  simp only [Option.map_some, beq_iff_eq]

theorem getElem_cell (hnodup : l.columns.Nodup) {i : Nat} (hi : l.columns[i]? = some column) :
    cells[i]? = some (l.cell cells column) := by
  have hlt : i < cells.length := hwidth ▸ (List.getElem?_eq_some_iff.mp hi).1
  rw [cell_of_getElem hnodup hi (List.getElem?_eq_getElem hlt), List.getElem?_eq_getElem hlt]

/-- A cell after a value has been put into a column. -/
theorem cell_setCell (hnodup : l.columns.Nodup) {other : String} (hother : other ∈ l.columns) :
    l.cell (l.setCell cells column v) other =
      if other = column then v else l.cell cells other := by
  obtain ⟨i, hi⟩ := List.mem_iff_getElem?.mp hother
  have hcell := getElem_cell hwidth hnodup hi
  have hafter : (l.setCell cells column v).length = l.columns.length := length_setCell hwidth
  have hset := getElem_cell hafter hnodup hi
  rw [getElem_setCell hwidth hi, hcell, ← apply_ite some] at hset
  exact (Option.some.inj hset).symm

/-! ### Assignments -/

variable {assignments : List (String × Value)}

theorem length_assign : (l.assign assignments cells).length = l.columns.length := by
  induction assignments generalizing cells with
  | nil => exact hwidth
  | cons a assignments ih => exact ih (length_setCell hwidth)

theorem getElem_assign_of_not_mem {i : Nat} (hi : l.columns[i]? = some column)
    (h : ∀ a ∈ assignments, a.1 ≠ column) : (l.assign assignments cells)[i]? = cells[i]? := by
  induction assignments generalizing cells with
  | nil => rfl
  | cons a assignments ih =>
    rw [List.forall_mem_cons] at h
    refine (ih (length_setCell hwidth) h.2).trans ?_
    rw [getElem_setCell hwidth hi, if_neg h.1.symm]

theorem getElem_assign_of_mem {i : Nat} (hi : l.columns[i]? = some column)
    (hnodup : (assignments.map Prod.fst).Nodup) (h : (column, v) ∈ assignments) :
    (l.assign assignments cells)[i]? = some v := by
  induction assignments generalizing cells with
  | nil => cases h
  | cons a assignments ih =>
    have hset : (l.setCell cells a.1 a.2).length = l.columns.length := length_setCell hwidth
    rw [List.map_cons, List.nodup_cons] at hnodup
    rcases List.mem_cons.mp h with rfl | h
    · have hothers : ∀ b ∈ assignments, b.1 ≠ column := by
        intro b hb heq
        have hmem : b.1 ∈ assignments.map Prod.fst := List.mem_map_of_mem hb
        exact hnodup.1 (heq ▸ hmem)
      refine (getElem_assign_of_not_mem hset hi hothers).trans ?_
      rw [getElem_setCell hwidth hi, if_pos rfl]
    · exact ih hset hnodup.2 h

/-- Assignments to other columns leave a cell alone. -/
theorem cell_assign (hnodup : l.columns.Nodup) (hcolumn : column ∈ l.columns)
    (h : ∀ a ∈ assignments, a.1 ≠ column) :
    l.cell (l.assign assignments cells) column = l.cell cells column := by
  obtain ⟨i, hi⟩ := List.mem_iff_getElem?.mp hcolumn
  have hassign : (l.assign assignments cells).length = l.columns.length := length_assign hwidth
  have hafter := getElem_cell hassign hnodup hi
  rw [getElem_assign_of_not_mem hwidth hi h, getElem_cell hwidth hnodup hi] at hafter
  exact (Option.some.inj hafter).symm

end Layout

namespace Table

/-- The rows have a cell for each column and different keys, which are the row ids where the keys
are generated. -/
structure IsKeyed (t : Table) (column : String) : Prop where
  ordered : t.IsOrdered
  width : ∀ row ∈ t.rows, row.cells.length = t.layout.columns.length
  ids : t.layout.isRowId column = true →
    ∀ row ∈ t.rows, t.layout.cell row.cells column = .integer row.id
  distinct : t.rows.Pairwise fun r s =>
    (t.layout.cell r.cells column).sameKey (t.layout.cell s.cells column) = false

variable {t : Table} {column : String} {origin : KeyOrigin}

theorem isKeyed_empty (l : Layout) (column : String) : IsKeyed { layout := l } column :=
  ⟨.nil, by simp, by simp, .nil⟩

/-! ### New rows -/

section

variable (hl : t.layout.IsKeyedBy column origin) {cells : List Value}
  (hwidth : cells.length = t.layout.columns.length) {id : Int64}

include hl

omit hl in
theorem isRowId_iff (hl : t.layout.IsKeyedBy column origin) :
    t.layout.isRowId column = true ↔ origin = .autoIncrement := by
  simp [Layout.isRowId, hl.key]

omit hl in
theorem assignsKey_iff (hl : t.layout.IsKeyedBy column origin)
    {assignments : List (String × Value)} :
    t.layout.assignsKey assignments = true ↔ ∃ a ∈ assignments, a.1 = column := by
  simp only [Layout.assignsKey, hl.key, Option.any_some, List.any_eq_true, beq_iff_eq]

include hwidth

/-- The key of a new row. -/
theorem cell_row : t.layout.cell (t.layout.row cells id).cells column =
    if origin = .autoIncrement then .integer id else t.layout.cell cells column := by
  rw [Layout.row, hl.key]
  cases origin with
  | autoIncrement => exact (Layout.cell_setCell hwidth hl.nodup hl.mem).trans (if_pos rfl)
  | assigned => rfl

theorem length_row : (t.layout.row cells id).cells.length = t.layout.columns.length := by
  rw [Layout.row, hl.key]
  cases origin with
  | autoIncrement => exact Layout.length_setCell hwidth
  | assigned => exact hwidth

/-- A row that the key permits. -/
theorem IsKeyed.addRow (h : t.IsKeyed column) (hpermits : t.Permits cells id) :
    (t.addRow (t.layout.row cells id)).IsKeyed column := by
  have hperm : (t.addRow (t.layout.row cells id)).rows.Perm (t.layout.row cells id :: t.rows) :=
    placeRow_perm _ _
  have hcell : t.layout.cell (t.layout.row cells id).cells column =
      if origin = .autoIncrement then .integer id else t.layout.cell cells column :=
    cell_row hl hwidth
  have hnew : ∀ row ∈ t.rows, (t.layout.cell (t.layout.row cells id).cells column).sameKey
      (t.layout.cell row.cells column) = false := by
    intro row hrow
    rw [hcell]
    cases horigin : origin with
    | autoIncrement =>
      rw [if_pos rfl, h.ids ((isRowId_iff hl).mpr horigin) row hrow, ← Bool.not_eq_true,
        Value.sameKey_integer]
      exact (hpermits.free row hrow).symm
    | assigned =>
      rw [if_neg (by decide), Value.sameKey_comm]
      exact hpermits.distinct column (horigin ▸ hl.key) row hrow
  refine ⟨h.ordered.addRow hpermits, ?_, ?_, ?_⟩
  · intro row hrow
    rcases List.mem_cons.mp (hperm.mem_iff.mp hrow) with rfl | hrow
    · exact length_row hl hwidth
    · exact h.width row hrow
  · intro hrowId row hrow
    rcases List.mem_cons.mp (hperm.mem_iff.mp hrow) with rfl | hrow
    · exact hcell.trans (if_pos ((isRowId_iff hl).mp hrowId))
    · exact h.ids hrowId row hrow
  · refine (hperm.pairwise_iff fun {r s} hrs => ?_).mpr (List.pairwise_cons.mpr ⟨hnew, h.distinct⟩)
    rw [Value.sameKey_comm]
    exact hrs

end

/-- Rows that are stored one after the other. -/
theorem IsKeyed.stores {t' : Table} {rows : List (List Value)} {stored : List Row}
    (hstores : t.Stores rows stored t') (hl : t.layout.IsKeyedBy column origin)
    (h : t.IsKeyed column)
    (hwidth : ∀ cells ∈ rows, cells.length = t.layout.columns.length) : t'.IsKeyed column := by
  induction hstores with
  | nil => exact h
  | cons hid _ ih =>
    rw [List.forall_mem_cons] at hwidth
    exact ih hl (h.addRow hl hwidth.1 (h.ordered.permits hid)) hwidth.2

/-! ### Rows that are left out or changed -/

/-- Some of the rows. -/
theorem IsKeyed.filter (h : t.IsKeyed column) (p : Row → Bool) :
    IsKeyed { t with rows := t.rows.filter p } column :=
  ⟨h.ordered.filter _, fun row hrow => h.width row (List.mem_of_mem_filter hrow),
    fun hid row hrow => h.ids hid row (List.mem_of_mem_filter hrow), h.distinct.filter _⟩

/-- Rows that keep their ids and keys. -/
theorem IsKeyed.map (h : t.IsKeyed column) {f : Row → Row}
    (hf : ∀ row ∈ t.rows, (f row).id = row.id ∧
      (f row).cells.length = t.layout.columns.length ∧
      t.layout.cell (f row).cells column = t.layout.cell row.cells column) :
    IsKeyed { t with rows := t.rows.map f } column := by
  refine ⟨?_, ?_, ?_, ?_⟩
  · refine List.pairwise_map.mpr (h.ordered.imp_of_mem fun {r s} hr hs hlt => ?_)
    rw [(hf r hr).1, (hf s hs).1]
    exact hlt
  · exact List.forall_mem_map.mpr fun row hrow => (hf row hrow).2.1
  · intro hid
    refine List.forall_mem_map.mpr fun row hrow => ?_
    rw [(hf row hrow).2.2, (hf row hrow).1]
    exact h.ids hid row hrow
  · refine List.pairwise_map.mpr (h.distinct.imp_of_mem fun {r s} hr hs hne => ?_)
    rw [(hf r hr).2.2, (hf s hs).2.2]
    exact hne

/-- A row is changed by putting it back under an id that its key permits. -/
theorem changeCells_ok {id : Int64} {cells : List Value} {t' : Table}
    (h : t.changeCells id cells = .ok t') :
    ∃ newId, (t.removeRow id).Permits cells newId ∧
      t' = (t.removeRow id).addRow (t.layout.row cells newId) := by
  obtain ⟨newId, hid, ht⟩ := bind_ok h
  cases ht
  exact ⟨newId, permits_of_changedRowId hid, rfl⟩

theorem layout_changeRows {assignments : List (String × Value)} {rows : List Row} {t' : Table}
    (h : t.changeRows assignments rows = .ok t') : t'.layout = t.layout := by
  induction rows generalizing t with
  | nil =>
    cases h
    rfl
  | cons r rows ih =>
    obtain ⟨s, hs, hrest⟩ := bind_ok h
    obtain ⟨id, -, rfl⟩ := changeCells_ok hs
    rw [ih hrest]
    rfl

/-- Rows whose keys are changed one after the other. -/
theorem IsKeyed.changeRows (h : t.IsKeyed column) (hl : t.layout.IsKeyedBy column origin)
    {assignments : List (String × Value)} {rows : List Row}
    (hwidth : ∀ row ∈ rows, row.cells.length = t.layout.columns.length) {t' : Table}
    (hrows : t.changeRows assignments rows = .ok t') : t'.IsKeyed column := by
  induction rows generalizing t with
  | nil =>
    cases hrows
    exact h
  | cons r rows ih =>
    rw [List.forall_mem_cons] at hwidth
    obtain ⟨s, hs, hrest⟩ := bind_ok hrows
    obtain ⟨id, hpermits, rfl⟩ := changeCells_ok hs
    have hothers : (t.removeRow r.id).IsKeyed column := h.filter _
    have hchanged := hothers.addRow (t := t.removeRow r.id) hl
      (Layout.length_assign hwidth.1) hpermits
    exact ih hchanged hl hwidth.2 hrest

/-! ### Statements -/

theorem IsKeyed.updateRows (h : t.IsKeyed column) (hl : t.layout.IsKeyedBy column origin)
    {assignments : List (String × Value)} {filter : Option Condition} {e : Effect}
    (hupdate : t.updateRows assignments filter = .ok e) : e.table.IsKeyed column := by
  obtain ⟨-, heffect⟩ := updateRows_ok hupdate
  split at heffect
  · exact h.changeRows hl (fun row hrow => h.width row (List.mem_of_mem_filter hrow)) heffect
  · next hkeys =>
    have hothers := (not_congr (assignsKey_iff hl)).mp hkeys
    rw [heffect]
    refine h.map fun row hrow => ?_
    have hwidth := h.width row hrow
    split
    · refine ⟨rfl, Layout.length_assign hwidth, ?_⟩
      exact Layout.cell_assign hwidth hl.nodup hl.mem fun a ha heq => hothers ⟨a, ha, heq⟩
    · exact ⟨rfl, hwidth, rfl⟩

theorem layout_run {s : Statement} {e : Effect} (h : t.run s = .ok e) :
    e.table.layout = t.layout := by
  cases s with
  | select row => cases h; rfl
  | insert table columns rows =>
    obtain ⟨stored, hstored, -⟩ := stores_of_insertRows h
    exact hstored.layout_eq
  | update table assignments filter =>
    obtain ⟨-, heffect⟩ := updateRows_ok h
    split at heffect
    · exact layout_changeRows heffect
    · rw [heffect]
  | delete table filter => cases h; rfl

/-- No statement makes two keys the same. -/
theorem IsKeyed.run (h : t.IsKeyed column) (hl : t.layout.IsKeyedBy column origin) {s : Statement}
    {e : Effect} (hrun : t.run s = .ok e) : e.table.IsKeyed column := by
  cases s with
  | select row => cases hrun; exact h
  | insert table columns rows =>
    obtain ⟨stored, hstored, -⟩ := stores_of_insertRows hrun
    exact h.stores hstored hl (List.forall_mem_map.mpr fun row _ => by simp [Layout.arrange])
  | update table assignments filter => exact h.updateRows hl hrun
  | delete table filter => cases hrun; exact h.filter _

end Table

namespace Database

variable {db : Database} {f : Fragment}

/-- A fragment is executed or queried: nothing happens to the table, or what its statement does. -/
theorem table_execute (db : Database) (f : Fragment) :
    ((db.execute f).2.table = db.table ∧ (db.query f).2.table = db.table) ∨
      ∃ s e, db.table.run s = .ok e ∧
        (db.execute f).2.table = e.table ∧ (db.query f).2.table = e.table := by
  cases hprepare : db.prepare f with
  | error e => exact .inl (by simp only [execute, query, hprepare, and_self])
  | ok s =>
    cases hrun : db.table.run s with
    | error failure =>
      exact .inl (by simp only [execute, query, Database.run, hprepare, hrun, and_self])
    | ok e =>
      refine .inr ⟨s, e, hrun, ?_⟩
      simp only [execute, query, Database.run, hprepare, hrun, and_true]
      split <;> rfl

/-- Executing a fragment or querying it leaves the table keyed. -/
theorem isKeyed_execute {column : String} {origin : KeyOrigin} (h : db.table.IsKeyed column)
    (hl : db.table.layout.IsKeyedBy column origin) (f : Fragment) :
    ((db.execute f).2.table.layout = db.table.layout ∧ (db.execute f).2.table.IsKeyed column) ∧
    (db.query f).2.table.layout = db.table.layout ∧ (db.query f).2.table.IsKeyed column := by
  obtain ⟨hexecute, hquery⟩ | ⟨s, e, hrun, hexecute, hquery⟩ := table_execute db f
  · rw [hexecute, hquery]
    exact ⟨⟨rfl, h⟩, rfl, h⟩
  · have hkeyed := h.run hl hrun
    have hlayout := Table.layout_run hrun
    rw [hexecute, hquery]
    exact ⟨⟨hlayout, hkeyed⟩, hlayout, hkeyed⟩

end Database

end SqlCompose
