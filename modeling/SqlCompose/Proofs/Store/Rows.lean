import Mathlib.Data.List.Basic
import SqlCompose.Store.Table

/-! Rows of a table, which are in the order of their ids. A row is added or changed only if its key
permits it beside the others. An insertion adds one row for each row of cells that it is given;
where keys are left to the table, the new rows come last, under the ids that follow the largest
one. -/

namespace SqlCompose

theorem Int64.toInt_succ {a : Int64} (h : a < Int64.maxValue) :
    (a + 1).toInt = a.toInt + 1 := by
  have hlow := Int64.le_toInt a
  have hhigh : a.toInt < Int64.maxValue.toInt := Int64.lt_iff_toInt_lt.mp h
  have hmax : Int64.maxValue.toInt = 9223372036854775807 := by decide
  rw [Int64.toInt_add]
  exact Int.bmod_eq_of_le (by simp; omega) (by simp; omega)

namespace Table

/-! ### The order of rows -/

/-- The ids of the rows are increasing. -/
def IsOrdered (t : Table) : Prop :=
  t.rows.Pairwise fun r s => r.id < s.id

theorem mem_placeRow {r s : Row} {rows : List Row} :
    s ∈ placeRow r rows ↔ s = r ∨ s ∈ rows := by
  induction rows with
  | nil => simp [placeRow]
  | cons q rows ih =>
    rw [placeRow]
    split
    · exact List.mem_cons
    · rw [List.mem_cons, ih, List.mem_cons]
      exact or_left_comm

theorem placeRow_perm (r : Row) (rows : List Row) : (placeRow r rows).Perm (r :: rows) := by
  induction rows with
  | nil => exact .refl _
  | cons q rows ih =>
    rw [placeRow]
    split
    · exact .refl _
    · exact (ih.cons q).trans (.swap r q rows)

theorem placeRow_of_lt {r : Row} {rows : List Row} (h : ∀ s ∈ rows, s.id < r.id) :
    placeRow r rows = rows ++ [r] := by
  induction rows with
  | nil => rfl
  | cons q rows ih =>
    rw [List.forall_mem_cons] at h
    rw [placeRow, if_neg (Int64.lt_asymm h.1), ih h.2]
    rfl

theorem pairwise_placeRow {r : Row} {rows : List Row} (h : rows.Pairwise fun r s => r.id < s.id)
    (hnew : ∀ s ∈ rows, s.id ≠ r.id) : (placeRow r rows).Pairwise fun r s => r.id < s.id := by
  induction rows with
  | nil => exact List.pairwise_singleton _ _
  | cons q rows ih =>
    rw [List.forall_mem_cons] at hnew
    rw [placeRow]
    split
    · next hlt =>
      refine List.pairwise_cons.mpr ⟨?_, h⟩
      intro s hs
      rcases List.mem_cons.mp hs with rfl | hs
      · exact hlt
      · exact Int64.lt_trans hlt ((List.pairwise_cons.mp h).1 s hs)
    · next hle =>
      have hlt : q.id < r.id := Int64.lt_of_le_of_ne (Int64.not_lt.mp hle) hnew.1
      refine List.pairwise_cons.mpr ⟨?_, ih (List.pairwise_cons.mp h).2 hnew.2⟩
      intro s hs
      rcases mem_placeRow.mp hs with rfl | hs
      · exact hlt
      · exact (List.pairwise_cons.mp h).1 s hs

/-! ### Ids of new rows -/

variable {t : Table} {id : Int64}

/-- The largest row id; 0 in an empty table. -/
def lastId (t : Table) : Int :=
  (t.rows.getLast?.map fun r => r.id.toInt).getD 0

theorem toInt_nextRowId (h : t.nextRowId = .ok id) : id.toInt = t.lastId + 1 := by
  unfold nextRowId at h
  unfold lastId
  split at h
  · next hlast =>
    cases h
    rw [hlast]
    decide
  · next r hlast =>
    split at h
    · next hlt =>
      cases h
      rw [hlast]
      exact Int64.toInt_succ hlt
    · cases h

theorem exists_nextRowId (h : t.lastId < Int64.maxValue.toInt) : ∃ id, t.nextRowId = .ok id := by
  unfold lastId at h
  unfold nextRowId
  split
  · exact ⟨1, rfl⟩
  · next r hlast =>
    rw [hlast] at h
    exact ⟨r.id + 1, if_pos (Int64.lt_iff_toInt_lt.mpr h)⟩

theorem IsOrdered.le_lastId (ht : t.IsOrdered) {r : Row} (hr : r ∈ t.rows) :
    r.id.toInt ≤ t.lastId := by
  obtain ⟨layout, rows⟩ := t
  unfold IsOrdered at ht
  rcases List.eq_nil_or_concat rows with rfl | ⟨rest, s, rfl⟩
  · cases hr
  · rw [List.concat_eq_append, List.pairwise_append] at ht
    rw [List.concat_eq_append] at hr ⊢
    simp only [lastId, List.getLast?_append, List.getLast?_singleton, Option.some_or,
      Option.map_some, Option.getD_some]
    rcases List.mem_append.mp hr with hr | hr
    · exact Int.le_of_lt (Int64.lt_iff_toInt_lt.mp (ht.2.2 r hr s List.mem_cons_self))
    · exact Int.le_of_eq (congrArg (fun r => r.id.toInt) (List.mem_singleton.mp hr))

theorem IsOrdered.lt_nextRowId (ht : t.IsOrdered) (h : t.nextRowId = .ok id) {r : Row}
    (hr : r ∈ t.rows) : r.id < id := by
  rw [Int64.lt_iff_toInt_lt, toInt_nextRowId h]
  exact Int.lt_add_one_of_le (ht.le_lastId hr)

/-! ### What the key permits -/

/-- Cells can be stored under an id beside the rows of a table. No row has that id, and none has the
same assigned key. -/
structure Permits (t : Table) (cells : List Value) (id : Int64) : Prop where
  free : ∀ r ∈ t.rows, r.id ≠ id
  distinct : ∀ column, t.layout.key = some (column, .assigned) →
    ∀ r ∈ t.rows, (t.layout.cell r.cells column).sameKey (t.layout.cell cells column) = false

theorem givenRowId_ok {column : String} {key : Value} (h : t.givenRowId column key = .ok id) :
    key.rowId? = some id ∧ ∀ r ∈ t.rows, r.id ≠ id := by
  unfold givenRowId at h
  split at h
  · cases h
  · next given hgiven =>
    split at h
    · cases h
    · next hfree =>
      cases h
      refine ⟨hgiven, fun r hr heq => hfree ?_⟩
      exact List.any_eq_true.mpr ⟨r, hr, beq_iff_eq.mpr heq⟩

theorem assignedFault?_eq_none {column : String} {key : Value}
    (h : t.assignedFault? column key = none) :
    key ≠ .null ∧ ∀ r ∈ t.rows, (t.layout.cell r.cells column).sameKey key = false := by
  unfold assignedFault? at h
  split at h
  · cases h
  · next hnull =>
    split at h
    · cases h
    · next hfree =>
      refine ⟨hnull, fun r hr => ?_⟩
      rw [← Bool.not_eq_true]
      exact fun hsame => hfree (List.any_eq_true.mpr ⟨r, hr, hsame⟩)

/-- Where no keys are assigned, it is enough that the id is free. -/
theorem permits_of_free (hkey : ∀ column, t.layout.key ≠ some (column, .assigned))
    (hfree : ∀ r ∈ t.rows, r.id ≠ id) (cells : List Value) : t.Permits cells id :=
  ⟨hfree, fun column hcolumn => absurd hcolumn (hkey column)⟩

theorem permits_of_assigned {column : String} (hkey : t.layout.key = some (column, .assigned))
    (hfree : ∀ r ∈ t.rows, r.id ≠ id) {cells : List Value}
    (hfault : t.assignedFault? column (t.layout.cell cells column) = none) :
    t.Permits cells id := by
  refine ⟨hfree, fun other hother => ?_⟩
  cases hkey.symm.trans hother
  exact (assignedFault?_eq_none hfault).2

theorem IsOrdered.permits (ht : t.IsOrdered) {cells : List Value}
    (h : t.rowIdFor cells = .ok id) : t.Permits cells id := by
  have hnext (h : t.nextRowId = .ok id) : ∀ r ∈ t.rows, r.id ≠ id :=
    fun r hr => Int64.ne_of_lt (ht.lt_nextRowId h hr)
  unfold rowIdFor at h
  split at h
  · next hkey => exact permits_of_free (by simp [hkey]) (hnext h) cells
  · next hkey =>
    refine permits_of_free (by simp [hkey]) ?_ cells
    dsimp only at h
    split at h
    · exact hnext h
    · exact (givenRowId_ok h).2
  · next hkey =>
    split at h
    · cases h
    · next hfault => exact permits_of_assigned hkey (hnext h) hfault

/-- A row that is changed is permitted beside the others. -/
theorem permits_of_changedRowId {cells : List Value} {newId : Int64}
    (h : t.changedRowId id cells = .ok newId) : (t.removeRow id).Permits cells newId := by
  have hkept : ∀ r ∈ (t.removeRow id).rows, r.id ≠ id :=
    fun r hr => bne_iff_ne.mp (List.mem_filter.mp hr).2
  unfold changedRowId at h
  split at h
  · next hkey =>
    cases h
    exact permits_of_free (by simp [removeRow, hkey]) hkept cells
  · next hkey => exact permits_of_free (by simp [removeRow, hkey]) (givenRowId_ok h).2 cells
  · next hkey =>
    split at h
    · cases h
    · next hfault =>
      cases h
      exact permits_of_assigned (t := t.removeRow id) hkey hkept hfault

/-- The id of a row whose key was given is the one that the key stands for. -/
theorem rowId?_of_rowIdFor {column : String} (hkey : t.layout.key = some (column, .autoIncrement))
    {cells : List Value} (h : t.rowIdFor cells = .ok id)
    (hgiven : t.layout.cell cells column ≠ .null) :
    (t.layout.cell cells column).rowId? = some id := by
  unfold rowIdFor at h
  simp only [hkey, if_neg hgiven] at h
  exact (givenRowId_ok h).1

/-- A key that has to be assigned is not NULL. -/
theorem ne_null_of_rowIdFor {column : String} (hkey : t.layout.key = some (column, .assigned))
    {cells : List Value} (h : t.rowIdFor cells = .ok id) : t.layout.cell cells column ≠ .null := by
  unfold rowIdFor at h
  simp only [hkey] at h
  split at h
  · cases h
  · next hfault => exact (assignedFault?_eq_none hfault).1

/-! ### Insertions -/

/-- One row after the other is stored, under the ids that the table permits. -/
inductive Stores : Table → List (List Value) → List Row → Table → Prop
  | nil (t : Table) : Stores t [] [] t
  | cons {t t' : Table} {cells : List Value} {rest : List (List Value)} {id : Int64}
      {stored : List Row} (hid : t.rowIdFor cells = .ok id)
      (hrest : Stores (t.addRow (t.layout.row cells id)) rest stored t') :
      Stores t (cells :: rest) (t.layout.row cells id :: stored) t'

theorem insertCells_eq (t : Table) (cells : List Value) :
    t.insertCells cells =
      (t.rowIdFor cells).map fun id => (t.addRow (t.layout.row cells id), id) := by
  unfold insertCells
  cases t.rowIdFor cells <;> rfl

theorem IsOrdered.addRow (ht : t.IsOrdered) {cells : List Value} (h : t.Permits cells id) :
    (t.addRow (t.layout.row cells id)).IsOrdered :=
  pairwise_placeRow ht h.free

/-- What an insertion of rows has done, if it succeeds. -/
theorem stores_of_insertRows {rows : List (List Value)} {e : Effect}
    (h : t.insertRows rows = .ok e) :
    ∃ stored, t.Stores rows stored e.table ∧
      e.lastRowId = stored.getLast?.map (·.id) ∧ e.affected = stored.length ∧ e.rows = [] := by
  induction rows generalizing t e with
  | nil =>
    cases h
    exact ⟨[], .nil t, rfl, rfl, rfl⟩
  | cons cells rest ih =>
    rw [insertRows, insertCells_eq] at h
    cases hid : t.rowIdFor cells with
    | error fault => rw [hid] at h; cases h
    | ok id =>
      rw [hid] at h
      simp only [Except.map] at h
      cases hrest : (t.addRow (t.layout.row cells id)).insertRows rest with
      | error f => rw [hrest] at h; cases h
      | ok e' =>
        rw [hrest] at h
        cases h
        obtain ⟨stored, hstored, hlast, haffected, hrows⟩ := ih hrest
        refine ⟨t.layout.row cells id :: stored, .cons hid hstored, ?_, ?_, hrows⟩
        · rw [hlast, List.getLast?_cons]
          cases stored.getLast? <;> rfl
        · rw [haffected, List.length_cons]

namespace Stores

variable {t t' t'' : Table} {rows rows' : List (List Value)} {stored stored' : List Row}

theorem length_eq (h : t.Stores rows stored t') : stored.length = rows.length := by
  induction h with
  | nil => rfl
  | cons _ _ ih => rw [List.length_cons, List.length_cons, ih]

theorem layout_eq (h : t.Stores rows stored t') : t'.layout = t.layout := by
  induction h with
  | nil => rfl
  | cons _ _ ih => exact ih

theorem append (h : t.Stores rows stored t') (h' : t'.Stores rows' stored' t'') :
    t.Stores (rows ++ rows') (stored ++ stored') t'' := by
  induction h with
  | nil => exact h'
  | cons hid _ ih => exact .cons hid (ih h')

/-- Each row holds its cells, and a key that was given stands for its id. -/
theorem getElem (h : t.Stores rows stored t') {i : Nat} {row : Row} (hrow : stored[i]? = some row) :
    ∃ cells, rows[i]? = some cells ∧ row = t.layout.row cells row.id ∧
      ∀ column, t.layout.key = some (column, .autoIncrement) →
        t.layout.cell cells column ≠ .null →
        (t.layout.cell cells column).rowId? = some row.id := by
  induction h generalizing i with
  | nil => cases hrow
  | @cons t t' cells rest id stored hid hrest ih =>
    cases i with
    | succ i => exact ih hrow
    | zero =>
      cases hrow
      exact ⟨cells, rfl, rfl, fun column hkey hgiven => rowId?_of_rowIdFor hkey hid hgiven⟩

theorem isOrdered (h : t.Stores rows stored t') (ht : t.IsOrdered) : t'.IsOrdered := by
  induction h with
  | nil => exact ht
  | cons hid _ ih => exact ih (ht.addRow (ht.permits hid))

end Stores

/-! ### Generated keys -/

section

variable {column : String} (hkey : t.layout.key = some (column, .autoIncrement))

include hkey

theorem rowIdFor_null {cells : List Value} (hnull : t.layout.cell cells column = .null) :
    t.rowIdFor cells = t.nextRowId := by
  unfold rowIdFor
  simp only [hkey, if_pos hnull]

/-- Rows without keys come after the others, under the ids that follow. -/
theorem Stores.generated {rows : List (List Value)} {stored : List Row} {t' : Table}
    (h : t.Stores rows stored t') (ht : t.IsOrdered)
    (hnull : ∀ cells ∈ rows, t.layout.cell cells column = .null) :
    t' = { t with rows := t.rows ++ stored } ∧ t'.lastId = t.lastId + rows.length ∧
      ∀ (i : Nat) (row : Row), stored[i]? = some row → row.id.toInt = t.lastId + 1 + i := by
  induction h with
  | nil t =>
    rw [List.append_nil]
    exact ⟨rfl, by simp, fun i row h => by cases h⟩
  | @cons t t' cells rest id stored hid hrest ih =>
    rw [List.forall_mem_cons] at hnull
    have hnext : t.nextRowId = .ok id := by rw [← rowIdFor_null hkey hnull.1, hid]
    have hplace : t.addRow (t.layout.row cells id) =
        { t with rows := t.rows ++ [t.layout.row cells id] } := by
      have hbefore : ∀ r ∈ t.rows, r.id < (t.layout.row cells id).id :=
        fun r hr => ht.lt_nextRowId hnext hr
      rw [addRow, placeRow_of_lt hbefore]
    have hlast : (t.addRow (t.layout.row cells id)).lastId = t.lastId + 1 := by
      rw [hplace, ← toInt_nextRowId hnext]
      simp [lastId, Layout.row]
    obtain ⟨htable, hlast', hids⟩ := ih hkey (ht.addRow (ht.permits hid)) hnull.2
    refine ⟨?_, ?_, ?_⟩
    · rw [htable, hplace]
      simp
    · rw [hlast', hlast, List.length_cons]
      omega
    · intro i row hrow
      cases i with
      | zero =>
        cases hrow
        rw [Layout.row, toInt_nextRowId hnext]
        omega
      | succ i =>
        rw [hids i row hrow, hlast]
        omega

/-- There is room for as many rows as there are ids left. -/
theorem exists_insertRows {rows : List (List Value)} (ht : t.IsOrdered)
    (hnull : ∀ cells ∈ rows, t.layout.cell cells column = .null)
    (hroom : t.lastId + rows.length ≤ Int64.maxValue.toInt) : ∃ e, t.insertRows rows = .ok e := by
  induction rows generalizing t with
  | nil => exact ⟨_, rfl⟩
  | cons cells rest ih =>
    rw [List.forall_mem_cons] at hnull
    rw [List.length_cons] at hroom
    obtain ⟨id, hnext⟩ := exists_nextRowId (t := t) (by omega)
    have hid : t.rowIdFor cells = .ok id := by rw [rowIdFor_null hkey hnull.1, hnext]
    have hone : t.Stores [cells] [t.layout.row cells id] (t.addRow (t.layout.row cells id)) :=
      .cons hid (.nil _)
    have hlast : (t.addRow (t.layout.row cells id)).lastId = t.lastId + 1 :=
      (hone.generated hkey ht (List.forall_mem_singleton.mpr hnull.1)).2.1
    obtain ⟨e, he⟩ := ih (t := t.addRow (t.layout.row cells id)) hkey
      (ht.addRow (ht.permits hid)) hnull.2 (by omega)
    rw [insertRows, insertCells_eq, hid]
    simp only [Except.map, he]
    exact ⟨_, rfl⟩

end

/-! ### Changes -/

/-- What an update has done, if it succeeds. Where it assigns no key, the rows stay where they
are. -/
theorem updateRows_ok {assignments : List (String × Value)} {filter : Option Condition} {e : Effect}
    (h : t.updateRows assignments filter = .ok e) :
    e.rows = [] ∧
      if t.layout.assignsKey assignments then
        t.changeRows assignments (t.rows.filter (t.meets filter)) = .ok e.table
      else
        let assign (r : Row) : Row := { r with cells := t.layout.assign assignments r.cells }
        e.table = { t with
          rows := t.rows.map fun r => if t.meets filter r then assign r else r } := by
  unfold updateRows at h
  dsimp only at h
  split at h
  · next hkey =>
    rw [if_pos hkey]
    split at h
    · cases h
    · next hrows =>
      cases h
      exact ⟨rfl, hrows⟩
  · next hkey =>
    rw [if_neg hkey]
    cases h
    exact ⟨rfl, rfl⟩

end Table

end SqlCompose
