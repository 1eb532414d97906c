import SqlCompose.Proofs.Sql.Changes
import SqlCompose.Proofs.Store.Keyed

/-! Updating and deleting by key. The statement for a record meets the rows that have its key, of
which there is at most one, and it leaves all other rows as they are. -/

namespace SqlCompose

/-! ### Rows with a key -/

/-- Whether a row has a primary key. -/
def Layout.hasKey (l : Layout) (key : Value) (row : Row) : Bool :=
  l.key.any fun k => (l.cell row.cells k.1).sameKey key

namespace Table

variable {t : Table} {column : String} {origin : KeyOrigin}

section

variable (hl : t.layout.IsKeyedBy column origin)

include hl

theorem hasKey_eq (key : Value) (row : Row) :
    t.layout.hasKey key row = (t.layout.cell row.cells column).sameKey key := by
  simp [Layout.hasKey, hl.key]

/-- There is at most one row with a key. -/
theorem IsKeyed.length_hasKey_le (h : t.IsKeyed column) (key : Value) :
    (t.rows.filter (t.layout.hasKey key)).length ≤ 1 := by
  have hdistinct := h.distinct.filter (t.layout.hasKey key)
  have hsame : ∀ row ∈ t.rows.filter (t.layout.hasKey key),
      (t.layout.cell row.cells column).sameKey key = true := by
    intro row hrow
    rw [← hasKey_eq hl]
    exact (List.mem_filter.mp hrow).2
  match t.rows.filter (t.layout.hasKey key), hdistinct, hsame with
  | [], _, _ | [_], _, _ => simp
  | r :: s :: rest, hdistinct, hsame =>
    have hne := (List.pairwise_cons.mp hdistinct).1 s List.mem_cons_self
    have heq := Value.sameKey_of_sameKey (hsame r List.mem_cons_self)
      (hsame s (List.mem_cons_of_mem r List.mem_cons_self))
    rw [heq] at hne
    cases hne

theorem filter_hasKey_null : t.rows.filter (t.layout.hasKey .null) = [] := by
  refine List.filter_eq_nil_iff.mpr fun row _ => ?_
  rw [hasKey_eq hl, Value.sameKey_null]
  exact Bool.false_ne_true

/-! ### Conditions -/

variable {key : Value}
  (hnumeric : t.layout.isRowId column = true → key.bound.numeric = key.bound)

include hnumeric

/-- How the column of the key compares with a bound key. -/
theorem compareTerms_key (qualifier : Option String) (row : Row) :
    Condition.compareTerms (t.layout.valuation row.cells) .equal (.column qualifier column)
      (.literal key.bound) = some true ↔ t.layout.hasKey key row = true := by
  have hkey : (if t.layout.isRowId column = true then key.bound.numeric else key.bound) =
      key.bound := by
    split
    · next hid => exact hnumeric hid
    · rfl
  have horder : (Term.column qualifier column).order? (t.layout.valuation row.cells)
      (.literal key.bound) = (t.layout.cell row.cells column).order? key.bound := by
    show (t.layout.cell row.cells column).order?
      (if t.layout.isRowId column = true then key.bound.numeric else key.bound) = _
    rw [hkey]
  rw [hasKey_eq hl, ← Value.sameKey_bound, Value.sameKey, Condition.compareTerms, horder]
  cases (t.layout.cell row.cells column).order? key.bound with
  | none => decide
  | some o => cases o <;> decide

theorem meets_update : t.meets (some (RowUpdate.keyed t.layout.name column key)) =
    t.layout.hasKey key := by
  funext row
  rw [Bool.eq_iff_iff, ← compareTerms_key hl hnumeric (some t.layout.name) row]
  exact beq_iff_eq

theorem meets_delete : t.meets (some (RowDelete.keyed t.layout.name column [key])) =
    t.layout.hasKey key := by
  funext row
  rw [Bool.eq_iff_iff, ← compareTerms_key hl hnumeric (some t.layout.name) row]
  refine beq_iff_eq.trans ?_
  show Truth.or (Condition.compareTerms _ _ _ _) (some false) = some true ↔ _
  cases Condition.compareTerms (t.layout.valuation row.cells) .equal
    (.column (some t.layout.name) column) (.literal key.bound) with
  | none => decide
  | some b => cases b <;> decide

end

end Table

/-! ### Models with a key -/

/-- A model with one primary key, of which all names are plain. -/
structure Model.IsKeyedBy (m : Model) (key : Column) (origin : KeyOrigin) : Prop where
  primary : m.primaryKey? = some key
  origin : key.key = some origin
  stored : key ∈ m.storedColumns
  only : ∀ c ∈ m.storedColumns, c.key.isSome = true → c = key
  nodup : m.columnNames.Nodup
  table : Text.isName m.table = true
  columns : ∀ name ∈ m.columnNames, Text.isName name = true

/-- The cells of a row are the values of a record. Only the key may be an integer beside an equal
real, or the reverse. -/
structure Model.Holds (m : Model) (cells values : List Value) : Prop where
  width : cells.length = m.columnNames.length
  length_eq : values.length = m.columnNames.length
  same : ∀ (i : Nat) c v w, m.storedColumns[i]? = some c → cells[i]? = some v →
    values[i]? = some w →
    v.same w = true ∨ c.key.isSome = true ∧ v.isReal ≠ w.isReal ∧ v.sameKey w = true

namespace Model.IsKeyedBy

variable {m : Model} {key : Column} {origin : KeyOrigin} (hm : m.IsKeyedBy key origin)

include hm

theorem layout : (Layout.ofModel m).IsKeyedBy key.name origin where
  key := by simp [Layout.ofModel, hm.primary, hm.origin]
  nodup := hm.nodup
  mem := List.mem_map_of_mem hm.stored

theorem hasWords : (Insertion.ofModel m).HasWords :=
  ⟨isWordChar_of_isName hm.table, fun column hc => isWordChar_of_isName (hm.columns column hc)⟩

theorem nodup_assigned {values : List Value} (hvalues : values.length = m.columnNames.length) :
    ((RowUpdate.assigned m values).map fun p => p.1.name).Nodup := by
  have hzip : (m.storedColumns.zip values).map Prod.fst = m.storedColumns := by
    refine List.map_fst_zip (Nat.le_of_eq ?_)
    rw [hvalues, Model.columnNames, List.length_map]
  have hnames : (m.storedColumns.zip values).map (fun p => p.1.name) = m.columnNames :=
    List.map_map.symm.trans (congrArg (List.map (·.name)) hzip)
  have hsublist : ((RowUpdate.assigned m values).map fun p => p.1.name).Sublist m.columnNames :=
    hnames ▸ List.filter_sublist.map _
  exact hsublist.nodup hm.nodup

/-- No value is assigned to the key. -/
theorem ne_key_of_assigned {values : List Value} {p : Column × Value}
    (hp : p ∈ RowUpdate.assigned m values) : p.1.name ≠ key.name := by
  intro hname
  obtain ⟨hzip, hnone⟩ := List.mem_filter.mp hp
  have hmem : p.1 ∈ m.storedColumns := (List.of_mem_zip hzip).1
  have hsame : p.1 = key := List.inj_on_of_nodup_map hm.nodup hmem hm.stored hname
  rw [hsame, hm.origin] at hnone
  cases hnone

/-- Every other column is assigned by an update. -/
theorem getElem_assign {values cells : List Value} (hcells : cells.length = m.columnNames.length)
    (hvalues : values.length = m.columnNames.length) {i : Nat} {c : Column}
    (hc : m.storedColumns[i]? = some c) {v : Value} (hv : values[i]? = some v) :
    ((Layout.ofModel m).assign
      ((RowUpdate.assigned m values).map fun p => (p.1.name, p.2.bound)) cells)[i]? =
        if c = key then cells[i]? else some v.bound := by
  have hi : (Layout.ofModel m).columns[i]? = some c.name := by
    show m.columnNames[i]? = _
    rw [Model.columnNames, List.getElem?_map, hc]
    rfl
  split
  · next heq =>
    subst heq
    exact Layout.getElem_assign_of_not_mem hcells hi
      (List.forall_mem_map.mpr fun p hp => hm.ne_key_of_assigned hp)
  · next hne =>
    have hnone : c.key.isNone = true := by
      rw [← Option.not_isSome, Bool.not_eq_true', ← Bool.not_eq_true]
      exact fun hsome => hne (hm.only c (List.mem_of_getElem? hc) hsome)
    refine Layout.getElem_assign_of_mem hcells hi ?_ ?_
    · rw [List.map_map]
      exact hm.nodup_assigned hvalues
    · refine List.mem_map.mpr ⟨(c, v), List.mem_filter.mpr ⟨?_, hnone⟩, rfl⟩
      exact List.mem_of_getElem? (List.getElem?_zip_eq_some.mpr ⟨hc, hv⟩)

/-- An update assigns no key. -/
theorem assignsKey_assigned (values : List Value) :
    (Layout.ofModel m).assignsKey
      ((RowUpdate.assigned m values).map fun p => (p.1.name, p.2.bound)) = false := by
  rw [← Bool.not_eq_true]
  intro hkey
  obtain ⟨a, ha, hname⟩ := (Table.assignsKey_iff (t := { layout := .ofModel m }) hm.layout).mp hkey
  obtain ⟨p, hp, rfl⟩ := List.mem_map.mp ha
  exact hm.ne_key_of_assigned hp hname

/-- What an update leaves in the cells of a row with the key of a record: the values of the record.
The key itself stays, as it is the same key. -/
theorem holds_assign {values cells : List Value} (hcells : cells.length = m.columnNames.length)
    (hvalues : values.length = m.columnNames.length) (hnan : ∀ v ∈ values, v.isNaN = false)
    (hkey : ∀ (i : Nat) v, m.storedColumns[i]? = some key → values[i]? = some v →
      ((Layout.ofModel m).cell cells key.name).sameKey v = true) :
    m.Holds ((Layout.ofModel m).assign
      ((RowUpdate.assigned m values).map fun p => (p.1.name, p.2.bound)) cells) values := by
  refine ⟨Layout.length_assign hcells, hvalues, fun i c v w hc hv hw => ?_⟩
  rw [hm.getElem_assign hcells hvalues hc hw] at hv
  split at hv
  · next heq =>
    have hcolumn : (Layout.ofModel m).columns[i]? = some key.name := by
      show m.columnNames[i]? = _
      rw [Model.columnNames, List.getElem?_map, hc, heq]
      rfl
    rw [Layout.getElem_cell hcells hm.nodup hcolumn] at hv
    have hsame := hkey i w (heq ▸ hc) hw
    rw [Option.some.inj hv] at hsame
    by_cases hreal : v.isReal = w.isReal
    · exact .inl (Value.same_of_sameKey hsame hreal)
    · exact .inr ⟨by rw [heq, hm.origin]; rfl, hreal, hsame⟩
  · have hnan := hnan w (List.mem_of_getElem? hw)
    rw [← Option.some.inj hv, Value.bound_of_not_isNaN hnan]
    exact .inl (Value.same_self hnan)

end Model.IsKeyedBy

/-! ### Execution -/

namespace Database

variable {db : Database} {f : Fragment}

theorem prepare_says {s : Statement} (h : f.Says s) (hfault : db.table.layout.fault? s = none) :
    db.prepare f = .ok s := by
  have hread := h.ofFragment
  obtain ⟨ts, ⟨raw, hraw, hcount, -⟩, -⟩ := h
  have hparameters : parameterCount f = f.params.length := by
    rw [parameterCount, hraw, ← hcount]
    rfl
  rw [prepare, hread]
  simp only [hfault]
  exact if_pos hparameters

theorem execute_update {table : String} {assignments : List (String × Value)}
    {filter : Option Condition} (h : f.Says (.update table assignments filter))
    (hfault : db.table.layout.fault? (.update table assignments filter) = none)
    (hkey : db.table.layout.assignsKey assignments = false) :
    let assign (r : Row) : Row := { r with cells := db.table.layout.assign assignments r.cells }
    let rows := db.table.rows.map fun r => if db.table.meets filter r then assign r else r
    db.execute f =
      (.ok { lastRowId := db.lastRowId
             rowsAffected := db.table.rows.countP (db.table.meets filter) },
        { db with table := { db.table with rows } }) := by
  intro assign rows
  rw [execute, prepare_says h hfault]
  simp only [run, Table.run, Table.updateRows, hkey]
  rfl

theorem execute_delete {table : String} {filter : Option Condition}
    (h : f.Says (.delete table filter))
    (hfault : db.table.layout.fault? (.delete table filter) = none) :
    db.execute f =
      (.ok { lastRowId := db.lastRowId,
             rowsAffected := db.table.rows.countP (db.table.meets filter) },
        { db with table := (db.table.deleteRows filter).table }) := by
  rw [execute, prepare_says h hfault]
  rfl

end Database

/-! ### Records -/

/-- Updating and deleting a record concerns some rows of the table and no others. The update makes
their cells hold the values of the record, in place and under the same ids, and the deletion
removes them. Both report how many they are. -/
structure ChangesOnly {ρ : Type} (T : RecordType ρ) (db : Database) (r : ρ) (own : List Row) :
    Prop where
  update : ∀ values, T.values r = .ok values → (∀ v ∈ values, v.isNaN = false) →
    (∃ c ∈ T.model.storedColumns, c.key = none) → ∃ rows,
      db.updateRecord T r = (.ok { lastRowId := db.lastRowId, rowsAffected := own.length },
        { db with table := { db.table with rows } }) ∧
      List.Forall₂ (fun row row' => row'.id = row.id ∧
        if row ∈ own then T.model.Holds row'.cells values
        else row' = row) db.table.rows rows
  delete : db.deleteRecord T r =
    (.ok { lastRowId := db.lastRowId, rowsAffected := own.length },
      { db with table := { db.table with rows := db.table.rows.filter (· ∉ own) } })

section

variable {ρ : Type} {T : RecordType ρ} {db : Database} {r : ρ} {key : Column} {origin : KeyOrigin}
  (hm : T.model.IsKeyedBy key origin)
  (hlayout : db.table.layout = .ofModel T.model)

include hm hlayout

/-- A condition on the key suits the table. -/
theorem filterFault_key {c : Condition} (hc : c.columns = [(some T.model.table, key.name)]) :
    db.table.layout.filterFault? (some c) = none := by
  have hmem : key.name ∈ (Layout.ofModel T.model).columns := hm.layout.mem
  have htable : (Layout.ofModel T.model).name = T.model.table := rfl
  simp [Layout.filterFault?, hc, hlayout, Layout.columnFault?, hmem, htable]

omit hm in
/-- The assignments of an update suit the table. -/
theorem columnFault_assigned (values : List Value) :
    ((RowUpdate.assigned T.model values).map fun p => (p.1.name, p.2.bound)).findSome?
      (fun a => db.table.layout.columnFault? (none, a.1)) = none := by
  rw [hlayout, List.findSome?_eq_none_iff]
  refine List.forall_mem_map.mpr fun p hp => ?_
  have hmem : p.1 ∈ T.model.storedColumns := (List.of_mem_zip (List.mem_filter.mp hp).1).1
  have hcolumn : p.1.name ∈ (Layout.ofModel T.model).columns := List.mem_map_of_mem hmem
  simp [Layout.columnFault?, hcolumn]

variable {v : Value} (hv : T.key r = .ok v)
  (hnumeric : origin = .autoIncrement → v.bound.numeric = v.bound)

include hv hnumeric

/-- The deletion of a record removes the rows that have its key. -/
theorem deleteRecord_eq :
    db.deleteRecord T r =
      (.ok { lastRowId := db.lastRowId
             rowsAffected := (db.table.rows.filter (db.table.layout.hasKey v)).length },
        { db with table := { db.table with
            rows := db.table.rows.filter fun row => !db.table.layout.hasKey v row } }) := by
  have hl : db.table.layout.IsKeyedBy key.name origin := hlayout ▸ hm.layout
  have hname : db.table.layout.name = T.model.table := by rw [hlayout]; rfl
  have hvalues : [Scalar.stored v].mapM Scalar.toValue = .ok [v] := rfl
  obtain ⟨d, hd, hsays⟩ := RowDelete.says_ofKeys T.schema hm.primary hm.table
    (hm.columns _ hm.layout.mem) hvalues
  have hcompile : RowDelete.compileRecord T r = .ok d.compile :=
    bind_of_ok ((bind_of_ok hv _).trans hd) _
  have hfault : db.table.layout.fault? (.delete T.model.table
      (some (RowDelete.keyed T.model.table key.name [v]))) = none := by
    have hfilter := filterFault_key hm hlayout (c := RowDelete.keyed T.model.table key.name [v]) rfl
    rw [Layout.fault?, Layout.tableFault?, hname, if_pos rfl, hfilter]
    rfl
  have hmeets : db.table.meets (some (RowDelete.keyed db.table.layout.name key.name [v])) =
      db.table.layout.hasKey v :=
    Table.meets_delete hl fun hid => hnumeric ((Table.isRowId_iff hl).mp hid)
  rw [Database.deleteRecord, hcompile]
  refine (Database.execute_delete hsays hfault).trans ?_
  rw [Table.deleteRows, ← hname, hmeets, List.countP_eq_length_filter]

variable {values : List Value} (hvalues : T.values r = .ok values)
  (hlength : values.length = T.model.columnNames.length)

include hvalues hlength

/-- The update of a record assigns its values to the rows that have its key. -/
theorem updateRecord_eq (hother : ∃ c ∈ T.model.storedColumns, c.key = none) :
    let l := db.table.layout
    let assigned := (RowUpdate.assigned T.model values).map fun p => (p.1.name, p.2.bound)
    db.updateRecord T r =
      (.ok { lastRowId := db.lastRowId,
             rowsAffected := (db.table.rows.filter (l.hasKey v)).length },
        { db with table := { db.table with
            rows := db.table.rows.map fun row =>
              if l.hasKey v row then { row with cells := l.assign assigned row.cells }
              else row } }) := by
  intro l assigned
  have hl : db.table.layout.IsKeyedBy key.name origin := hlayout ▸ hm.layout
  have hname : db.table.layout.name = T.model.table := by rw [hlayout]; rfl
  have hassigned : RowUpdate.assigned T.model values ≠ [] := by
    obtain ⟨c, hc, hnone⟩ := hother
    obtain ⟨i, hi, rfl⟩ := List.mem_iff_getElem.mp hc
    have hi' : i < values.length := by rwa [hlength, Model.columnNames, List.length_map]
    have hzip : (T.model.storedColumns[i], values[i]) ∈ T.model.storedColumns.zip values :=
      List.mem_of_getElem? (List.getElem?_zip_eq_some.mpr
        ⟨List.getElem?_eq_getElem hi, List.getElem?_eq_getElem hi'⟩)
    exact List.ne_nil_of_mem (List.mem_filter.mpr ⟨hzip, by rw [hnone]; rfl⟩)
  obtain ⟨f, hcompile, hsays⟩ := RowUpdate.says_compileRecord hm.primary hvalues hv hm.table
    (hm.columns _ hm.layout.mem) hm.columns hassigned
  have hfault : db.table.layout.fault? (.update T.model.table assigned
      (some (RowUpdate.keyed T.model.table key.name v))) = none := by
    have hfilter := filterFault_key hm hlayout (c := RowUpdate.keyed T.model.table key.name v) rfl
    have hassignments := columnFault_assigned hlayout values
    rw [Layout.fault?, Layout.tableFault?, hname, if_pos rfl, hassignments, hfilter]
    rfl
  have hkey : db.table.layout.assignsKey assigned = false := by
    rw [hlayout]
    exact hm.assignsKey_assigned values
  have hmeets : db.table.meets (some (RowUpdate.keyed db.table.layout.name key.name v)) =
      db.table.layout.hasKey v :=
    Table.meets_update hl fun hid => hnumeric ((Table.isRowId_iff hl).mp hid)
  rw [Database.updateRecord, hcompile]
  refine (Database.execute_update hsays hfault hkey).trans ?_
  rw [← hname, hmeets, List.countP_eq_length_filter]

omit hvalues hlength in
/-- Updating and deleting a record concerns exactly the rows that have its key. -/
theorem changesOnly_hasKey (h : db.table.IsKeyed key.name)
    (hrow : ∀ values, T.values r = .ok values → values.length = T.model.columnNames.length ∧
      ∀ i : Nat, T.model.storedColumns[i]? = some key → values[i]? = some v) :
    ChangesOnly T db r (db.table.rows.filter (db.table.layout.hasKey v)) := by
  have hl : db.table.layout.IsKeyedBy key.name origin := hlayout ▸ hm.layout
  have hown {row : Row} (hmem : row ∈ db.table.rows) :
      row ∈ db.table.rows.filter (db.table.layout.hasKey v) ↔
        db.table.layout.hasKey v row = true := by
    simp [hmem]
  refine ⟨fun values hvalues hnan hother => ?_, ?_⟩
  · obtain ⟨hlength, hplace⟩ := hrow values hvalues
    refine ⟨_, updateRecord_eq hm hlayout hv hnumeric hvalues hlength hother, ?_⟩
    rw [List.forall₂_map_right_iff]
    refine List.forall₂_same.mpr fun row hmem => ?_
    by_cases hkey : db.table.layout.hasKey v row = true
    · rw [if_pos hkey, if_pos ((hown hmem).mpr hkey)]
      refine ⟨rfl, ?_⟩
      have hwidth := h.width row hmem
      rw [Table.hasKey_eq hl] at hkey
      rw [hlayout] at hwidth hkey ⊢
      refine hm.holds_assign hwidth hlength hnan fun i w hi hw => ?_
      obtain rfl : w = v := Option.some.inj (hw.symm.trans (hplace i hi))
      exact hkey
    · rw [if_neg hkey, if_neg fun hmem' => hkey ((hown hmem).mp hmem')]
      exact ⟨rfl, rfl⟩
  · refine (deleteRecord_eq hm hlayout hv hnumeric).trans ?_
    have hrest : db.table.rows.filter (fun row => !db.table.layout.hasKey v row) =
        db.table.rows.filter (· ∉ db.table.rows.filter (db.table.layout.hasKey v)) := by
      refine List.filter_congr fun row hmem => ?_
      rw [Bool.eq_iff_iff, Bool.not_eq_true', decide_eq_true_eq, hown hmem, Bool.not_eq_true]
    rw [hrest]

end

end SqlCompose
