import SqlCompose.Proofs.Fragment
import SqlCompose.Proofs.Store.Batches

/-! The statements for a batch of rows, and when there are none. The rows are split into groups, one
statement for each; a group stays below the limit on parameters or is a single row, and no split
with this property has fewer groups. Records are split like their rows, so each of them comes with
the statement that carries its values. -/

namespace SqlCompose

/-! ### Numbers of pieces -/

section

variable {α : Type} {size k : Nat}

/-- A list is split into no more pieces than have room for it. -/
theorem length_chunksWithin_le {pieces : Nat} {l : List α} (h : l.length ≤ k * size) :
    (chunksWithin size pieces l).length ≤ k := by
  induction pieces generalizing l k with
  | zero => exact Nat.zero_le _
  | succ pieces ih =>
    cases l with
    | nil => exact Nat.zero_le _
    | cons a rest =>
      cases k with
      | zero => simp at h
      | succ k =>
        have hrest : ((a :: rest).drop size).length ≤ k * size := by
          rw [List.length_drop]
          rw [Nat.succ_mul] at h
          omega
        rw [chunksWithin, List.length_cons]
        exact Nat.succ_le_succ (ih hrest)

theorem length_flatten_le {groups : List (List α)}
    (h : ∀ group ∈ groups, group.length ≤ size) :
    groups.flatten.length ≤ groups.length * size := by
  induction groups with
  | nil => simp
  | cons group groups ih =>
    obtain ⟨hgroup, hgroups⟩ := List.forall_mem_cons.mp h
    have hrest := ih hgroups
    rw [List.flatten_cons, List.length_append, List.length_cons, Nat.succ_mul]
    omega

/-- Pieces of a size are as few as pieces up to this size can be, also when the elements are
arranged in another way. -/
theorem length_chunks_le {l : List α} {groups : List (List α)} (hgroups : groups.flatten.Perm l)
    (h : ∀ group ∈ groups, group.length ≤ size) : (chunks size l).length ≤ groups.length :=
  length_chunksWithin_le (hgroups.length_eq ▸ length_flatten_le h)

end

namespace Insertion

variable {i : Insertion} {rows : List (List Value)}

/-! ### Statements and groups -/

/-- The statement for a group of rows: after the header, the placeholders of each row in
parentheses. It binds the values row by row. -/
structure IsStatement (i : Insertion) (group : List (List Value)) (f : Fragment) : Prop where
  sql_eq : f.sql =
    "INSERT INTO " ++ i.table ++ " (" ++ ", ".intercalate i.columns ++ ") VALUES " ++
      ", ".intercalate (List.replicate group.length
        ("(" ++ ", ".intercalate (List.replicate i.columns.length "?") ++ ")"))
  params_eq : f.params = group.flatten

/-- Rows that one statement may take: their values stay below the limit, or it is a single row that
may reach it. -/
def Admits (i : Insertion) (group : List (List Value)) : Prop :=
  group.flatten.length < i.maxParams ∨ group.length = 1 ∧ group.flatten.length ≤ i.maxParams

/-- The first row that does not have one value for each column. -/
def FirstRagged (i : Insertion) (rows : List (List Value)) (row : List Value) : Prop :=
  ∃ before after, rows = before ++ row :: after ∧
    (∀ r ∈ before, r.length = i.columns.length) ∧ row.length ≠ i.columns.length

theorem boundList_eq (row : List Value) :
    Fragment.boundList row =
      ⟨", ".intercalate (List.replicate row.length "?"), row⟩ := by
  rw [Fragment.boundList, Fragment.join_eq]
  refine Fragment.ext ?_ ?_
  · simp [Fragment.bound, Binding.place, Fragment.placeholder, Function.comp_def]
  · simp [Fragment.bound, Binding.place, Fragment.placeholder, List.flatMap_map]

/-- The statement for rows that have one value for each column. -/
theorem isStatement_statement {group : List (List Value)}
    (h : ∀ row ∈ group, row.length = i.columns.length) :
    i.IsStatement group (i.statement group) := by
  have htuples : (group.map fun row => (Fragment.boundList row).parenthesized) =
      group.map fun row =>
        ⟨"(" ++ ", ".intercalate (List.replicate i.columns.length "?") ++ ")", row⟩ := by
    refine List.map_congr_left fun row hrow => ?_
    rw [boundList_eq, h row hrow]
    exact Fragment.ext (by simp [Fragment.parenthesized]) (by simp [Fragment.parenthesized])
  rw [statement, htuples, Fragment.join_eq]
  constructor
  · simp [head, Function.comp_def]
  · simp [List.flatMap_map]

/-! ### Sizes of groups -/

/-- There are no columns, or a row has too many values, or some rows go into a statement. -/
theorem rowsPerStatement_cases (i : Insertion) :
    i.columns.length = 0 ∧ i.rowsPerStatement = .error (.nothingToInsert i.table) ∨
    i.maxParams < i.columns.length ∧
      i.rowsPerStatement = .error (.parameterLimit i.columns.length i.maxParams) ∨
    0 < i.columns.length ∧ i.columns.length ≤ i.maxParams ∧
      i.rowsPerStatement = .ok (max 1 ((i.maxParams - 1) / i.columns.length)) := by
  by_cases hcolumns : i.columns.length = 0
  · exact .inl ⟨hcolumns, by simp only [rowsPerStatement, if_pos hcolumns]⟩
  · by_cases hlimit : i.maxParams < i.columns.length
    · exact .inr (.inl ⟨hlimit, by simp only [rowsPerStatement, if_neg hcolumns, if_pos hlimit]⟩)
    · exact .inr (.inr ⟨Nat.pos_of_ne_zero hcolumns, Nat.le_of_not_lt hlimit,
        by simp only [rowsPerStatement, if_neg hcolumns, if_neg hlimit]⟩)

theorem rowsPerStatement_eq {size : Nat} (h : i.rowsPerStatement = .ok size) :
    0 < i.columns.length ∧ i.columns.length ≤ i.maxParams ∧
      size = max 1 ((i.maxParams - 1) / i.columns.length) := by
  obtain ⟨-, herror⟩ | ⟨-, herror⟩ | ⟨hpos, hlimit, hsize⟩ := i.rowsPerStatement_cases
  · cases h.symm.trans herror
  · cases h.symm.trans herror
  · exact ⟨hpos, hlimit, Except.ok.inj (h.symm.trans hsize)⟩

theorem rowsPerStatement_error_iff :
    (∃ e, i.rowsPerStatement = .error e) ↔
      i.columns.length = 0 ∨ i.maxParams < i.columns.length := by
  obtain ⟨hcolumns, herror⟩ | ⟨hlimit, herror⟩ | ⟨hpos, hlimit, hsize⟩ := i.rowsPerStatement_cases
  · exact ⟨fun _ => .inl hcolumns, fun _ => ⟨_, herror⟩⟩
  · exact ⟨fun _ => .inr hlimit, fun _ => ⟨_, herror⟩⟩
  · constructor
    · rintro ⟨e, herror⟩
      cases hsize.symm.trans herror
    · intro h
      omega

theorem rowsPerStatement_error {e : Error} (h : i.rowsPerStatement = .error e) :
    e = .nothingToInsert i.table ∨ e = .parameterLimit i.columns.length i.maxParams := by
  obtain ⟨-, herror⟩ | ⟨-, herror⟩ | ⟨-, -, hsize⟩ := i.rowsPerStatement_cases
  · exact .inl (Except.error.inj (h.symm.trans herror))
  · exact .inr (Except.error.inj (h.symm.trans herror))
  · cases h.symm.trans hsize

theorem length_flatten_of_width {group : List (List Value)}
    (h : ∀ row ∈ group, row.length = i.columns.length) :
    group.flatten.length = group.length * i.columns.length := by
  induction group with
  | nil => simp
  | cons row group ih =>
    obtain ⟨hrow, hgroup⟩ := List.forall_mem_cons.mp h
    rw [List.flatten_cons, List.length_append, List.length_cons, Nat.succ_mul, ih hgroup, hrow,
      Nat.add_comm]

section

variable {size : Nat} (hsize : i.rowsPerStatement = .ok size) {group : List (List Value)}
  (hwidth : ∀ row ∈ group, row.length = i.columns.length)

include hsize hwidth

/-- As many rows as a statement takes, or fewer, stay within the bound. -/
theorem admits_of_length_le (hne : group ≠ []) (h : group.length ≤ size) : i.Admits group := by
  obtain ⟨hpos, hlimit, rfl⟩ := rowsPerStatement_eq hsize
  have hgroup : 0 < group.length := List.length_pos_of_ne_nil hne
  rw [Admits, length_flatten_of_width hwidth]
  by_cases hsingle : group.length = 1
  · right
    rw [hsingle, Nat.one_mul]
    exact ⟨rfl, hlimit⟩
  · left
    have hle : group.length ≤ (i.maxParams - 1) / i.columns.length := by omega
    have hmul := (Nat.le_div_iff_mul_le hpos).mp hle
    omega

/-- Rows within the bound are no more than a statement takes. -/
theorem length_le_of_admits (h : i.Admits group) : group.length ≤ size := by
  obtain ⟨hpos, hlimit, rfl⟩ := rowsPerStatement_eq hsize
  rw [Admits, length_flatten_of_width hwidth] at h
  obtain h | ⟨h, -⟩ := h
  · have hdiv : group.length ≤ (i.maxParams - 1) / i.columns.length := by
      rw [Nat.le_div_iff_mul_le hpos]
      omega
    exact Nat.le_trans hdiv (Nat.le_max_right _ _)
  · exact h ▸ Nat.le_max_left _ _

end

/-! ### Batches -/

theorem find?_eq_some_iff_firstRagged {row : List Value} :
    (rows.find? fun r => r.length ≠ i.columns.length) = some row ↔ i.FirstRagged rows row := by
  rw [List.find?_eq_some_iff_append, FirstRagged]
  constructor
  · rintro ⟨hrow, before, after, rfl, hbefore⟩
    exact ⟨before, after, rfl, by simpa using hbefore, by simpa using hrow⟩
  · rintro ⟨before, after, rfl, hbefore, hrow⟩
    exact ⟨by simpa using hrow, before, after, rfl, by simpa using hbefore⟩

theorem compile_of_firstRagged {row : List Value} (h : i.FirstRagged rows row) :
    i.compile rows =
      .error (.raggedBatch i.table i.columns.length row.length (inspectRow row)) := by
  have hempty : ¬ rows.isEmpty = true := by
    obtain ⟨before, after, rfl, -, -⟩ := h
    simp
  unfold compile
  rw [if_neg hempty, find?_eq_some_iff_firstRagged.mpr h]

theorem compile_of_width (hrows : rows ≠ [])
    (hwidth : ∀ row ∈ rows, row.length = i.columns.length) :
    i.compile rows =
      i.rowsPerStatement.map fun size => (chunks size rows).map i.statement := by
  cases hsize : i.rowsPerStatement with
  | ok size => exact exists_compile hrows hwidth hsize
  | error e =>
    have hragged : (rows.find? fun row => row.length ≠ i.columns.length) = none :=
      List.find?_eq_none.mpr fun row hrow => by simpa using hwidth row hrow
    have hempty : ¬ rows.isEmpty = true := by simpa using hrows
    unfold compile
    rw [if_neg hempty, hragged, hsize]
    rfl

/-- There are no rows, or there is a first row of another width, or all rows have one value for
each column. -/
theorem rows_cases (i : Insertion) (rows : List (List Value)) :
    rows = [] ∨ (∃ row, i.FirstRagged rows row) ∨
      rows ≠ [] ∧ ∀ row ∈ rows, row.length = i.columns.length := by
  by_cases hrows : rows = []
  · exact .inl hrows
  · cases hragged : rows.find? fun r => r.length ≠ i.columns.length with
    | some row => exact .inr (.inl ⟨row, find?_eq_some_iff_firstRagged.mp hragged⟩)
    | none =>
      refine .inr (.inr ⟨hrows, fun row hrow => ?_⟩)
      simpa using List.find?_eq_none.mp hragged row hrow

/-- The errors of rows of the right width are about the insertion and not about the rows. -/
theorem compile_error_of_width (hrows : rows ≠ [])
    (hwidth : ∀ row ∈ rows, row.length = i.columns.length) {e : Error} :
    i.compile rows = .error e ↔ i.rowsPerStatement = .error e := by
  rw [compile_of_width hrows hwidth]
  cases i.rowsPerStatement <;> simp [Except.map]

theorem compile_emptyBatch_iff (table : String) :
    i.compile rows = .error (.emptyBatch table) ↔ rows = [] ∧ table = i.table := by
  obtain rfl | ⟨row, hrow⟩ | ⟨hrows, hwidth⟩ := rows_cases i rows
  · constructor
    · intro h
      cases h
      exact ⟨rfl, rfl⟩
    · rintro ⟨-, rfl⟩
      rfl
  · rw [compile_of_firstRagged hrow]
    constructor
    · intro h
      cases h
    · rintro ⟨rfl, -⟩
      obtain ⟨before, after, h, -⟩ := hrow
      simp at h
  · rw [compile_error_of_width hrows hwidth]
    constructor
    · intro h
      obtain h | h := rowsPerStatement_error h <;> cases h
    · exact fun h => absurd h.1 hrows

theorem compile_raggedBatch_iff (table : String) (expected actual : Nat) (shown : String) :
    i.compile rows = .error (.raggedBatch table expected actual shown) ↔
      ∃ row, i.FirstRagged rows row ∧ table = i.table ∧ expected = i.columns.length ∧
        actual = row.length ∧ shown = inspectRow row := by
  constructor
  · intro h
    obtain rfl | ⟨row, hrow⟩ | ⟨hrows, hwidth⟩ := rows_cases i rows
    · cases h
    · rw [compile_of_firstRagged hrow] at h
      cases h
      exact ⟨row, hrow, rfl, rfl, rfl, rfl⟩
    · rw [compile_error_of_width hrows hwidth] at h
      obtain h | h := rowsPerStatement_error h <;> cases h
  · rintro ⟨row, hrow, rfl, rfl, rfl, rfl⟩
    exact compile_of_firstRagged hrow

theorem compile_fails_iff (hrows : rows ≠ [])
    (hwidth : ∀ row ∈ rows, row.length = i.columns.length) :
    (∃ e, i.compile rows = .error e) ↔
      i.columns.length = 0 ∨ i.maxParams < i.columns.length := by
  rw [← rowsPerStatement_error_iff]
  exact exists_congr fun e => compile_error_of_width hrows hwidth

/-! ### Splits -/

/-- How the rows of a batch are split over its statements: into groups within the bound, without
splitting or moving a row. -/
structure Splits (i : Insertion) (rows : List (List Value)) (groups : List (List (List Value)))
    (statements : List Fragment) : Prop where
  flatten_eq : groups.flatten = rows
  isStatement : List.Forall₂ i.IsStatement groups statements
  solid : ∀ group ∈ groups, group ≠ []
  admits : ∀ group ∈ groups, i.Admits group

/-- The statements together bind the values of the rows in order. -/
theorem Splits.params_eq {groups : List (List (List Value))} {statements : List Fragment}
    (h : i.Splits rows groups statements) :
    statements.flatMap (·.params) = rows.flatten := by
  obtain ⟨rfl, hstatements, -, -⟩ := h
  induction hstatements with
  | nil => rfl
  | cons hf _ ih => rw [List.flatMap_cons, hf.params_eq, ih, List.flatten_cons, List.flatten_append]

section

variable {size : Nat} (hsize : i.rowsPerStatement = .ok size)
  (hwidth : ∀ row ∈ rows, row.length = i.columns.length)

include hsize hwidth

theorem width_of_mem_chunks {group : List (List Value)} (h : group ∈ chunks size rows) :
    ∀ row ∈ group, row.length = i.columns.length := by
  obtain ⟨-, -, hpos, -⟩ := rowsPerStatement_ok hsize
  intro row hrow
  refine hwidth row ?_
  rw [← flatten_chunks hpos rows]
  exact List.mem_flatten.mpr ⟨group, h, hrow⟩

theorem splits_chunks : i.Splits rows (chunks size rows) ((chunks size rows).map i.statement) := by
  obtain ⟨-, -, hpos, -⟩ := rowsPerStatement_ok hsize
  refine ⟨flatten_chunks hpos rows, ?_, ?_, ?_⟩
  · rw [List.forall₂_map_right_iff, List.forall₂_same]
    exact fun group h => isStatement_statement (width_of_mem_chunks hsize hwidth h)
  · exact fun group h => (mem_chunks hpos h).1
  · intro group h
    obtain ⟨hne, hle⟩ := mem_chunks hpos h
    exact admits_of_length_le hsize (width_of_mem_chunks hsize hwidth h) hne hle

/-- No other split within the bound has fewer groups. -/
theorem length_chunks_le_of_admits {groups : List (List (List Value))}
    (hgroups : groups.flatten.Perm rows) (h : ∀ group ∈ groups, i.Admits group) :
    (chunks size rows).length ≤ groups.length := by
  refine length_chunks_le hgroups fun group hgroup => ?_
  refine length_le_of_admits hsize (fun row hrow => hwidth row ?_) (h group hgroup)
  exact hgroups.mem_iff.mp (List.mem_flatten.mpr ⟨group, hgroup, hrow⟩)

end

/-- The statement inserts the values of just these records. -/
def Carries {ρ : Type} (i : Insertion) (T : RecordType ρ) (records : List ρ) (f : Fragment) : Prop :=
  ∃ group, records.mapM T.values = .ok group ∧ i.IsStatement group f

/-- Records are split like their rows, so every piece of them comes with its own statement. -/
theorem forall₂_carries {ρ : Type} {T : RecordType ρ} {records : List ρ}
    (hrecords : records.mapM T.values = .ok rows) {size : Nat}
    (hsize : i.rowsPerStatement = .ok size)
    (hwidth : ∀ row ∈ rows, row.length = i.columns.length) :
    List.Forall₂ (i.Carries T) (chunks size records) ((chunks size rows).map i.statement) := by
  have hpieces := forall₂_chunks size (mapM_ok_iff.mp hrecords)
  rw [List.forall₂_map_right_iff]
  rw [List.forall₂_iff_zip] at hpieces ⊢
  refine ⟨hpieces.1, fun {chunk group} h => ?_⟩
  have hgroup : group ∈ chunks size rows := (List.of_mem_zip h).2
  exact ⟨group, mapM_ok_iff.mpr (hpieces.2 h),
    isStatement_statement (width_of_mem_chunks hsize hwidth hgroup)⟩

/-- A transaction compiles the rows of its records. -/
theorem insertRecords_of_compile {ρ : Type} {T : RecordType ρ} {records : List ρ}
    (hrecords : records.mapM T.values = .ok rows) {statements : List Fragment} {size : Nat}
    (h : (ofModel T.model).compile rows = .ok statements)
    (hsize : (ofModel T.model).rowsPerStatement = .ok size) (t : Transaction) :
    t.insertRecords T records = insertChunks T t.current statements (chunks size records) := by
  have hne : records ≠ [] := by
    rintro rfl
    cases hrecords
    cases h
  refine Transaction.insertRecords_compiled hne ?_ hsize
  rw [compileRecords, bind_of_ok hrecords]
  exact h

/-- What the insertion of a batch compiles to. Without rows, or with a row of another width, it
fails and says so, naming the first such row; else it fails if there are no columns, or more than
the limit. Otherwise the rows are split in the fewest groups within the bound; and the records that
the rows come from are split alike, so that in a transaction each of them is inserted by the
statement that carries its values. -/
theorem compile_batch (i : Insertion) (rows : List (List Value)) :
    (∀ table, i.compile rows = .error (.emptyBatch table) ↔ rows = [] ∧ table = i.table) ∧
    (∀ table expected actual shown,
      i.compile rows = .error (.raggedBatch table expected actual shown) ↔
        ∃ row, i.FirstRagged rows row ∧ table = i.table ∧ expected = i.columns.length ∧
          actual = row.length ∧ shown = inspectRow row) ∧
    (rows ≠ [] → (∀ row ∈ rows, row.length = i.columns.length) →
      ((∃ e, i.compile rows = .error e) ↔
        i.columns.length = 0 ∨ i.maxParams < i.columns.length)) ∧
    ∀ statements, i.compile rows = .ok statements →
      (∃ groups, i.Splits rows groups statements) ∧
      statements.flatMap (·.params) = rows.flatten ∧
      (∀ groups : List (List (List Value)), groups.flatten.Perm rows →
        (∀ group ∈ groups, i.Admits group) → statements.length ≤ groups.length) ∧
      ∀ {ρ : Type} (T : RecordType ρ) (records : List ρ), records.mapM T.values = .ok rows →
        ∃ size, i.rowsPerStatement = .ok size ∧
          (chunks size records).flatten = records ∧
          List.Forall₂ (i.Carries T) (chunks size records) statements ∧
          (i = ofModel T.model → ∀ t : Transaction,
            t.insertRecords T records =
              insertChunks T t.current statements (chunks size records)) := by
  refine ⟨compile_emptyBatch_iff, compile_raggedBatch_iff, compile_fails_iff, ?_⟩
  intro statements h
  obtain ⟨size, hsize, rfl, hwidth⟩ := compile_ok h
  obtain ⟨-, -, hpos, -⟩ := rowsPerStatement_ok hsize
  have hsplits := splits_chunks hsize hwidth
  refine ⟨⟨_, hsplits⟩, hsplits.params_eq, ?_, ?_⟩
  · intro groups hgroups hadmits
    rw [List.length_map]
    exact length_chunks_le_of_admits hsize hwidth hgroups hadmits
  · intro ρ T records hrecords
    refine ⟨size, hsize, flatten_chunks hpos records, forall₂_carries hrecords hsize hwidth, ?_⟩
    rintro rfl t
    exact insertRecords_of_compile hrecords h hsize t

-- three rows of two columns under a limit of four: two rows would reach the limit
example :
    let i : Insertion := { table := "city", columns := ["id", "name"], maxParams := 4 }
    let row (n : Int64) : List Value := [.integer n, .null]
    (i.compile [row 1, row 2, row 3]).map (·.map (·.sql)) =
      .ok (List.replicate 3 "INSERT INTO city (id, name) VALUES (?, ?)") := by
  decide +kernel

end Insertion

end SqlCompose
