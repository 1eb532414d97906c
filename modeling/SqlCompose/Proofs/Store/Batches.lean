import SqlCompose.Proofs.Insertion.Chunks
import SqlCompose.Proofs.Keys.Resolution
import SqlCompose.Proofs.Store.Execution

/-! Inserting records by several statements, with the keys that are written back after each. A
failure takes back the rows of all statements, but not the keys that records have got by then. So
does an overflow among the keys, which records without keys of their own cannot cause. -/

namespace SqlCompose

variable {ρ : Type} {T : RecordType ρ}

/-! ### Statement by statement -/

theorem insertChunks_nil (db : Database) (chunks : List (List ρ)) :
    insertChunks T db [] chunks = ⟨.ok, db, chunks.flatten⟩ := by
  cases chunks <;> rfl

/-- A statement is refused, or its records do not all take their keys, or the next statement's turn
comes. -/
theorem insertChunks_cons (T : RecordType ρ) (db : Database) (statement : Fragment)
    (statements : List Fragment) (chunk : List ρ) (chunks : List (List ρ)) :
    let batch := insertChunks T db (statement :: statements) (chunk :: chunks)
    (∃ e db', db.execute statement = (.error e, db') ∧
      batch = ⟨.error e, db', chunk ++ chunks.flatten⟩) ∨
    ∃ outcome db', db.execute statement = (.ok outcome, db') ∧
      let keyed := resolveKeys Outcome.recorded T outcome chunk
      let rest := insertChunks T db' statements chunks
      (keyed.result ≠ .ok ∧ batch = ⟨keyed.result, db', keyed.records ++ chunks.flatten⟩) ∨
      (keyed.result = .ok ∧
        batch = ⟨rest.result, rest.database, keyed.records ++ rest.records⟩) := by
  intro batch
  cases hexecute : db.execute statement with
  | mk result db' =>
    simp only [batch, insertChunks, hexecute]
    cases result with
    | error e => exact .inl ⟨e, db', rfl, rfl⟩
    | ok outcome =>
      refine .inr ⟨outcome, db', rfl, ?_⟩
      cases hkeyed : (resolveKeys Outcome.recorded T outcome chunk).result with
      | ok => exact .inr ⟨rfl, by simp only [hkeyed]⟩
      | error e => exact .inl ⟨by simp, by simp only [hkeyed]⟩
      | overflow => exact .inl ⟨by simp, by simp only [hkeyed]⟩

/-- Records without generated keys stay as they are. -/
theorem records_insertChunks (hT : ¬ T.HasGeneratedKey) (db : Database)
    (statements : List Fragment) (chunks : List (List ρ)) :
    (insertChunks T db statements chunks).records = chunks.flatten := by
  induction statements generalizing db chunks with
  | nil => rw [insertChunks_nil]
  | cons statement statements ih =>
    cases chunks with
    | nil => rfl
    | cons chunk chunks =>
      rw [List.flatten_cons]
      obtain ⟨e, db', -, hbatch⟩ | ⟨outcome, db', -, ⟨-, hbatch⟩ | ⟨-, hbatch⟩⟩ :=
        insertChunks_cons T db statement statements chunk chunks
      · rw [hbatch]
      · rw [hbatch, records_resolveKeys hT]
      · rw [hbatch, records_resolveKeys hT, ih db' chunks]

/-- Wherever an insertion ends, the first records have keys, and the others are as they were. -/
theorem takeKeys_insertChunks (hT : T.HasGeneratedKey) (db : Database)
    (statements : List Fragment) (chunks : List (List ρ)) :
    ∃ keys, T.TakeKeys chunks.flatten keys (insertChunks T db statements chunks).records := by
  induction statements generalizing db chunks with
  | nil =>
    rw [insertChunks_nil]
    exact ⟨[], .rest _⟩
  | cons statement statements ih =>
    cases chunks with
    | nil => exact ⟨[], .rest _⟩
    | cons chunk chunks =>
      rw [List.flatten_cons]
      obtain ⟨e, db', -, hbatch⟩ | ⟨outcome, db', -, hkeyed⟩ :=
        insertChunks_cons T db statement statements chunk chunks
      · rw [hbatch]
        exact ⟨[], .rest _⟩
      · obtain ⟨keys, hkeys, hall⟩ := takeKeys_resolveKeys hT Outcome.recorded outcome chunk
        obtain ⟨-, hbatch⟩ | ⟨hok, hbatch⟩ := hkeyed
        · rw [hbatch]
          exact ⟨keys, hkeys.append_rest _⟩
        · obtain ⟨keys', hkeys'⟩ := ih db' chunks
          rw [hbatch]
          exact ⟨keys ++ keys', hkeys.append (hall hok) hkeys'⟩

/-! ### The first key -/

/-- After a statement with this outcome, the first of its records takes the key that it is given. -/
def RecordType.TakesFirst (T : RecordType ρ) (outcome : Outcome) (r : ρ) : Prop :=
  T.HasGeneratedKey ∧ outcome.rowsAffected ≤ Int64.maxValue.toInt ∧
    ∃ key r', generatedKey? outcome.lastRowId outcome.rowsAffected 1 = some key ∧
      T.setKey r key = .ok r'

theorem takeKeys_of_takesFirst {outcome : Outcome} {r : ρ} (h : T.TakesFirst outcome r)
    (chunk : List ρ) :
    ∃ key keys, T.TakeKeys (r :: chunk) (key :: keys)
        (resolveKeys Outcome.recorded T outcome (r :: chunk)).records ∧
      ((resolveKeys Outcome.recorded T outcome (r :: chunk)).result = .ok →
        (key :: keys).length = (r :: chunk).length) := by
  obtain ⟨hT, hcount, key, r', hkey, hr⟩ := h
  obtain ⟨keys, -, hkeys, hall⟩ := takeKeys_setGeneratedKeys T outcome.lastRowId
    outcome.rowsAffected (1 + 1) chunk
  rw [resolveKeys_generated (O := Outcome.recorded) hT hcount]
  simp only [Outcome.recorded, setGeneratedKeys, hkey, hr]
  exact ⟨key, keys, .cons hr hkeys, fun hok => congrArg Nat.succ (hall hok)⟩

theorem resolveKeys_of_not_takesFirst (hT : T.HasGeneratedKey) {outcome : Outcome} {r : ρ}
    (h : ¬ T.TakesFirst outcome r) (chunk : List ρ) :
    (resolveKeys Outcome.recorded T outcome (r :: chunk)).records = r :: chunk ∧
      (resolveKeys Outcome.recorded T outcome (r :: chunk)).result ≠ .ok := by
  by_cases hcount : outcome.rowsAffected ≤ Int64.maxValue.toInt
  · rw [resolveKeys_generated (O := Outcome.recorded) hT hcount]
    simp only [Outcome.recorded, setGeneratedKeys]
    cases hkey : generatedKey? outcome.lastRowId outcome.rowsAffected 1 with
    | none => simp
    | some key =>
      cases hr : T.setKey r key with
      | ok r' => exact absurd ⟨hT, hcount, key, r', hkey, hr⟩ h
      | error e => simp [hr]
  · rw [resolveKeys_tooMany (O := Outcome.recorded) hT hcount]
    exact ⟨rfl, by simp⟩

/-- Whether any record has got a key is decided by the first one. -/
theorem insertChunks_first (hT : T.HasGeneratedKey) (db : Database) (statement : Fragment)
    (statements : List Fragment) (r : ρ) (chunk : List ρ) (chunks : List (List ρ)) :
    let batch := insertChunks T db (statement :: statements) ((r :: chunk) :: chunks)
    let first := ∃ outcome, (db.execute statement).1 = .ok outcome ∧ T.TakesFirst outcome r
    (first ∧ ∃ key keys, T.TakeKeys ((r :: chunk) :: chunks).flatten (key :: keys) batch.records) ∨
      (¬ first ∧ batch.records = ((r :: chunk) :: chunks).flatten) := by
  intro batch first
  simp only [batch, first, List.flatten_cons]
  obtain ⟨e, db', hexecute, hbatch⟩ | ⟨outcome, db', hexecute, hkeyed⟩ :=
    insertChunks_cons T db statement statements (r :: chunk) chunks
  · rw [hexecute, hbatch]
    exact .inr ⟨fun ⟨_, h, _⟩ => (by cases h), rfl⟩
  · rw [hexecute]
    by_cases h : T.TakesFirst outcome r
    · obtain ⟨key, keys, hkeys, hall⟩ := takeKeys_of_takesFirst h chunk
      refine .inl ⟨⟨outcome, rfl, h⟩, key, ?_⟩
      obtain ⟨-, hbatch⟩ | ⟨hok, hbatch⟩ := hkeyed
      · rw [hbatch]
        exact ⟨keys, hkeys.append_rest _⟩
      · obtain ⟨keys', hkeys'⟩ := takeKeys_insertChunks hT db' statements chunks
        rw [hbatch]
        exact ⟨keys ++ keys', hkeys.append (hall hok) hkeys'⟩
    · obtain ⟨hrecords, hfails⟩ := resolveKeys_of_not_takesFirst hT h chunk
      refine .inr ⟨fun ⟨_, heq, hfirst⟩ => ?_, ?_⟩
      · cases heq
        exact h hfirst
      · obtain ⟨-, hbatch⟩ | ⟨hok, -⟩ := hkeyed
        · rw [hbatch, hrecords]
        · exact absurd hok hfails

/-! ### Insertions that succeed -/

/-- The ids of rows that count up from the last. -/
theorem areConsecutive_ids {last : Int} {rows : List Row}
    (h : ∀ (i : Nat) (row : Row), rows[i]? = some row → row.id.toInt = last + 1 + i) :
    AreConsecutive (rows.map (·.id)) := by
  refine List.isChain_iff_getElem.mpr fun i hi => ?_
  rw [List.length_map] at hi
  rw [List.getElem_map, List.getElem_map]
  have hthis := h i _ (List.getElem?_eq_getElem (by omega))
  have hnext := h (i + 1) _ (List.getElem?_eq_getElem hi)
  omega

section

variable {db : Database} (hlayout : db.table.layout = .ofModel T.model)
  (hwords : (Insertion.ofModel T.model).HasWords) (hnodup : T.model.columnNames.Nodup)
  (hcolumns : T.model.columnNames ≠ []) (hT : T.HasGeneratedKey)
  {rowss : List (List (List Value))} {chunks : List (List ρ)}

/-- The rows for one statement: there are some, but no more than can be counted, and each has a
value for every column. -/
structure Model.IsChunk (m : Model) (rows : List (List Value)) : Prop where
  ne_nil : rows ≠ []
  width : ∀ row ∈ rows, row.length = m.columnNames.length
  count : rows.length ≤ Int64.maxValue.toInt

include hlayout hwords hnodup hcolumns hT

/-- What one statement has stored, and when all of its records take their keys. Nothing overflows
where the new row ids are consecutive. -/
theorem keyed_of_execute {rows : List (List Value)} (hrows : T.model.IsChunk rows) {chunk : List ρ}
    (hchunk : rows.length = chunk.length) {outcome : Outcome} {db' : Database}
    (h : db.execute ((Insertion.ofModel T.model).statement rows) = (.ok outcome, db')) :
    (Insertion.ofModel T.model).IsNamed ∧ ∃ stored : List Row, stored.length = chunk.length ∧
      db.table.Stores (rows.map (·.map Value.bound)) stored db'.table ∧
      (∀ records', (resolveKeys Outcome.recorded T outcome chunk).result = .ok ∧
          (resolveKeys Outcome.recorded T outcome chunk).records = records' ↔
        ∃ keys, Resolves (stored.map (·.id)) keys ∧ T.TakeKeys chunk keys records') ∧
      (AreConsecutive (stored.map (·.id)) →
        (resolveKeys Outcome.recorded T outcome chunk).result ≠ .overflow) := by
  obtain ⟨hnamed, stored, hstored, hlast, haffected⟩ :=
    db.stores_of_execute hlayout hwords hrows.ne_nil hcolumns hrows.width hnodup h
  have hcount := hrows.count
  have hlength : stored.length = chunk.length := by
    rw [hstored.length_eq, List.length_map, hchunk]
  have hids : (stored.map (·.id)).length = chunk.length := (List.length_map _).trans hlength
  have haffected : outcome.rowsAffected = (stored.map (·.id)).length :=
    haffected.trans (List.length_map _).symm
  exact ⟨hnamed, stored, hlength, hstored,
    fun _ => resolveKeys_ok_iff hT hlast haffected hids (by omega),
    resolveKeys_ne_overflow hT hlast haffected hids (by omega)⟩

/-- All rows are stored one after the other, and the records of each statement take the keys that
are resolved from its row ids. -/
theorem stores_of_insertChunks (hchunks : ∀ rows ∈ rowss, T.model.IsChunk rows)
    (hlength : List.Forall₂ (fun chunk rows => rows.length = chunk.length) chunks rowss)
    (h : (insertChunks T db (rowss.map (Insertion.ofModel T.model).statement) chunks).result =
      .ok) :
    let batch := insertChunks T db (rowss.map (Insertion.ofModel T.model).statement) chunks
    (rowss ≠ [] → (Insertion.ofModel T.model).IsNamed) ∧ ∃ stored : List (List Row), ∃ keys,
      List.Forall₂ (fun chunk rows => rows.length = chunk.length) chunks stored ∧
      db.table.Stores (rowss.flatten.map (·.map Value.bound)) stored.flatten batch.database.table ∧
      List.Forall₂ Resolves (stored.map (List.map Row.id)) keys ∧
      T.TakeKeys chunks.flatten keys.flatten batch.records := by
  induction hlength generalizing db with
  | nil => exact ⟨fun h => absurd rfl h, [], [], .nil, .nil _, .nil, .rest _⟩
  | @cons chunk rows chunks rowss hchunk hlength ih =>
    obtain ⟨hrows, hchunks⟩ := List.forall_mem_cons.mp hchunks
    rw [List.map_cons] at h ⊢
    obtain ⟨e, db', -, hbatch⟩ | ⟨outcome, db', hexecute, ⟨hfails, hbatch⟩ | ⟨hok, hbatch⟩⟩ :=
      insertChunks_cons T db ((Insertion.ofModel T.model).statement rows)
        (rowss.map (Insertion.ofModel T.model).statement) chunk chunks
    · rw [hbatch] at h
      cases h
    · rw [hbatch] at h
      exact absurd h hfails
    · rw [hbatch] at h ⊢
      obtain ⟨hnamed, stored, hcount, hstored, hkeyed, -⟩ :=
        keyed_of_execute hlayout hwords hnodup hcolumns hT hrows hchunk hexecute
      obtain ⟨keys, hresolves, htake⟩ := (hkeyed _).mp ⟨hok, rfl⟩
      have hkeys : keys.length = chunk.length := by
        rw [hresolves.length_eq, List.length_map, hcount]
      obtain ⟨-, storeds, keyss, hcounts, hstoreds, hresolvess, htakes⟩ :=
        ih (hstored.layout_eq.trans hlayout) hchunks h
      refine ⟨fun _ => hnamed, stored :: storeds, keys :: keyss, .cons hcount hcounts, ?_,
        .cons hresolves hresolvess, htake.append hkeys htakes⟩
      rw [List.flatten_cons, List.map_append, List.flatten_cons]
      exact hstored.append hstoreds

variable {column : String} (hkey : db.table.layout.key = some (column, .autoIncrement))
  (hordered : db.table.IsOrdered)

include hkey hordered

/-- What one statement has stored for records without keys. Nothing overflows, and all is well if
they take the ids of their rows, which are the next ones. -/
theorem generated_of_execute {rows : List (List Value)} (hrows : T.model.IsChunk rows)
    {chunk : List ρ} (hchunk : rows.length = chunk.length)
    (hnull : ∀ row ∈ rows, db.table.layout.cell (row.map Value.bound) column = .null)
    {outcome : Outcome} {db' : Database}
    (h : db.execute ((Insertion.ofModel T.model).statement rows) = (.ok outcome, db')) :
    db'.table.layout = db.table.layout ∧ db'.table.IsOrdered ∧
      db'.table.lastId = db.table.lastId + chunk.length ∧
      (resolveKeys Outcome.recorded T outcome chunk).result ≠ .overflow ∧
      ((∀ (i : Nat) (r : ρ), chunk[i]? = some r →
          ∃ r', T.setKey r (Int64.ofInt (db.table.lastId + 1 + i)) = .ok r') →
        (resolveKeys Outcome.recorded T outcome chunk).result = .ok) := by
  obtain ⟨-, stored, hcount, hstored, hkeyed, hnoOverflow⟩ :=
    keyed_of_execute hlayout hwords hnodup hcolumns hT hrows hchunk h
  obtain ⟨-, hlast, hids⟩ := hstored.generated hkey hordered (List.forall_mem_map.mpr hnull)
  have hconsecutive := areConsecutive_ids hids
  refine ⟨hstored.layout_eq, hstored.isOrdered hordered, by rw [hlast, List.length_map, hchunk],
    hnoOverflow hconsecutive, fun haccepts => ?_⟩
  obtain ⟨records', hkeys⟩ : ∃ records', T.TakeKeys chunk (stored.map (·.id)) records' := by
    refine RecordType.exists_takeKeys ((List.length_map _).trans hcount) fun i r id hr hid => ?_
    rw [List.getElem?_map] at hid
    obtain ⟨row, hrow, rfl⟩ := Option.map_eq_some_iff.mp hid
    rw [← Int64.ofInt_toInt row.id, hids i row hrow]
    exact haccepts i r hr
  exact ((hkeyed _).mpr ⟨_, hconsecutive.resolves, hkeys⟩).1

/-- Records without keys do not cause an overflow. -/
theorem insertChunks_ne_overflow (hchunks : ∀ rows ∈ rowss, T.model.IsChunk rows)
    (hlength : List.Forall₂ (fun chunk rows => rows.length = chunk.length) chunks rowss)
    (hnull : ∀ row ∈ rowss.flatten, db.table.layout.cell (row.map Value.bound) column = .null) :
    (insertChunks T db (rowss.map (Insertion.ofModel T.model).statement) chunks).result ≠
      .overflow := by
  induction hlength generalizing db with
  | nil => simp [insertChunks_nil]
  | @cons chunk rows chunks rowss hchunk hlength ih =>
    obtain ⟨hrows, hchunks⟩ := List.forall_mem_cons.mp hchunks
    rw [List.flatten_cons, List.forall_mem_append] at hnull
    rw [List.map_cons]
    obtain ⟨e, db', -, hbatch⟩ | ⟨outcome, db', hexecute, hkeyed⟩ :=
      insertChunks_cons T db ((Insertion.ofModel T.model).statement rows)
        (rowss.map (Insertion.ofModel T.model).statement) chunk chunks
    · simp [hbatch]
    · obtain ⟨hlayout', hordered', -, hnoOverflow, -⟩ := generated_of_execute hlayout hwords hnodup
        hcolumns hT hkey hordered hrows hchunk hnull.1 hexecute
      obtain ⟨-, hbatch⟩ | ⟨-, hbatch⟩ := hkeyed
      · rw [hbatch]
        exact hnoOverflow
      · rw [hbatch]
        rw [← hlayout'] at hlayout hkey hnull
        exact ih hlayout hkey hordered' hchunks hnull.2

/-- Records without keys are inserted if there are ids left for them and each takes the next. -/
theorem insertChunks_ok (hnamed : (Insertion.ofModel T.model).IsNamed)
    (hchunks : ∀ rows ∈ rowss, T.model.IsChunk rows)
    (hlength : List.Forall₂ (fun chunk rows => rows.length = chunk.length) chunks rowss)
    (hnull : ∀ row ∈ rowss.flatten, db.table.layout.cell (row.map Value.bound) column = .null)
    (hroom : db.table.lastId + rowss.flatten.length ≤ Int64.maxValue.toInt)
    (haccepts : ∀ (i : Nat) (r : ρ), chunks.flatten[i]? = some r →
      ∃ r', T.setKey r (Int64.ofInt (db.table.lastId + 1 + i)) = .ok r') :
    (insertChunks T db (rowss.map (Insertion.ofModel T.model).statement) chunks).result = .ok := by
  induction hlength generalizing db with
  | nil => rfl
  | @cons chunk rows chunks rowss hchunk hlength ih =>
    obtain ⟨hrows, hchunks⟩ := List.forall_mem_cons.mp hchunks
    rw [List.flatten_cons, List.forall_mem_append] at hnull
    rw [List.flatten_cons, List.length_append] at hroom
    rw [List.flatten_cons] at haccepts
    have hfirst (i : Nat) (r : ρ) (hr : chunk[i]? = some r) :
        ∃ r', T.setKey r (Int64.ofInt (db.table.lastId + 1 + i)) = .ok r' :=
      haccepts i r
        (by rw [List.getElem?_append_left (List.getElem?_eq_some_iff.mp hr).1, hr])
    obtain ⟨outcome, db', hexecute⟩ := db.exists_execute hlayout hwords hrows.ne_nil hcolumns
      hrows.width hnodup hnamed hordered hkey hnull.1 (by omega)
    obtain ⟨hlayout', hordered', hlast, -, hok⟩ := generated_of_execute hlayout hwords hnodup
      hcolumns hT hkey hordered hrows hchunk hnull.1 hexecute
    rw [List.map_cons, insertChunks, hexecute]
    simp only [hok hfirst]
    rw [← hlayout'] at hlayout hkey hnull
    refine ih hlayout hkey hordered' hchunks hnull.2 (by omega) fun i r hr => ?_
    obtain ⟨r', hr'⟩ := haccepts (chunk.length + i) r
      (by rw [List.getElem?_append_right (Nat.le_add_right _ _), Nat.add_sub_cancel_left, hr])
    have hnext : db'.table.lastId + 1 + i = db.table.lastId + 1 + (chunk.length + i : Nat) := by
      omega
    exact ⟨r', by rw [hnext, hr']⟩

end

/-! ### Insertions in a transaction -/

/-- The statements for records that can be stored. -/
theorem Insertion.compileRecords_ok {i : Insertion} {records : List ρ} {statements : List Fragment}
    (h : i.compileRecords T records = .ok statements) :
    ∃ rows size, records.mapM T.values = .ok rows ∧ i.rowsPerStatement = .ok size ∧
      (∀ row ∈ rows, row.length = i.columns.length) ∧
      statements = (chunks size rows).map i.statement := by
  obtain ⟨rows, hrows, h⟩ := bind_ok h
  obtain ⟨size, hsize, hstatements, hwidth⟩ := compile_ok h
  exact ⟨rows, size, hrows, hsize, hwidth, hstatements⟩

namespace Transaction

variable {t : Transaction} {records : List ρ} (hrecords : records ≠ [])

include hrecords

/-- Without statements for the records nothing is done. -/
theorem insertRecords_uncompiled {e : Error}
    (h : (Insertion.ofModel T.model).compileRecords T records = .error e) :
    t.insertRecords T records = ⟨.error e, t.current, records⟩ := by
  have hempty : ¬ records.isEmpty = true := by simpa using hrecords
  simp only [insertRecords, if_neg hempty, h]
  rfl

theorem insertRecords_compiled {statements : List Fragment} {size : Nat}
    (h : (Insertion.ofModel T.model).compileRecords T records = .ok statements)
    (hsize : (Insertion.ofModel T.model).rowsPerStatement = .ok size) :
    t.insertRecords T records = insertChunks T t.current statements (chunks size records) := by
  have hempty : ¬ records.isEmpty = true := by simpa using hrecords
  simp only [insertRecords, if_neg hempty, h, hsize]
  rfl

end Transaction

namespace Database

variable {db : Database} {records : List ρ}

theorem insertRecords_nil (db : Database) (T : RecordType ρ) :
    db.insertRecords T [] = ⟨.ok, db, []⟩ := rfl

theorem result_insertRecords (db : Database) (T : RecordType ρ) (records : List ρ) :
    (db.insertRecords T records).result =
      ((Transaction.start db).insertRecords T records).result := by
  simp only [insertRecords]
  split <;> rfl

theorem records_insertRecords (db : Database) (T : RecordType ρ) (records : List ρ) :
    (db.insertRecords T records).records =
      ((Transaction.start db).insertRecords T records).records := by
  simp only [insertRecords]
  split <;> rfl

theorem database_insertRecords_ok
    (h : ((Transaction.start db).insertRecords T records).result = .ok) :
    (db.insertRecords T records).database =
      ((Transaction.start db).insertRecords T records).database := by
  simp only [insertRecords, h]
  rfl

/-- A failure takes back the rows of all statements, and so does an overflow. -/
theorem table_insertRecords_failed (h : (db.insertRecords T records).result ≠ .ok) :
    (db.insertRecords T records).database.table = db.table := by
  rw [result_insertRecords] at h
  simp only [insertRecords]
  rfl

/-! ### Insertions of a model's records -/

/-- The pieces into which the rows for a model's table are split. -/
theorem isChunk_of_mem_chunks {m : Model} {size : Nat}
    (hsize : (Insertion.ofModel m).rowsPerStatement = .ok size) {rows : List (List Value)}
    (hwidth : ∀ row ∈ rows, row.length = m.columnNames.length) :
    ∀ piece ∈ chunks size rows, m.IsChunk piece := by
  intro piece hpiece
  obtain ⟨-, -, hpos, hle⟩ := Insertion.rowsPerStatement_ok hsize
  obtain ⟨hne, hlength⟩ := mem_chunks hpos hpiece
  refine ⟨hne, fun row hrow => hwidth row ?_, ?_⟩
  · rw [← flatten_chunks hpos rows]
    exact List.mem_flatten_of_mem hpiece hrow
  · have hmax : (Insertion.ofModel m).maxParams = 999 := rfl
    have hlast : Int64.maxValue.toInt = 9223372036854775807 := by decide
    omega

section

variable (hlayout : db.table.layout = .ofModel T.model)
  (hwords : (Insertion.ofModel T.model).HasWords) (hnodup : T.model.columnNames.Nodup)
  (hT : T.HasGeneratedKey)

include hlayout hwords hnodup hT

/-- What has become of records that have all been inserted. -/
theorem stores_of_insertRecords (hrecords : records ≠ [])
    (h : (db.insertRecords T records).result = .ok) :
    (Insertion.ofModel T.model).IsNamed ∧ ∃ rows size, ∃ stored : List (List Row), ∃ keys,
      records.mapM T.values = .ok rows ∧
      (Insertion.ofModel T.model).rowsPerStatement = .ok size ∧
      List.Forall₂ (fun chunk rows => rows.length = chunk.length) (chunks size records) stored ∧
      db.table.Stores (rows.map (·.map Value.bound)) stored.flatten
        (db.insertRecords T records).database.table ∧
      List.Forall₂ Resolves (stored.map (List.map Row.id)) keys ∧
      T.TakeKeys records keys.flatten (db.insertRecords T records).records := by
  rw [result_insertRecords] at h
  rw [records_insertRecords, database_insertRecords_ok h]
  cases hcompile : (Insertion.ofModel T.model).compileRecords T records with
  | error e =>
    rw [Transaction.insertRecords_uncompiled hrecords hcompile] at h
    cases h
  | ok statements =>
    obtain ⟨rows, size, hrows, hsize, hwidth, rfl⟩ := Insertion.compileRecords_ok hcompile
    rw [Transaction.insertRecords_compiled hrecords hcompile hsize] at h ⊢
    obtain ⟨hcolumns, -, hpos, -⟩ := Insertion.rowsPerStatement_ok hsize
    have hlength := length_chunks_of_mapM hrows size
    have hne : chunks size rows ≠ [] := by
      intro hnil
      rw [hnil] at hlength
      have hflat := flatten_chunks hpos records
      rw [List.forall₂_nil_right_iff.mp hlength] at hflat
      exact hrecords hflat.symm
    obtain ⟨hnamed, stored, keys, hstored, hstores, hresolves, hkeys⟩ :=
      stores_of_insertChunks hlayout hwords hnodup hcolumns hT
        (isChunk_of_mem_chunks hsize hwidth) hlength h
    rw [flatten_chunks hpos] at hstores hkeys
    exact ⟨hnamed hne, rows, size, stored, keys, hrows, hsize, hstored, hstores, hresolves, hkeys⟩

/-- Records without keys do not cause an overflow. -/
theorem insertRecords_ne_overflow {column : String}
    (hkey : db.table.layout.key = some (column, .autoIncrement)) (hordered : db.table.IsOrdered)
    (hnull : ∀ rows, records.mapM T.values = .ok rows →
      ∀ row ∈ rows, db.table.layout.cell (row.map Value.bound) column = .null) :
    (db.insertRecords T records).result ≠ .overflow := by
  rw [result_insertRecords]
  by_cases hrecords : records = []
  · rw [hrecords]
    nofun
  · cases hcompile : (Insertion.ofModel T.model).compileRecords T records with
    | error e =>
      rw [Transaction.insertRecords_uncompiled hrecords hcompile]
      nofun
    | ok statements =>
      obtain ⟨rows, size, hrows, hsize, hwidth, rfl⟩ := Insertion.compileRecords_ok hcompile
      rw [Transaction.insertRecords_compiled hrecords hcompile hsize]
      obtain ⟨hcolumns, -, hpos, -⟩ := Insertion.rowsPerStatement_ok hsize
      refine insertChunks_ne_overflow hlayout hwords hnodup hcolumns hT hkey hordered
        (isChunk_of_mem_chunks hsize hwidth) (length_chunks_of_mapM hrows size) ?_
      rw [flatten_chunks hpos]
      exact hnull rows hrows

/-- Records without keys are inserted if the database understands their statements, has ids left
for them, and each takes the next id. -/
theorem insertRecords_ok (hnamed : (Insertion.ofModel T.model).IsNamed) {column : String}
    (hkey : db.table.layout.key = some (column, .autoIncrement)) (hordered : db.table.IsOrdered)
    {rows : List (List Value)} (hrows : records.mapM T.values = .ok rows)
    (hwidth : ∀ row ∈ rows, row.length = T.model.columnNames.length) {size : Nat}
    (hsize : (Insertion.ofModel T.model).rowsPerStatement = .ok size)
    (hnull : ∀ row ∈ rows, db.table.layout.cell (row.map Value.bound) column = .null)
    (hroom : db.table.lastId + records.length ≤ Int64.maxValue.toInt)
    (haccepts : ∀ (i : Nat) (r : ρ), records[i]? = some r →
      ∃ r', T.setKey r (Int64.ofInt (db.table.lastId + 1 + i)) = .ok r') :
    (db.insertRecords T records).result = .ok := by
  by_cases hrecords : records = []
  · rw [hrecords]
    rfl
  · obtain ⟨hcolumns, -, hpos, -⟩ := Insertion.rowsPerStatement_ok hsize
    have hne : rows ≠ [] := by
      rintro rfl
      exact hrecords (List.eq_nil_of_length_eq_zero (length_mapM_ok hrows).symm)
    have hcompile : (Insertion.ofModel T.model).compileRecords T records =
        .ok ((chunks size rows).map (Insertion.ofModel T.model).statement) := by
      rw [Insertion.compileRecords, hrows]
      exact Insertion.exists_compile hne hwidth hsize
    have hlength := length_chunks_of_mapM hrows size
    rw [result_insertRecords, Transaction.insertRecords_compiled hrecords hcompile hsize]
    refine insertChunks_ok hlayout hwords hnodup hcolumns hT hkey hordered hnamed
      (isChunk_of_mem_chunks hsize hwidth) hlength ?_ ?_ ?_
    · rw [flatten_chunks hpos]
      exact hnull
    · rw [flatten_chunks hpos, length_mapM_ok hrows]
      exact hroom
    · rw [flatten_chunks hpos]
      exact haccepts

end

end Database

end SqlCompose
