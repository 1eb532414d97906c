import SqlCompose.Proofs.Insertion.Keys

/-! Batches of records in one transaction. A batch that fails has stored the rows of its first
statements and of no others, and the records of the later statements are as they were. Further
batches go on from there, until all of it is kept or taken back. -/

namespace SqlCompose

variable {ρ : Type} {T : RecordType ρ}

/-! ### Failed statements -/

/-- A fragment that is refused changes nothing in the table. -/
theorem Database.table_execute_error {db db' : Database} {f : Fragment} {e : Error}
    (h : db.execute f = (.error e, db')) : db'.table = db.table := by
  unfold execute at h
  split at h
  · cases h
    rfl
  · next s _ =>
    unfold run at h
    cases hrun : db.table.run s with
    | error fault =>
      rw [hrun] at h
      cases h
      rfl
    | ok effect =>
      rw [hrun] at h
      dsimp only at h
      split at h
      · cases h
      · next hrows =>
        cases h
        -- Of all statements only a SELECT returns rows.
        cases s with
        | select row => cases hrun; rfl
        | insert table columns rows =>
          obtain ⟨-, -, -, -, hnone⟩ := Table.stores_of_insertRows hrun
          exact absurd (by rw [hnone]; rfl) hrows
        | update table assignments filter =>
          obtain ⟨hnone, -⟩ := Table.updateRows_ok hrun
          exact absurd (by rw [hnone]; rfl) hrows
        | delete table filter => cases hrun; exact absurd rfl hrows

theorem length_resolveKeys (T : RecordType ρ) (outcome : Outcome) (chunk : List ρ) :
    (resolveKeys Outcome.recorded T outcome chunk).records.length = chunk.length := by
  by_cases hT : T.HasGeneratedKey
  · obtain ⟨keys, hkeys, -⟩ := takeKeys_resolveKeys hT Outcome.recorded outcome chunk
    exact hkeys.length_eq
  · rw [records_resolveKeys hT]

/-! ### The first statements of a batch -/

namespace RecordType

/-- The rows of some records have been stored one after the other. -/
def StoresRecords (T : RecordType ρ) (t : Table) (records : List ρ) (t' : Table) : Prop :=
  ∃ values stored, records.mapM T.values = .ok values ∧
    t.Stores (values.map (·.map Value.bound)) stored t'

theorem StoresRecords.nil (t : Table) : T.StoresRecords t [] t :=
  ⟨[], [], rfl, .nil t⟩

theorem StoresRecords.append {t t' t'' : Table} {records records' : List ρ}
    (h : T.StoresRecords t records t') (h' : T.StoresRecords t' records' t'') :
    T.StoresRecords t (records ++ records') t'' := by
  obtain ⟨values, stored, hvalues, hstored⟩ := h
  obtain ⟨values', stored', hvalues', hstored'⟩ := h'
  refine ⟨values ++ values', stored ++ stored', ?_, ?_⟩
  · rw [List.mapM_append, hvalues, hvalues']
    rfl
  · rw [List.map_append]
    exact hstored.append hstored'

theorem StoresRecords.layout_eq {t t' : Table} {records : List ρ}
    (h : T.StoresRecords t records t') : t'.layout = t.layout := by
  obtain ⟨values, stored, -, hstored⟩ := h
  exact hstored.layout_eq

/-- The records of each statement. There are none if a statement is too short for a row. -/
def pieces (T : RecordType ρ) (records : List ρ) : List (List ρ) :=
  match (Insertion.ofModel T.model).rowsPerStatement with
  | .ok size => chunks size records
  | .error _ => []

end RecordType

/-- A batch has stored the rows of its first `k` statements, and no others. -/
structure Batch.HasStored (T : RecordType ρ) (t : Table) (records : List ρ) (k : Nat)
    (batch : Batch ρ) : Prop where
  le : k ≤ (T.pieces records).length
  rows : T.StoresRecords t ((T.pieces records).take k).flatten batch.database.table
  length_eq : batch.records.length = records.length
  unchanged : batch.records.drop ((T.pieces records).take k).flatten.length =
    records.drop ((T.pieces records).take k).flatten.length
  complete : batch.result = .ok → k = (T.pieces records).length
  uncompiled : (∃ e, (Insertion.ofModel T.model).compileRecords T records = .error e) → k = 0

/-- A batch that succeeds has stored the rows of all its records. -/
theorem Batch.HasStored.all {t : Table} {records : List ρ} {k : Nat} {batch : Batch ρ}
    (h : batch.HasStored T t records k) (hok : batch.result = .ok) {size : Nat}
    (hsize : (Insertion.ofModel T.model).rowsPerStatement = .ok size) :
    T.StoresRecords t records batch.database.table := by
  have hrows := h.rows
  obtain ⟨-, -, hpos, -⟩ := Insertion.rowsPerStatement_ok hsize
  rw [h.complete hok, List.take_length, RecordType.pieces, hsize] at hrows
  rwa [flatten_chunks hpos] at hrows

section

variable (hwords : (Insertion.ofModel T.model).HasWords) (hnodup : T.model.columnNames.Nodup)

include hwords hnodup

/-- Whether a statement is refused, or its keys are not taken, or all goes well: some first
statements have been carried out, and the records of the others are as they were. -/
theorem exists_stored_insertChunks (hcolumns : T.model.columnNames ≠ []) {db : Database}
    (hlayout : db.table.layout = .ofModel T.model) {chunks : List (List ρ)}
    {rowss : List (List (List Value))} (hchunks : ∀ rows ∈ rowss, T.model.IsChunk rows)
    (hvalues : List.Forall₂ (fun chunk rows => chunk.mapM T.values = .ok rows) chunks rowss) :
    let batch := insertChunks T db (rowss.map (Insertion.ofModel T.model).statement) chunks
    ∃ k ≤ chunks.length, T.StoresRecords db.table (chunks.take k).flatten batch.database.table ∧
      batch.records.length = chunks.flatten.length ∧
      batch.records.drop (chunks.take k).flatten.length =
        chunks.flatten.drop (chunks.take k).flatten.length ∧
      (batch.result = .ok → k = chunks.length) := by
  induction hvalues generalizing db with
  | nil => exact ⟨0, Nat.le_refl _, .nil _, rfl, rfl, fun _ => rfl⟩
  | @cons chunk rows chunks rowss hrow hvalues ih =>
    obtain ⟨hrows, hchunks⟩ := List.forall_mem_cons.mp hchunks
    rw [List.map_cons, List.length_cons, List.flatten_cons, List.length_append]
    obtain ⟨e, db', hexecute, hbatch⟩ | ⟨outcome, db', hexecute, hkeyed⟩ :=
      insertChunks_cons T db ((Insertion.ofModel T.model).statement rows)
        (rowss.map (Insertion.ofModel T.model).statement) chunk chunks
    · rw [hbatch]
      refine ⟨0, Nat.zero_le _, ?_, List.length_append, rfl, fun hok => by cases hok⟩
      rw [Database.table_execute_error hexecute]
      exact .nil _
    · have hlength := length_resolveKeys T outcome chunk
      have hone : T.StoresRecords db.table chunk db'.table := by
        obtain ⟨-, stored, hstored, -⟩ := db.stores_of_execute hlayout hwords hrows.ne_nil hcolumns
          hrows.width hnodup hexecute
        exact ⟨rows, stored, hrow, hstored⟩
      obtain ⟨hfails, hbatch⟩ | ⟨-, hbatch⟩ := hkeyed
      · rw [hbatch]
        refine ⟨1, Nat.le_add_left _ _, ?_, ?_, ?_, fun hok => absurd hok hfails⟩
        · simpa using hone
        · rw [List.length_append, hlength]
        · simp [← hlength]
      · obtain ⟨k, hk, hstored, hlengths, hunchanged, hall⟩ :=
          ih (hone.layout_eq.trans hlayout) hchunks
        rw [hbatch]
        refine ⟨k + 1, Nat.succ_le_succ hk, ?_, ?_, ?_, fun hok => congrArg (· + 1) (hall hok)⟩
        · rw [List.take_succ_cons, List.flatten_cons]
          exact hone.append hstored
        · rw [List.length_append, hlength, hlengths]
        · rw [List.take_succ_cons, List.flatten_cons, List.length_append,
            List.drop_length_add_append, ← hlength, List.drop_length_add_append, hunchanged]

variable {t : Transaction} (hlayout : t.current.table.layout = .ofModel T.model)

include hlayout

/-- What a batch leaves behind in the transaction, whether it succeeds or not. -/
theorem Transaction.exists_hasStored (records : List ρ) :
    ∃ k, (t.insertRecords T records).HasStored T t.current.table records k := by
  have hnone {batch : Batch ρ} (hdatabase : batch.database = t.current)
      (hrecords : batch.records = records)
      (hcomplete : batch.result = .ok → records = []) :
      batch.HasStored T t.current.table records 0 := by
    refine ⟨Nat.zero_le _, ?_, by rw [hrecords], by rw [hrecords], fun hok => ?_, fun _ => rfl⟩
    · rw [hdatabase]
      exact .nil _
    · rw [hcomplete hok, RecordType.pieces]
      split <;> rfl
  by_cases hempty : records = []
  · subst hempty
    exact ⟨0, hnone rfl rfl fun _ => rfl⟩
  · cases hcompile : (Insertion.ofModel T.model).compileRecords T records with
    | error e =>
      rw [insertRecords_uncompiled hempty hcompile]
      exact ⟨0, hnone rfl rfl fun hok => by cases hok⟩
    | ok statements =>
      obtain ⟨rows, size, hrows, hsize, hwidth, rfl⟩ := Insertion.compileRecords_ok hcompile
      obtain ⟨hcolumns, -, hpos, -⟩ := Insertion.rowsPerStatement_ok hsize
      have hpieces : T.pieces records = chunks size records := by
        rw [RecordType.pieces, hsize]
      obtain ⟨k, hk, hstored, hlength, hunchanged, hall⟩ :=
        exists_stored_insertChunks hwords hnodup hcolumns hlayout
          (Database.isChunk_of_mem_chunks hsize hwidth)
          ((forall₂_chunks size (mapM_ok_iff.mp hrows)).imp fun _ _ => mapM_ok_iff.mpr)
      rw [flatten_chunks hpos] at hlength hunchanged
      rw [insertRecords_compiled hempty hcompile hsize]
      refine ⟨k, hpieces ▸ hk, hpieces ▸ hstored, hlength, hpieces ▸ hunchanged, hpieces ▸ hall,
        fun ⟨e, he⟩ => ?_⟩
      rw [hcompile] at he
      cases he

end

/-! ### Several batches -/

theorem Transaction.insertBatches_cons (t : Transaction) (T : RecordType ρ) (records : List ρ)
    (rest : List (List ρ)) :
    let batch := t.insertRecords T records
    let next : Transaction := { t with current := batch.database }
    (batch.result = .overflow ∧ t.insertBatches T (records :: rest) = ([batch], next)) ∨
      (batch.result ≠ .overflow ∧ t.insertBatches T (records :: rest) =
        (batch :: (next.insertBatches T rest).1, (next.insertBatches T rest).2)) := by
  intro batch next
  by_cases h : batch.result = .overflow
  · exact .inl ⟨h, if_pos h⟩
  · exact .inr ⟨h, if_neg h⟩

/-- Batches that go on from each other, with the number of statements that each has carried out. The
first that ends in an overflow is the last. -/
inductive Transaction.HaveStored (T : RecordType ρ) :
    Table → List (List ρ) → List Nat → List (Batch ρ) → Prop
  | nil (t : Table) : HaveStored T t [] [] []
  | cons {t : Table} {records : List ρ} {k : Nat} {batch : Batch ρ} {rest : List (List ρ)}
      {counts : List Nat} {batches : List (Batch ρ)} (hbatch : batch.HasStored T t records k)
      (hgoes : batch.result ≠ .overflow)
      (hrest : HaveStored T batch.database.table rest counts batches) :
      HaveStored T t (records :: rest) (k :: counts) (batch :: batches)
  | overflow {t : Table} {records : List ρ} {k : Nat} {batch : Batch ρ} {rest : List (List ρ)}
      (hbatch : batch.HasStored T t records k) (hends : batch.result = .overflow) :
      HaveStored T t (records :: rest) [k] [batch]

/-- The records of the first statements of each batch. -/
def RecordType.kept (T : RecordType ρ) (recordss : List (List ρ)) (counts : List Nat) : List ρ :=
  (List.zipWith (fun records k => ((T.pieces records).take k).flatten) recordss counts).flatten

theorem Transaction.HaveStored.kept {t : Transaction} {recordss : List (List ρ)} {counts : List Nat}
    (h : HaveStored T t.current.table recordss counts (t.insertBatches T recordss).1) :
    T.StoresRecords t.current.table (T.kept recordss counts)
      (t.insertBatches T recordss).2.current.table := by
  induction recordss generalizing t counts with
  | nil =>
    cases h
    exact .nil _
  | cons records rest ih =>
    obtain ⟨hends, hbatches⟩ | ⟨hgoes, hbatches⟩ := t.insertBatches_cons T records rest
    · rw [hbatches] at h ⊢
      cases h with
      | cons _ hgoes _ => exact absurd hends hgoes
      | overflow hbatch _ => simpa [RecordType.kept] using hbatch.rows
    · have hkept {counts : List Nat} := @ih
        { t with current := (t.insertRecords T records).database } counts
      rw [hbatches] at h ⊢
      generalize Transaction.insertBatches _ T rest = after at h hkept ⊢
      obtain ⟨batches, last⟩ := after
      cases h with
      | cons hbatch _ hrest => exact hbatch.rows.append (hkept hrest)
      | overflow _ hends => exact absurd hends hgoes

/-- Nothing that happens in a transaction changes what was before it. -/
theorem Transaction.before_insertBatches (t : Transaction) (T : RecordType ρ)
    (recordss : List (List ρ)) : (t.insertBatches T recordss).2.before = t.before := by
  induction recordss generalizing t with
  | nil => rfl
  | cons records rest ih =>
    obtain ⟨-, hbatches⟩ | ⟨-, hbatches⟩ := t.insertBatches_cons T records rest
    · rw [hbatches]
    · rw [hbatches]
      exact ih _

theorem Transaction.exists_haveStored (hwords : (Insertion.ofModel T.model).HasWords)
    (hnodup : T.model.columnNames.Nodup) {t : Transaction}
    (hlayout : t.current.table.layout = .ofModel T.model) (recordss : List (List ρ)) :
    ∃ counts, HaveStored T t.current.table recordss counts (t.insertBatches T recordss).1 := by
  induction recordss generalizing t with
  | nil => exact ⟨[], .nil _⟩
  | cons records rest ih =>
    obtain ⟨k, hbatch⟩ := exists_hasStored hwords hnodup hlayout records
    obtain ⟨hends, hbatches⟩ | ⟨hgoes, hbatches⟩ := t.insertBatches_cons T records rest
    · rw [hbatches]
      exact ⟨[k], .overflow hbatch hends⟩
    · obtain ⟨counts, hrest⟩ := ih
        (t := { t with current := (t.insertRecords T records).database })
        (hbatch.rows.layout_eq.trans hlayout)
      rw [hbatches]
      exact ⟨k :: counts, .cons hbatch hgoes hrest⟩

namespace Derive

/-- Each batch in a transaction stores the rows of its first statements, all of them if it succeeds
and none if its records cannot be compiled, and leaves the records of the other statements as they
were. These are the rows that a commit keeps. A rollback takes them all back. -/
theorem rows_of_batches {t : Target} {d : FamilyMember} {m : MemberMapping} (hm : d.map t = .ok m)
    (hd : d.IsWorded) (mappings : List MemberMapping) {transaction : Transaction}
    (hlayout : transaction.current.table.layout = .ofModel (m.model kindOfField id))
    (recordss : List (List Record)) :
    let T := recordType mappings m
    let (batches, afterwards) := transaction.insertBatches T recordss
    (∃ counts, Transaction.HaveStored T transaction.current.table recordss counts batches ∧
      T.StoresRecords transaction.current.table (T.kept recordss counts)
        afterwards.commit.table) ∧
      afterwards.rollback.table = transaction.before.table := by
  intro T
  have hof := Declaration.map_ok hm
  obtain ⟨counts, hcounts⟩ := Transaction.exists_haveStored (T := T)
    (hof.hasWords kindOfField id hd) (hof.nodup_columnNames kindOfField id) hlayout recordss
  refine ⟨⟨counts, hcounts, hcounts.kept⟩, ?_⟩
  rw [Transaction.rollback, transaction.before_insertBatches T recordss]

def tiny : FamilyMember :=
  { ident := ⟨"Tiny", false⟩
    shape := .named [⟨⟨"id", false⟩, some (.optional (.integer .int16)), [.autoIncrement true]⟩,
      ⟨⟨"big", false⟩, some (.integer .uint64), []⟩] }

/-- Three batches for keys of 16 bits. The second fails when its last record cannot take its key,
but its rows have been stored by then. The third has a key that is in use, and none of its rows is
stored. -/
theorem rows_of_batches_of_tiny :
    ∃ m, tiny.map .model = .ok m ∧
      let T := recordType [m] m
      let transaction := Transaction.start (.ofModel (m.model kindOfField id))
      let recordss : List (List Record) := [[[.present (.signed 32766), .unsigned 1]],
        [[.absent, .unsigned 2], [.absent, .unsigned 3]],
        [[.absent, .unsigned 4], [.present (.signed 32766), .unsigned 5]]]
      let (batches, afterwards) := transaction.insertBatches T recordss
      batches.map (·.result) = [.ok, .error .integerTooLarge,
        .error (.database (.notUnique "Tiny" "id"))] ∧
      afterwards.commit.dump = [[.integer 32766, .integer 1], [.integer 32767, .integer 2],
        [.integer 32768, .integer 3]] ∧
      (∃ counts, Transaction.HaveStored T transaction.current.table recordss counts batches ∧
        T.StoresRecords transaction.current.table (T.kept recordss counts)
          afterwards.commit.table) ∧
      afterwards.rollback.table = transaction.before.table := by
  obtain ⟨m, hm⟩ : ∃ m, tiny.map .model = .ok m := ⟨_, rfl⟩
  refine ⟨m, hm, ?_⟩
  intro T transaction recordss
  have hworded : tiny.IsWorded := ⟨by decide, by decide⟩
  have hresults : (transaction.insertBatches T recordss).1.map (·.result) = [.ok,
      .error .integerTooLarge, .error (.database (.notUnique "Tiny" "id"))] := by
    obtain rfl := Except.ok.inj hm
    decide +kernel
  have hrows : (transaction.insertBatches T recordss).2.commit.dump = [[.integer 32766, .integer 1],
      [.integer 32767, .integer 2], [.integer 32768, .integer 3]] := by
    obtain rfl := Except.ok.inj hm
    decide +kernel
  have hlayout : transaction.current.table.layout = .ofModel (m.model kindOfField id) := rfl
  have hbatches := rows_of_batches hm hworded [m] hlayout recordss
  -- From here on the batches are known by their results alone.
  dsimp only at hbatches
  generalize transaction.insertBatches T recordss = after at hresults hrows hbatches ⊢
  exact ⟨hresults, hrows, hbatches⟩

end Derive

end SqlCompose
