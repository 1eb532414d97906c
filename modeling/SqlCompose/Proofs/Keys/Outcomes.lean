import SqlCompose.Derive.Records
import SqlCompose.Proofs.Except
import SqlCompose.Proofs.Keys.Resolution

/-! How keys are resolved, for each kind of primary key. Generated keys are written into the records
in order, up to the first record that refuses; keys that the caller has assigned are offered to the
outcome, which may refuse each of them; without a primary key nothing is done. -/

namespace SqlCompose

variable {ω ρ : Type}

/-! ### Generated keys as integers -/

/-- The numbers that are met on the way to the keys of some records are integers of 64 bits. -/
structure OutcomeType.KeysFit (O : OutcomeType ω) (o : ω) (records : Nat) : Prop where
  affected : FitsKey (O.rowsAffected o)
  index : ∀ i : Nat, 1 ≤ i → i ≤ records → FitsKey i
  offset : ∀ i : Nat, 1 ≤ i → i ≤ records → FitsKey (O.rowsAffected o - i)
  key : ∀ i : Nat, 1 ≤ i → i ≤ records →
    FitsKey ((O.lastRowId o).toInt - (O.rowsAffected o - i))

/-- The keys of the records from the first on, as integers. -/
def OutcomeType.keyNumbers (O : OutcomeType ω) (o : ω) (records : Nat) : List Int :=
  (List.range records).map fun i => (O.lastRowId o).toInt - (O.rowsAffected o - (i + 1 : Nat))

section

variable {O : OutcomeType ω} {o : ω} {n : Nat}

/-- There are keys for all records, and they are the numbers that are expected. -/
theorem exists_keyNumbers (h : O.KeysFit o n) :
    ∃ keys : List Int64, keys.length = n ∧
      AreCountedBack (O.lastRowId o) (O.rowsAffected o) 1 keys ∧
      keys.map Int64.toInt = O.keyNumbers o n := by
  obtain ⟨keys, hlength, hkeys⟩ : ∃ keys, keys.length = n ∧
      AreCountedBack (O.lastRowId o) (O.rowsAffected o) 1 keys := by
    refine exists_areCountedBack fun i hi hin => ?_
    have hin : i ≤ n := by omega
    exact ⟨_, generatedKey?_eq_some_iff.mpr
      ⟨h.index i hi hin, h.offset i hi hin, toInt_ofInt_of_fitsKey (h.key i hi hin)⟩⟩
  refine ⟨keys, hlength, hkeys, List.ext_getElem (by simp [OutcomeType.keyNumbers, hlength]) ?_⟩
  intro i hi _
  rw [List.length_map] at hi
  have hkey := hkeys.toInt_getElem (List.getElem?_eq_getElem hi)
  simpa [OutcomeType.keyNumbers, Nat.add_comm] using hkey

/-- Every key is the next after the one before it. -/
theorem isChain_keyNumbers : (O.keyNumbers o n).IsChain fun a b => b = a + 1 := by
  rw [List.isChain_iff_getElem]
  intro i hi
  simp only [OutcomeType.keyNumbers, List.getElem_map, List.getElem_range]
  omega

theorem pairwise_keyNumbers : (O.keyNumbers o n).Pairwise (· < ·) := by
  rw [List.pairwise_iff_getElem]
  intro i j hi hj hlt
  simp only [OutcomeType.keyNumbers, List.getElem_map, List.getElem_range]
  omega

/-- As many rows as records: the keys end in the id of the last row. -/
theorem getLast?_keyNumbers (hn : n ≠ 0) (h : O.rowsAffected o = n) :
    (O.keyNumbers o n).getLast? = some (O.lastRowId o).toInt := by
  obtain ⟨k, rfl⟩ := Nat.exists_eq_succ_of_ne_zero hn
  rw [OutcomeType.keyNumbers, List.range_succ, List.map_append, h]
  simp

end

/-! ### Assigned keys -/

/-- The primary key is assigned by the caller. -/
def RecordType.HasAssignedKey (T : RecordType ρ) : Prop :=
  ∃ column, T.model.primaryKey? = some column ∧ column.key = some .assigned

/-- The outcome after it was offered a key. -/
def OutcomeType.offer (O : OutcomeType ω) (o : ω) (key : Value) : ω :=
  (O.setInsertId o key).toOption.getD o

/-- The outcome takes none of these keys. -/
def OutcomeType.Refuses (O : OutcomeType ω) (o : ω) (keys : List Value) : Prop :=
  ∀ key ∈ keys, ∃ e, O.setInsertId o key = .error e

section

variable {T : RecordType ρ} {O : OutcomeType ω} {o : ω} {records : List ρ} {keys : List Value}

theorem putKeys_append (h : records.mapM T.key = .ok keys) (rest : List ρ) :
    putKeys O T o (records ++ rest) = putKeys O T (keys.foldl O.offer o) rest := by
  induction records generalizing o keys with
  | nil =>
    cases h
    rfl
  | cons r records ih =>
    obtain ⟨key, keys, hkey, hkeys, rfl⟩ := mapM_cons_ok h
    rw [List.cons_append, putKeys, hkey, List.foldl_cons, ← ih hkeys, OutcomeType.offer]
    dsimp only
    cases O.setInsertId o key <;> rfl

/-- Keys that can all be read are all offered. -/
theorem putKeys_of_keys (h : records.mapM T.key = .ok keys) :
    putKeys O T o records = (.ok (), keys.foldl O.offer o) := by
  have happend := putKeys_append (O := O) (o := o) h []
  rwa [List.append_nil] at happend

theorem resolveKeys_assigned (hT : T.HasAssignedKey) :
    resolveKeys O T o records =
      ⟨.ofExcept (putKeys O T o records).1, (putKeys O T o records).2, records⟩ := by
  obtain ⟨column, hcolumn, horigin⟩ := hT
  simp only [resolveKeys, Model.requirePrimaryKey, hcolumn, horigin, Option.getD_some]

/-- A key that cannot be read ends the resolution. The keys before it have been offered. -/
theorem resolveKeys_of_unread (hT : T.HasAssignedKey) (h : records.mapM T.key = .ok keys) {r : ρ}
    {e : Error} (hr : T.key r = .error e) (behind : List ρ) :
    resolveKeys O T o (records ++ r :: behind) =
      ⟨.error e, keys.foldl O.offer o, records ++ r :: behind⟩ := by
  rw [resolveKeys_assigned hT, putKeys_append h, putKeys, hr]
  rfl

/-- Keys that are refused leave the outcome alone. -/
theorem foldl_offer_of_refuses (h : O.Refuses o keys) : keys.foldl O.offer o = o := by
  induction keys with
  | nil => rfl
  | cons key keys ih =>
    obtain ⟨⟨e, hrefused⟩, hkeys⟩ := List.forall_mem_cons.mp h
    have hoffer : O.offer o key = o := by
      rw [OutcomeType.offer, hrefused]
      rfl
    rw [List.foldl_cons, hoffer]
    exact ih hkeys

/-- The last key that is accepted is the one that stays. -/
theorem foldl_offer_of_accepted {before behind : List Value} {key : Value} {last : ω}
    (hkey : O.setInsertId (before.foldl O.offer o) key = .ok last)
    (hbehind : O.Refuses last behind) :
    (before ++ key :: behind).foldl O.offer o = last := by
  have hoffer : O.offer (before.foldl O.offer o) key = last := by
    rw [OutcomeType.offer, hkey]
    rfl
  rw [List.foldl_append, List.foldl_cons, hoffer]
  exact foldl_offer_of_refuses hbehind

/-- Plain data take every key, so they keep the last. -/
theorem foldl_offer_recorded (o : Outcome) (keys : List Value) :
    keys.foldl Outcome.recorded.offer o = { o with insertId := keys.getLast?.or o.insertId } := by
  induction keys generalizing o with
  | nil => rfl
  | cons key keys ih =>
    rw [List.foldl_cons, ih, List.getLast?_cons]
    cases keys.getLast? <;> rfl

end

/-! ### Resolution -/

/-- Without a primary key nothing is done. -/
theorem resolveKeys_keyless {T : RecordType ρ} (h : T.model.primaryKey? = none)
    (O : OutcomeType ω) (o : ω) (records : List ρ) :
    resolveKeys O T o records =
      ⟨.error (.missingPrimaryKey T.model.typeName), o, records⟩ := by
  simp only [resolveKeys, Model.requirePrimaryKey, h]

/-- Generated keys are counted back from the id of the last row. The records take them in order, up
to the first that refuses. -/
theorem resolveKeys_counted {T : RecordType ρ} (hT : T.HasGeneratedKey) {O : OutcomeType ω} {o : ω}
    {records : List ρ} (hfit : O.KeysFit o records.length) :
    let r := resolveKeys O T o records
    ∃ keys : List Int64, keys.map Int64.toInt = O.keyNumbers o records.length ∧ r.outcome = o ∧
      (r.result = .ok ∧ T.TakeKeys records keys r.records ∨
        ∃ e, r.result = .error e ∧ T.RefusesKey records keys e r.records) := by
  obtain ⟨keys, hlength, hkeys, hnumbers⟩ := exists_keyNumbers hfit
  rw [resolveKeys_generated hT hfit.affected.2]
  exact ⟨keys, hnumbers, rfl, setGeneratedKeys_cases T hkeys hlength⟩

/-- Plain data end with the key of the last record. -/
theorem resolveKeys_recorded {T : RecordType ρ} (hT : T.HasAssignedKey) (o : Outcome)
    {records : List ρ} {keys : List Value} (hkeys : records.mapM T.key = .ok keys) :
    resolveKeys Outcome.recorded T o records =
      ⟨.ok, { o with insertId := keys.getLast?.or o.insertId }, records⟩ := by
  rw [resolveKeys_assigned hT, putKeys_of_keys hkeys, foldl_offer_recorded]
  rfl

/-- What the resolution of keys does, for each kind of primary key. Generated keys are consecutive
and increasing, and end in the id of the last row if there were as many rows as records. An assigned
key is passed over if the outcome refuses it, and the last one that is accepted stays; only a key
that cannot be read ends the resolution, after the keys before it have been offered. -/
theorem resolveKeys_by_origin (O : OutcomeType ω) (T : RecordType ρ) (o : ω) (records : List ρ) :
    let r := resolveKeys O T o records
    let numbers := O.keyNumbers o records.length
    (T.HasGeneratedKey → O.KeysFit o records.length →
      (∃ keys : List Int64, keys.map Int64.toInt = numbers ∧
        (r.result = .ok ∧ T.TakeKeys records keys r.records ∨
          ∃ e, r.result = .error e ∧ T.RefusesKey records keys e r.records)) ∧
      (numbers.IsChain fun a b => b = a + 1) ∧ numbers.Pairwise (· < ·) ∧
      (records ≠ [] → O.rowsAffected o = records.length →
        numbers.getLast? = some (O.lastRowId o).toInt) ∧
      r.outcome = o) ∧
    (T.HasAssignedKey → r.records = records ∧
      (∀ keys, records.mapM T.key = .ok keys → r.result = .ok ∧
        (O.Refuses o keys → r.outcome = o) ∧
        ∀ before key behind last, keys = before ++ key :: behind →
          O.setInsertId (before.foldl O.offer o) key = .ok last → O.Refuses last behind →
          r.outcome = last) ∧
      ∀ before s behind keys e, records = before ++ s :: behind →
        before.mapM T.key = .ok keys → T.key s = .error e →
        r.result = .error e ∧ r.outcome = keys.foldl O.offer o) ∧
    (T.model.primaryKey? = none →
      r.result = .error (.missingPrimaryKey T.model.typeName) ∧ r.outcome = o ∧
        r.records = records) := by
  intro r numbers
  refine ⟨fun hT hfit => ?_, fun hT => ⟨?_, ?_, ?_⟩, fun h => ?_⟩
  · obtain ⟨keys, hkeys, houtcome, hrecords⟩ := resolveKeys_counted hT hfit
    refine ⟨⟨keys, hkeys, hrecords⟩, isChain_keyNumbers, pairwise_keyNumbers, ?_, houtcome⟩
    intro hne haffected
    exact getLast?_keyNumbers (mt List.eq_nil_of_length_eq_zero hne) haffected
  · exact congrArg KeyResolution.records (resolveKeys_assigned hT)
  · intro keys hkeys
    have hresolved : r = ⟨.ok, keys.foldl O.offer o, records⟩ := by
      rw [show r = _ from resolveKeys_assigned hT, putKeys_of_keys hkeys]
      rfl
    rw [hresolved]
    refine ⟨rfl, foldl_offer_of_refuses, ?_⟩
    rintro before key behind last rfl hkey hbehind
    exact foldl_offer_of_accepted hkey hbehind
  · rintro before s behind keys e rfl hkeys hs
    rw [show r = _ from resolveKeys_of_unread hT hkeys hs behind]
    exact ⟨rfl, rfl⟩
  · rw [show r = _ from resolveKeys_keyless h O o records]
    exact ⟨rfl, rfl, rfl⟩

/-- A key beyond 63 bits cannot be read, so the resolution fails. -/
theorem resolveKeys_fails_unread :
    let d : Derive.FamilyMember := {
      ident := ⟨"BigKey", false⟩
      shape := .named [⟨⟨"id", false⟩, some (.integer .uint64), [.primaryKey true]⟩,
        ⟨⟨"type", true⟩, some .text, []⟩] }
    ∃ m, d.map .model = .ok m ∧
      let T := Derive.recordType [m] m
      let records : List Derive.Record := [[.unsigned 0xFFFFFFFFFFFFFFFF, .text "x"]]
      T.HasAssignedKey ∧
        (resolveKeys Outcome.readOnly T { rowsAffected := 1 } records).result =
          .error .integerTooLarge := by
  refine ⟨_, rfl, ⟨_, rfl, rfl⟩, ?_⟩
  decide +kernel

end SqlCompose
