import Mathlib.Data.List.Chain
import SqlCompose.Keys

/-! The keys that are written into records after a statement has inserted them. They are counted
back from the last row id, so they are consecutive whatever ids the rows have been given; they are
the ids of the rows exactly if these are consecutive too. If some key on the way would have more
than 64 bits, there are none. -/

namespace SqlCompose

variable {ρ : Type}

/-! ### Records that take keys -/

/-- The first records take a key each, in order. The others stay as they are. -/
inductive RecordType.TakeKeys (T : RecordType ρ) : List ρ → List Int64 → List ρ → Prop
  | rest (records : List ρ) : T.TakeKeys records [] records
  | cons {r r' : ρ} {key : Int64} {records records' : List ρ} {keys : List Int64}
      (hkey : T.setKey r key = .ok r') (hrest : T.TakeKeys records keys records') :
      T.TakeKeys (r :: records) (key :: keys) (r' :: records')

namespace RecordType.TakeKeys

variable {T : RecordType ρ} {records records' : List ρ} {keys keys' : List Int64}

theorem length_eq (h : T.TakeKeys records keys records') : records'.length = records.length := by
  induction h with
  | rest _ => rfl
  | cons _ _ ih => rw [List.length_cons, List.length_cons, ih]

/-- Records behind those that take keys. -/
theorem append_rest (h : T.TakeKeys records keys records') (behind : List ρ) :
    T.TakeKeys (records ++ behind) keys (records' ++ behind) := by
  induction h with
  | rest _ => exact .rest _
  | cons hkey _ ih => exact .cons hkey ih

theorem append {behind behind' : List ρ} (h : T.TakeKeys records keys records')
    (hall : keys.length = records.length) (hbehind : T.TakeKeys behind keys' behind') :
    T.TakeKeys (records ++ behind) (keys ++ keys') (records' ++ behind') := by
  induction h with
  | rest _ =>
    rw [List.eq_nil_of_length_eq_zero hall.symm]
    exact hbehind
  | cons hkey _ ih => exact .cons hkey (ih (Nat.succ.inj hall))

/-- Each record that has a key took it itself. -/
theorem setKey_getElem (h : T.TakeKeys records keys records') {i : Nat} {r r' : ρ} {key : Int64}
    (hr : records[i]? = some r) (hr' : records'[i]? = some r') (hkey : keys[i]? = some key) :
    T.setKey r key = .ok r' := by
  induction h generalizing i with
  | rest _ => cases hkey
  | cons hset _ ih =>
    cases i with
    | zero =>
      cases hr
      cases hr'
      cases hkey
      exact hset
    | succ i => exact ih hr hr' hkey

end RecordType.TakeKeys

/-- Keys that are all accepted. -/
theorem RecordType.exists_takeKeys {T : RecordType ρ} {records : List ρ} {keys : List Int64}
    (hlength : keys.length = records.length)
    (haccepts : ∀ (i : Nat) (r : ρ) (key : Int64), records[i]? = some r → keys[i]? = some key →
      ∃ r', T.setKey r key = .ok r') : ∃ records', T.TakeKeys records keys records' := by
  induction keys generalizing records with
  | nil => exact ⟨records, .rest _⟩
  | cons key keys ih =>
    cases records with
    | nil => cases hlength
    | cons r records =>
      obtain ⟨r', hr⟩ := haccepts 0 r key rfl rfl
      obtain ⟨records', hrest⟩ := ih (Nat.succ.inj hlength)
        fun i s k hs hk => haccepts (i + 1) s k hs hk
      exact ⟨r' :: records', .cons hr hrest⟩

/-- The first records take their keys, and the next one refuses its own. It stays as it is, like all
records behind it. -/
def RecordType.RefusesKey (T : RecordType ρ) (records : List ρ) (keys : List Int64) (e : Error)
    (records' : List ρ) : Prop :=
  ∃ before r behind before' keysBefore key keysBehind,
    records = before ++ r :: behind ∧ keys = keysBefore ++ key :: keysBehind ∧
    keysBefore.length = before.length ∧ T.TakeKeys before keysBefore before' ∧
    T.setKey r key = .error e ∧ records' = before' ++ r :: behind

theorem RecordType.RefusesKey.cons {T : RecordType ρ} {records records' : List ρ}
    {keys : List Int64} {e : Error} (h : T.RefusesKey records keys e records') {r r' : ρ}
    {key : Int64} (hkey : T.setKey r key = .ok r') :
    T.RefusesKey (r :: records) (key :: keys) e (r' :: records') := by
  obtain ⟨before, s, behind, before', keysBefore, k, keysBehind, rfl, rfl, hlength, htake, hset,
    rfl⟩ := h
  exact ⟨r :: before, s, behind, r' :: before', key :: keysBefore, k, keysBehind, rfl, rfl,
    congrArg Nat.succ hlength, .cons hkey htake, hset, rfl⟩

/-! ### Integers of 64 bits -/

theorem fitsKey_toInt (a : Int64) : FitsKey a.toInt :=
  ⟨Int64.minValue_le_toInt a, Int64.toInt_le a⟩

theorem toInt_ofInt_of_fitsKey {n : Int} (h : FitsKey n) : (Int64.ofInt n).toInt = n := by
  obtain ⟨hleast, hgreatest⟩ := h
  rw [Int64.toInt_minValue] at hleast
  rw [Int64.toInt_maxValue] at hgreatest
  exact Int64.toInt_ofInt_of_le hleast (by omega)

theorem key?_of_fitsKey {n : Int} (h : FitsKey n) : key? n = some (Int64.ofInt n) :=
  if_pos h

theorem key?_eq_some_iff {n : Int} {key : Int64} : key? n = some key ↔ key.toInt = n := by
  unfold key?
  split
  · next h =>
    constructor
    · intro hkey
      rw [← Option.some.inj hkey, toInt_ofInt_of_fitsKey h]
    · rintro rfl
      rw [Int64.ofInt_toInt]
  · next h =>
    constructor
    · intro hkey
      cases hkey
    · rintro rfl
      exact absurd (fitsKey_toInt key) h

/-- A key is what the row ids say as integers, if all numbers on the way to it have 64 bits. -/
theorem generatedKey?_eq_some_iff {last key : Int64} {affected index : Nat} :
    generatedKey? last affected index = some key ↔
      FitsKey index ∧ FitsKey (affected - index) ∧ key.toInt = last.toInt - (affected - index) := by
  unfold generatedKey?
  constructor
  · intro h
    obtain ⟨number, hnumber, h⟩ := Option.bind_eq_some_iff.mp h
    obtain ⟨offset, hoffset, hkey⟩ := Option.bind_eq_some_iff.mp h
    rw [key?_eq_some_iff] at hnumber hoffset hkey
    rw [hnumber] at hoffset
    rw [hoffset] at hkey
    exact ⟨hnumber ▸ fitsKey_toInt number, hoffset ▸ fitsKey_toInt offset, hkey⟩
  · rintro ⟨hindex, hoffset, hkey⟩
    refine Option.bind_eq_some_iff.mpr ⟨_, key?_of_fitsKey hindex, ?_⟩
    rw [toInt_ofInt_of_fitsKey hindex]
    refine Option.bind_eq_some_iff.mpr ⟨_, key?_of_fitsKey hoffset, ?_⟩
    rw [toInt_ofInt_of_fitsKey hoffset]
    exact key?_eq_some_iff.mpr hkey

/-! ### Keys that are counted back -/

/-- The keys of records from number `index` on. -/
inductive AreCountedBack (last : Int64) (affected : Nat) : (index : Nat) → List Int64 → Prop
  | nil (index : Nat) : AreCountedBack last affected index []
  | cons {index : Nat} {key : Int64} {keys : List Int64}
      (hkey : generatedKey? last affected index = some key)
      (hkeys : AreCountedBack last affected (index + 1) keys) :
      AreCountedBack last affected index (key :: keys)

section

variable {last : Int64} {affected index : Nat} {keys : List Int64}

theorem AreCountedBack.toInt_getElem (h : AreCountedBack last affected index keys) {i : Nat}
    {key : Int64} (hkey : keys[i]? = some key) :
    key.toInt = last.toInt - (affected - (index + i : Nat)) := by
  induction h generalizing i with
  | nil => cases hkey
  | cons hfirst _ ih =>
    cases i with
    | zero =>
      cases hkey
      exact (generatedKey?_eq_some_iff.mp hfirst).2.2
    | succ i =>
      rw [ih hkey]
      omega

theorem areCountedBack_of_getElem
    (h : ∀ (i : Nat) key, keys[i]? = some key →
      generatedKey? last affected (index + i) = some key) :
    AreCountedBack last affected index keys := by
  induction keys generalizing index with
  | nil => exact .nil _
  | cons key keys ih =>
    refine .cons (h 0 key rfl) (ih fun i k hk => ?_)
    rw [Nat.add_assoc, Nat.add_comm 1 i]
    exact h (i + 1) k hk

/-- There are keys for some records if there is one for each of them. -/
theorem exists_areCountedBack {n : Nat}
    (h : ∀ i, index ≤ i → i < index + n → ∃ key, generatedKey? last affected i = some key) :
    ∃ keys, keys.length = n ∧ AreCountedBack last affected index keys := by
  induction n generalizing index with
  | zero => exact ⟨[], rfl, .nil _⟩
  | succ n ih =>
    obtain ⟨key, hkey⟩ := h index (Nat.le_refl _) (by omega)
    obtain ⟨keys, hlength, hkeys⟩ : ∃ keys, keys.length = n ∧
        AreCountedBack last affected (index + 1) keys :=
      ih fun i hi hin => h i (by omega) (by omega)
    exact ⟨key :: keys, congrArg Nat.succ hlength, .cons hkey hkeys⟩

end

/-- Every number is the next after the one before it. -/
def AreConsecutive (ids : List Int64) : Prop :=
  ids.IsChain fun a b => b.toInt = a.toInt + 1

instance (ids : List Int64) : Decidable (AreConsecutive ids) :=
  inferInstanceAs (Decidable (ids.IsChain _))

theorem AreCountedBack.areConsecutive {last : Int64} {affected index : Nat} {keys : List Int64}
    (h : AreCountedBack last affected index keys) : AreConsecutive keys := by
  refine List.isChain_iff_getElem.mpr fun i hi => ?_
  have hthis := h.toInt_getElem (List.getElem?_eq_getElem (Nat.lt_of_succ_lt hi))
  have hnext := h.toInt_getElem (List.getElem?_eq_getElem hi)
  omega

/-- Consecutive numbers, from the last one back. -/
theorem AreConsecutive.toInt_getElem {ids : List Int64} (h : AreConsecutive ids) {last : Int64}
    (hlast : ids.getLast? = some last) {i : Nat} {id : Int64} (hid : ids[i]? = some id) :
    id.toInt = last.toInt - (ids.length - (1 + i : Nat)) := by
  induction ids generalizing i id with
  | nil => cases hid
  | cons a ids ih =>
    cases ids with
    | nil =>
      obtain ⟨hi, rfl⟩ := List.getElem?_eq_some_iff.mp hid
      obtain rfl : i = 0 := Nat.lt_one_iff.mp hi
      cases hlast
      simp
    | cons b ids =>
      obtain ⟨hnext, hrest⟩ := List.isChain_cons_cons.mp h
      rw [List.getLast?_cons_cons] at hlast
      cases i with
      | zero =>
        cases hid
        have hb : b.toInt = last.toInt - ((b :: ids).length - (1 + 0 : Nat)) :=
          ih hrest hlast rfl
        simp only [List.length_cons] at hb ⊢
        omega
      | succ i =>
        rw [ih hrest hlast hid]
        simp only [List.length_cons]
        omega

/-! ### Keys of statements -/

/-- The keys that a statement's records take, for the row ids of its rows: as many, consecutive, and
with the same last one. -/
structure Resolves (ids keys : List Int64) : Prop where
  length_eq : keys.length = ids.length
  areConsecutive : AreConsecutive keys
  getLast?_eq : keys.getLast? = ids.getLast?

theorem AreConsecutive.resolves {ids : List Int64} (h : AreConsecutive ids) : Resolves ids ids :=
  ⟨rfl, h, rfl⟩

/-- The keys are the row ids exactly if these are consecutive. -/
theorem Resolves.eq_iff {ids keys : List Int64} (h : Resolves ids keys) :
    keys = ids ↔ AreConsecutive ids := by
  constructor
  · rintro rfl
    exact h.areConsecutive
  · intro hids
    refine List.ext_getElem h.length_eq fun i hi hi' => ?_
    obtain ⟨last, hlast⟩ : ∃ last, ids.getLast? = some last :=
      ⟨_, List.getLast?_eq_some_getLast (List.ne_nil_of_length_pos (Nat.zero_lt_of_lt hi'))⟩
    have hkey := h.areConsecutive.toInt_getElem (h.getLast?_eq.trans hlast)
      (List.getElem?_eq_getElem hi)
    have hid := hids.toInt_getElem hlast (List.getElem?_eq_getElem hi')
    rw [h.length_eq] at hkey
    exact Int64.toInt_inj.mp (hkey.trans hid.symm)

/-- Counting back from the last row id gives these keys. -/
theorem areCountedBack_iff_resolves {ids keys : List Int64} (hlength : keys.length = ids.length)
    (hcount : ids.length ≤ Int64.maxValue.toInt) :
    AreCountedBack (ids.getLast?.getD 0) ids.length 1 keys ↔ Resolves ids keys := by
  have hleast : Int64.minValue.toInt ≤ 0 := by decide
  constructor
  · intro h
    refine ⟨hlength, h.areConsecutive, ?_⟩
    cases hlast : ids.getLast? with
    | none =>
      rw [List.getLast?_eq_none_iff.mp hlast] at hlength
      rw [List.eq_nil_of_length_eq_zero hlength]
      rfl
    | some last =>
      rw [hlast] at h
      have hpos : 0 < ids.length :=
        List.length_pos_of_ne_nil fun hnil => by rw [hnil] at hlast; cases hlast
      have hlt : keys.length - 1 < keys.length := by omega
      have hkey := h.toInt_getElem (List.getElem?_eq_getElem hlt)
      rw [List.getLast?_eq_getElem?, List.getElem?_eq_getElem hlt]
      refine congrArg some (Int64.toInt_inj.mp (hkey.trans ?_))
      rw [Option.getD_some]
      omega
  · intro h
    refine areCountedBack_of_getElem fun i key hkey => ?_
    have hi : i < ids.length := hlength ▸ (List.getElem?_eq_some_iff.mp hkey).1
    have hlast := List.getLast?_eq_some_getLast (List.ne_nil_of_length_pos (Nat.zero_lt_of_lt hi))
    rw [hlast, Option.getD_some]
    refine generatedKey?_eq_some_iff.mpr ⟨⟨by omega, by omega⟩, ⟨by omega, by omega⟩, ?_⟩
    rw [h.areConsecutive.toInt_getElem (h.getLast?_eq.trans hlast) hkey, hlength]

/-- Row ids of several statements: all keys are right exactly if the ids of each statement are
consecutive. -/
theorem flatten_eq_iff_of_resolves {statements keys : List (List Int64)}
    (h : List.Forall₂ Resolves statements keys) :
    keys.flatten = statements.flatten ↔ ∀ ids ∈ statements, AreConsecutive ids := by
  induction h with
  | nil => simp
  | cons hids _ ih =>
    rw [List.flatten_cons, List.flatten_cons, List.forall_mem_cons, ← ih, ← hids.eq_iff]
    constructor
    · intro h
      exact List.append_inj h hids.length_eq
    · intro h
      rw [h.1, h.2]

theorem length_flatten_of_resolves {statements keys : List (List Int64)}
    (h : List.Forall₂ Resolves statements keys) :
    keys.flatten.length = statements.flatten.length := by
  induction h with
  | nil => rfl
  | cons hids _ ih =>
    rw [List.flatten_cons, List.flatten_cons, List.length_append, List.length_append,
      hids.length_eq, ih]

/-- The keys of several statements are right if all row ids are consecutive. -/
theorem flatten_eq_of_consecutive {statements keys : List (List Int64)}
    (h : List.Forall₂ Resolves statements keys) (hids : AreConsecutive statements.flatten) :
    keys.flatten = statements.flatten :=
  (flatten_eq_iff_of_resolves h).mpr fun _ hmem => hids.infix (List.infix_of_mem_flatten hmem)

/-! ### Resolution -/

/-- The primary key is generated by the database. -/
def RecordType.HasGeneratedKey (T : RecordType ρ) : Prop :=
  ∃ column, T.model.primaryKey? = some column ∧ column.key = some .autoIncrement

variable {T : RecordType ρ}

/-- The records take keys up to the first that refuses or has no key. -/
theorem takeKeys_setGeneratedKeys (T : RecordType ρ) (last : Int64) (affected index : Nat)
    (records : List ρ) :
    ∃ keys, AreCountedBack last affected index keys ∧
      T.TakeKeys records keys (setGeneratedKeys T last affected index records).2 ∧
      ((setGeneratedKeys T last affected index records).1 = .ok →
        keys.length = records.length) := by
  induction records generalizing index with
  | nil => exact ⟨[], .nil _, .rest _, fun _ => rfl⟩
  | cons r records ih =>
    rw [setGeneratedKeys]
    split
    · exact ⟨[], .nil _, .rest _, fun h => by cases h⟩
    · next key hkey =>
      split
      · exact ⟨[], .nil _, .rest _, fun h => by cases h⟩
      · next r' hr =>
        obtain ⟨keys, hback, hkeys, hall⟩ := ih (index + 1)
        exact ⟨key :: keys, .cons hkey hback, .cons hr hkeys, fun h => congrArg Nat.succ (hall h)⟩

theorem setGeneratedKeys_ok_iff {last : Int64} {affected index : Nat} {records records' : List ρ} :
    setGeneratedKeys T last affected index records = (.ok, records') ↔
      ∃ keys, keys.length = records.length ∧ AreCountedBack last affected index keys ∧
        T.TakeKeys records keys records' := by
  constructor
  · intro h
    obtain ⟨keys, hback, hkeys, hall⟩ := takeKeys_setGeneratedKeys T last affected index records
    rw [h] at hkeys hall
    exact ⟨keys, hall rfl, hback, hkeys⟩
  · rintro ⟨keys, hlength, hback, hkeys⟩
    induction hback generalizing records records' with
    | nil =>
      cases hkeys
      rw [List.eq_nil_of_length_eq_zero hlength.symm]
      rfl
    | cons hkey _ ih =>
      cases hkeys with
      | cons hr hkeys =>
        rw [setGeneratedKeys, hkey]
        dsimp only
        rw [hr, ih (Nat.succ.inj hlength) hkeys]

/-- Where there is a key for every record, all of them take it, or the first that refuses ends it
with its error. -/
theorem setGeneratedKeys_cases (T : RecordType ρ) {last : Int64} {affected index : Nat}
    {keys : List Int64} (hkeys : AreCountedBack last affected index keys) {records : List ρ}
    (hlength : keys.length = records.length) :
    let r := setGeneratedKeys T last affected index records
    r.1 = .ok ∧ T.TakeKeys records keys r.2 ∨
      ∃ e, r.1 = .error e ∧ T.RefusesKey records keys e r.2 := by
  induction hkeys generalizing records with
  | nil =>
    rw [List.eq_nil_of_length_eq_zero hlength.symm]
    exact .inl ⟨rfl, .rest _⟩
  | cons hkey _ ih =>
    cases records with
    | nil => cases hlength
    | cons r records =>
      rw [setGeneratedKeys, hkey]
      dsimp only
      cases hr : T.setKey r _ with
      | error e =>
        exact .inr ⟨e, rfl, [], r, records, [], [], _, _, rfl, rfl, rfl, .rest _, hr, rfl⟩
      | ok r' =>
        obtain ⟨hok, htake⟩ | ⟨e, herror, hrefuses⟩ := ih (Nat.succ.inj hlength)
        · exact .inl ⟨hok, .cons hr htake⟩
        · exact .inr ⟨e, herror, hrefuses.cons hr⟩

section

variable {ω : Type} {O : OutcomeType ω} {o : ω} {records : List ρ}

theorem resolveKeys_generated (hT : T.HasGeneratedKey)
    (h : O.rowsAffected o ≤ Int64.maxValue.toInt) :
    resolveKeys O T o records =
      let keyed := setGeneratedKeys T (O.lastRowId o) (O.rowsAffected o) 1 records
      ⟨keyed.1, o, keyed.2⟩ := by
  obtain ⟨column, hcolumn, horigin⟩ := hT
  simp only [resolveKeys, Model.requirePrimaryKey, hcolumn, horigin, Option.getD_some, if_pos h]

/-- More rows than a row id can count. -/
theorem resolveKeys_tooMany (hT : T.HasGeneratedKey)
    (h : ¬ O.rowsAffected o ≤ Int64.maxValue.toInt) :
    resolveKeys O T o records = ⟨.error .integerTooLarge, o, records⟩ := by
  obtain ⟨column, hcolumn, horigin⟩ := hT
  simp only [resolveKeys, Model.requirePrimaryKey, hcolumn, horigin, Option.getD_some, if_neg h]

/-- Only generated keys are written into records. -/
theorem records_resolveKeys (hT : ¬ T.HasGeneratedKey) :
    (resolveKeys O T o records).records = records := by
  unfold resolveKeys Model.requirePrimaryKey
  cases hcolumn : T.model.primaryKey? with
  | none => rfl
  | some column =>
    have hsome : column.key.isSome = true := (List.find?_eq_some_iff_append.mp hcolumn).1
    obtain ⟨origin, horigin⟩ := Option.isSome_iff_exists.mp hsome
    cases origin with
    | autoIncrement => exact absurd ⟨column, hcolumn, horigin⟩ hT
    | assigned => simp only [horigin, Option.getD_some]

theorem takeKeys_resolveKeys (hT : T.HasGeneratedKey) (O : OutcomeType ω) (o : ω)
    (records : List ρ) :
    ∃ keys, T.TakeKeys records keys (resolveKeys O T o records).records ∧
      ((resolveKeys O T o records).result = .ok → keys.length = records.length) := by
  by_cases h : O.rowsAffected o ≤ Int64.maxValue.toInt
  · rw [resolveKeys_generated hT h]
    obtain ⟨keys, -, hkeys⟩ :=
      takeKeys_setGeneratedKeys T (O.lastRowId o) (O.rowsAffected o) 1 records
    exact ⟨keys, hkeys⟩
  · rw [resolveKeys_tooMany hT h]
    exact ⟨[], .rest _, fun h => by cases h⟩

variable (hT : T.HasGeneratedKey) {ids : List Int64}
  (hlast : O.lastRowId o = ids.getLast?.getD 0) (haffected : O.rowsAffected o = ids.length)
  (hlength : ids.length = records.length) (hcount : ids.length ≤ Int64.maxValue.toInt)

include hT hlast haffected hlength hcount

/-- After a statement that has stored its rows under the given ids, all is well exactly if there is
a key for every record and it takes it. -/
theorem resolveKeys_ok_iff {records' : List ρ} :
    (resolveKeys O T o records).result = .ok ∧ (resolveKeys O T o records).records = records' ↔
      ∃ keys, Resolves ids keys ∧ T.TakeKeys records keys records' := by
  rw [resolveKeys_generated hT (haffected ▸ hcount), hlast, haffected]
  dsimp only
  rw [← Prod.mk.injEq, setGeneratedKeys_ok_iff, ← hlength]
  refine exists_congr fun keys => ⟨?_, ?_⟩
  · rintro ⟨hkeys, hback, htake⟩
    exact ⟨(areCountedBack_iff_resolves hkeys hcount).mp hback, htake⟩
  · rintro ⟨hkeys, htake⟩
    exact ⟨hkeys.length_eq, (areCountedBack_iff_resolves hkeys.length_eq hcount).mpr hkeys, htake⟩

/-- Consecutive row ids are keys themselves, so nothing overflows. -/
theorem resolveKeys_ne_overflow (hids : AreConsecutive ids) :
    (resolveKeys O T o records).result ≠ .overflow := by
  have hback := (areCountedBack_iff_resolves rfl hcount).mpr hids.resolves
  rw [resolveKeys_generated hT (haffected ▸ hcount), hlast, haffected]
  intro h
  obtain ⟨hok, -⟩ | ⟨e, he, -⟩ := setGeneratedKeys_cases T hback hlength
  · cases hok.symm.trans h
  · cases he.symm.trans h

end

end SqlCompose
