import SqlCompose.Derive.Records
import SqlCompose.Proofs.Derive.Mappings
import SqlCompose.Proofs.Keys.Resolution
import SqlCompose.Proofs.Sql.Insertions
import SqlCompose.Store.Table

/-! The records of a declared type and the rows that are stored for them. A key that is written
into a record is the value of its key column from then on, and nothing else changes. -/

namespace SqlCompose

/-! ### Keys as scalars -/

theorem IntegerType.check_ok {t : IntegerType} {n k : Int} (h : t.check n = .ok k) :
    k = n ∧ t.least ≤ n ∧ n ≤ t.greatest := by
  unfold check at h
  split at h
  · cases h
  · split at h
    · cases h
    · cases h
      exact ⟨rfl, by omega, by omega⟩

theorem UInt64.toNat_ofInt_of_le {k : Int} (h : 0 ≤ k) (hle : k ≤ Int64.maxValue.toInt) :
    (UInt64.ofInt k).toNat = k.toNat := by
  have hmax : Int64.maxValue.toInt = 9223372036854775807 := by decide
  simp [UInt64.ofInt]
  omega

/-- A key comes back from the scalar that it has become. -/
theorem ScalarType.toValue_ofKey {t : ScalarType} {key : Int64} {s : Scalar}
    (h : t.ofKey key = .ok s) : s.toValue = .ok (.integer key) := by
  induction t generalizing s with
  | integer i =>
    rw [ofKey] at h
    cases hcheck : i.check key.toInt with
    | error e =>
      rw [hcheck] at h
      cases h
    | ok n =>
      rw [hcheck] at h
      cases h
      obtain ⟨rfl, hleast, -⟩ := IntegerType.check_ok hcheck
      unfold IntegerType.toScalar
      split
      · rw [Scalar.toValue, Int64.ofInt_toInt]
      · next hunsigned =>
        have hpos : 0 ≤ key.toInt := by
          rwa [IntegerType.least, if_neg hunsigned] at hleast
        have hnat := UInt64.toNat_ofInt_of_le hpos (Int64.toInt_le key)
        have hmax : (key.toInt.toNat : Int) ≤ Int64.maxValue.toInt := by
          rw [Int.toNat_of_nonneg hpos]
          exact Int64.toInt_le key
        rw [Scalar.toValue, hnat, if_pos hmax, ← Int64.ofInt_eq_ofNat, Int.toNat_of_nonneg hpos,
          Int64.ofInt_toInt]
  | optional t ih =>
    rw [ofKey] at h
    cases hinner : t.ofKey key with
    | error e =>
      rw [hinner] at h
      cases h
    | ok inner =>
      rw [hinner] at h
      cases h
      rw [Scalar.toValue]
      exact ih hinner
  | _ => cases h

/-- Every key is a 64-bit integer. -/
theorem ScalarType.ofKey_int64 (key : Int64) :
    (ScalarType.integer .int64).ofKey key = .ok (.signed key) := by
  have hleast : IntegerType.int64.least = Int64.minValue.toInt := by decide
  have hgreatest : IntegerType.int64.greatest = Int64.maxValue.toInt := by decide
  have hcheck : IntegerType.int64.check key.toInt = .ok key.toInt := by
    rw [IntegerType.check, hleast, hgreatest, if_neg (Int.not_lt.mpr (Int64.toInt_le key)),
      if_neg (Int.not_lt.mpr (Int64.minValue_le_toInt key))]
  rw [ofKey, hcheck]
  show Except.ok (Scalar.signed (Int64.ofInt key.toInt)) = _
  rw [Int64.ofInt_toInt]

namespace Derive.Mapping

/-! ### The model of a mapping -/

section

variable {τ ρ : Type} (kindOf : τ → Kind) (placeOf : ρ → Nat) (m : Mapping τ ρ)

theorem columnNames_model :
    (m.model kindOf placeOf).columnNames = m.storedFields.map (·.column) := by
  simp only [Model.columnNames, Model.storedColumns, model, storedFields, List.filter_map,
    List.map_map]
  congr 1
  apply List.filter_congr
  intro f _
  simp

variable {m} {f : MappedField τ ρ} (hf : m.keyField? = some f)

include hf

theorem exists_primaryKey :
    ∃ c, (m.model kindOf placeOf).primaryKey? = some c ∧ c.name = f.column ∧ c.key = f.key := by
  rw [Model.primaryKey?, model, List.find?_map]
  exact ⟨_, congrArg (Option.map _) hf, rfl, rfl⟩

/-- The key column of the table. -/
theorem layout_key (hauto : f.key = some .autoIncrement) :
    (Layout.ofModel (m.model kindOf placeOf)).key = some (f.column, .autoIncrement) := by
  obtain ⟨c, hc, hname, hkey⟩ := exists_primaryKey kindOf placeOf hf
  simp [Layout.ofModel, hc, hname, hkey, hauto]

end

section

variable {τ ρ : Type} (kindOf : τ → Kind) (placeOf : ρ → Nat) {m : Mapping τ ρ}
  {d : Declaration τ ρ} (h : m.IsOf d)

include h

theorem IsOf.nodup_columnNames : (m.model kindOf placeOf).columnNames.Nodup := by
  rw [columnNames_model]
  exact h.nodup_columns

theorem IsOf.hasWords (hd : d.IsWorded) :
    (Insertion.ofModel (m.model kindOf placeOf)).HasWords := by
  refine ⟨h.isWord_table hd, fun column hcolumn => ?_⟩
  rw [Insertion.ofModel, columnNames_model] at hcolumn
  obtain ⟨f, hf, rfl⟩ := List.mem_map.mp hcolumn
  exact h.isWord_column hd (List.mem_filter.mp hf).1

end

variable {m : MemberMapping}

theorem length_values {placeOf : Nat → Nat} {r : Record} {values : List Value}
    (h : m.values r = .ok values) :
    values.length = (m.model kindOfField placeOf).columnNames.length := by
  rw [columnNames_model, List.length_map]
  exact length_mapM_ok h

/-! ### Keys of records -/

variable {f : MappedField (Option ScalarType) Nat}

theorem hasGeneratedKey (mappings : List MemberMapping) (hf : m.keyField? = some f)
    (hauto : f.key = some .autoIncrement) : (recordType mappings m).HasGeneratedKey := by
  obtain ⟨c, hc, -, hkey⟩ := exists_primaryKey kindOfField id hf
  exact ⟨c, hc, hkey.trans hauto⟩

/-- A key is written as a scalar that is stored as that key. -/
theorem setKey_ok {r r' : Record} {key : Int64} (hf : m.keyField? = some f)
    (h : m.setKey r key = .ok r') :
    ∃ s, r' = r.set f.position s ∧ s.toValue = .ok (.integer key) := by
  unfold setKey at h
  rw [hf] at h
  split at h
  · cases h
  · next heq =>
    cases heq
    split at h
    · next t _ =>
      cases hkey : t.ofKey key with
      | error e =>
        rw [hkey] at h
        cases h
      | ok s =>
        rw [hkey] at h
        cases h
        exact ⟨s, rfl, ScalarType.toValue_ofKey hkey⟩
    · cases h
  · cases h

theorem key_eq (hf : m.keyField? = some f) (r : Record) : m.key r = (scalar f r).toValue := by
  rw [key, hf]

section

variable {r r' : Record} {key : Int64} (hf : m.keyField? = some f)
  (hset : m.setKey r key = .ok r')

include hf hset

theorem length_setKey : r'.length = r.length := by
  obtain ⟨s, rfl, -⟩ := setKey_ok hf hset
  exact List.length_set

/-- Other fields are not changed, stored or not. -/
theorem getElem_setKey {j : Nat} (hj : j ≠ f.position) : r'[j]? = r[j]? := by
  obtain ⟨s, rfl, -⟩ := setKey_ok hf hset
  exact List.getElem?_set_ne hj.symm

theorem key_setKey (hlt : f.position < r.length) : m.key r' = .ok (.integer key) := by
  obtain ⟨s, rfl, hs⟩ := setKey_ok hf hset
  rw [key_eq hf, scalar, List.getElem?_set_self hlt]
  exact hs

/-- The new key is the value of the key column. The other values are the old ones. -/
theorem values_setKey {d : FamilyMember} (hm : m.IsOf d) (hlt : f.position < r.length) {i : Nat}
    (hi : m.storedFields[i]? = some f) {row : List Value} (hrow : m.values r = .ok row) :
    m.values r' = .ok (row.set i (.integer key)) := by
  obtain ⟨hi, hplace⟩ := List.getElem?_eq_some_iff.mp hi
  have hkey : (scalar f r').toValue = .ok (.integer key) := by
    rw [← key_eq hf, key_setKey hf hset hlt]
  have hordered : m.storedFields.Pairwise fun f g => f.position < g.position :=
    hm.pairwise_position.sublist List.filter_sublist
  have hpositions := List.pairwise_iff_getElem.mp hordered
  rw [values, mapM_ok_iff, List.forall₂_iff_get] at hrow ⊢
  obtain ⟨hlength, hrow⟩ := hrow
  refine ⟨hlength.trans List.length_set.symm, fun j hj hj' => ?_⟩
  simp only [List.get_eq_getElem, List.getElem_set] at hrow ⊢
  split
  · next heq =>
    subst heq
    rw [← hkey, ← hplace]
  · next hne =>
    have hposition : (m.storedFields[j]).position ≠ f.position := by
      rcases Nat.lt_or_gt_of_ne hne with hlt | hlt
      · have := hpositions i j hi hj hlt
        rw [← hplace]
        exact Nat.ne_of_gt this
      · have := hpositions j i hj hi hlt
        rw [← hplace]
        exact Nat.ne_of_lt this
    rw [scalar, getElem_setKey hf hset hposition]
    exact hrow j hj (by omega)

end

end Derive.Mapping

namespace Derive

/-! ### An example -/

/-- A type with a generated key. A record may bring a key along. -/
def city : FamilyMember :=
  { ident := ⟨"City", false⟩
    shape := .named [⟨⟨"id", false⟩, some (.optional (.integer .int64)), [.autoIncrement true]⟩,
      ⟨⟨"name", false⟩, some .text, []⟩] }

def cityKey : MappedField (Option ScalarType) Nat :=
  { ident := ⟨"id", false⟩, position := 0, type := some (.optional (.integer .int64))
    column := "id", key := some .autoIncrement, reference := none }

def cityName : MappedField (Option ScalarType) Nat :=
  { ident := ⟨"name", false⟩, position := 1, type := some .text
    column := "name", key := none, reference := none }

def cityMapping : MemberMapping :=
  { ident := ⟨"City", false⟩, visibility := "", table := "City", aliasName := none
    fields := [cityKey, cityName] }

theorem map_city : city.map .model = .ok cityMapping := rfl

theorem isWorded_city : city.IsWorded := ⟨by decide, by decide⟩

/-- A city takes any key. -/
theorem setKey_city (s : Scalar) (name : String) (key : Int64) :
    cityMapping.setKey [s, .text name] key = .ok [.present (.signed key), .text name] := by
  have hkey : (ScalarType.optional (.integer .int64)).ofKey key = .ok (.present (.signed key)) := by
    rw [ScalarType.ofKey, ScalarType.ofKey_int64]
    rfl
  show ((ScalarType.optional (.integer .int64)).ofKey key).map _ = _
  rw [hkey]
  rfl

end Derive

end SqlCompose
