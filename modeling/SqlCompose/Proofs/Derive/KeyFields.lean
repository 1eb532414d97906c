import SqlCompose.Proofs.Derive.TypedRecords
import SqlCompose.Proofs.InPlace.Edits

/-! Keys that are written into records and read from them again. A generated key is converted to
the type of its field before the field is assigned, so a key that the type does not have changes
nothing; and the key that a record has gives the record back. -/

namespace SqlCompose

/-! ### Conversions -/

theorem IntegerType.check_of_range {t : IntegerType} {n : Int} (hleast : t.least ≤ n)
    (hgreatest : n ≤ t.greatest) : t.check n = .ok n := by
  rw [check, if_neg (Int.not_lt.mpr hgreatest), if_neg (Int.not_lt.mpr hleast)]

theorem UInt64.ofInt_toNat (n : UInt64) : UInt64.ofInt n.toNat = n := by
  have hlt : (n.toNat : Int) < 2 ^ 64 := Int.ofNat_lt.mpr n.toNat_lt
  rw [UInt64.ofInt, Int.emod_eq_of_lt (Int.natCast_nonneg _) hlt, Int.toNat_natCast,
    UInt64.ofNat_toNat]

/-- Whether a value is not behind a pointer. No pointer takes a key. -/
def Scalar.isDirect : Scalar → Bool
  | behind _ => false
  | present s => s.isDirect
  | _ => true

namespace ScalarType

/-- The integer type that a key is converted to: the type itself, or the one that it makes optional
once or several times. -/
def keyInteger? : ScalarType → Option IntegerType
  | integer i => some i
  | optional t => t.keyInteger?
  | _ => none

/-- A type takes the keys that are in the range of its integers. -/
theorem ofKey_ok_iff {t : ScalarType} {i : IntegerType} (h : t.keyInteger? = some i)
    (key : Int64) :
    (∃ s, t.ofKey key = .ok s) ↔ i.least ≤ key.toInt ∧ key.toInt ≤ i.greatest := by
  induction t with
  | integer i' =>
    cases h
    rw [ofKey]
    constructor
    · rintro ⟨s, hs⟩
      obtain ⟨n, hn, -⟩ := map_ok hs
      exact (IntegerType.check_ok hn).2
    · rintro ⟨hleast, hgreatest⟩
      rw [IntegerType.check_of_range hleast hgreatest]
      exact ⟨_, rfl⟩
  | optional t ih =>
    rw [← ih h, ofKey]
    constructor
    · rintro ⟨s, hs⟩
      obtain ⟨inner, hinner, -⟩ := map_ok hs
      exact ⟨inner, hinner⟩
    · rintro ⟨inner, hinner⟩
      rw [hinner]
      exact ⟨_, rfl⟩
  | _ => cases h

/-- A key that is read from a value gives the value back. -/
theorem ofKey_of_toValue {s : Scalar} {t : ScalarType} (h : s.IsOf t) (hdirect : s.isDirect = true)
    {i : IntegerType} (ht : t.keyInteger? = some i) {key : Int64}
    (hkey : s.toValue = .ok (.integer key)) : t.ofKey key = .ok s := by
  induction h with
  | behind => cases hdirect
  | absent => cases hkey
  | present _ ih => rw [ofKey, ih hdirect ht hkey]; rfl
  | @signed n t hsigned hcheck =>
    cases hkey
    rw [ofKey, hcheck]
    simp only [Except.map, IntegerType.toScalar, hsigned, if_true, Int64.ofInt_toInt]
  | @unsigned n t hsigned hcheck =>
    rw [Scalar.toValue] at hkey
    split at hkey
    · next hle =>
      cases hkey
      have hmax : Int64.maxValue.toInt = 2 ^ 63 - 1 := by decide
      have hlt : n.toNat < 2 ^ 63 := by omega
      rw [ofKey, Int64.toInt_ofNat_of_lt hlt, hcheck]
      simp only [Except.map, IntegerType.toScalar, hsigned, Bool.false_eq_true, if_false,
        UInt64.ofInt_toNat]
    · cases hkey
  | _ => cases ht

end ScalarType

namespace Derive.Mapping

/-! ### Records -/

/-- Writes a generated key into the key field of a record in its place. -/
def setKeyInPlace (m : MemberMapping) (key : Int64) : Edit Record Unit :=
  match m.keyRefusal?, m.keyField? with
  | some e, _ => throw e
  | none, some f =>
    match f.type with
    | some t => do
      let s ← liftM (t.ofKey key)
      modify fun r => r.set f.position s
    | none => throw (.custom "the key field carries no data")
  | none, none => throw (.missingPrimaryKey m.typeName)

/-- The key is converted before the field is assigned. -/
theorem exact_setKeyInPlace (m : MemberMapping) (key : Int64) :
    (m.setKeyInPlace key).Exact (m.setKey · key) := by
  intro r
  unfold setKeyInPlace setKey
  cases m.keyRefusal? with
  | some e => rfl
  | none =>
    cases m.keyField? with
    | none => rfl
    | some f =>
      cases htype : f.type with
      | none =>
        simp only [htype]
        rfl
      | some t =>
        simp only [htype, Edit.on_bind, Edit.on_liftM]
        cases t.ofKey key <;> rfl

/-- The key of a record type is generated. Its field is of this type, which has these integers. -/
structure IsGenerated (m : MemberMapping) (f : MappedField (Option ScalarType) Nat)
    (t : ScalarType) (i : IntegerType) : Prop where
  field_eq : m.keyField? = some f
  key_eq : f.key = some .autoIncrement
  type_eq : f.type = some t
  integer_eq : t.keyInteger? = some i

/-- A key that is assigned, or that there is none of, is never generated. -/
theorem setKey_error {m : MemberMapping}
    (hkey : ∀ f, m.keyField? = some f → f.key ≠ some .autoIncrement) (r : Record) (key : Int64) :
    m.setKey r key = .error (match m.keyField? with
      | some f => .assignedKey f.ident.name m.typeName
      | none => .missingPrimaryKey m.typeName) := by
  unfold setKey keyRefusal?
  cases hf : m.keyField? with
  | none => rfl
  | some f => simp only [if_neg (hkey f hf)]

section

variable {m : MemberMapping} {f : MappedField (Option ScalarType) Nat} {t : ScalarType}
  {i : IntegerType} (h : m.IsGenerated f t i)

include h

namespace IsGenerated

theorem setKey_eq (r : Record) (key : Int64) :
    m.setKey r key = (t.ofKey key).map (r.set f.position) := by
  unfold setKey keyRefusal?
  simp only [h.field_eq, h.key_eq, if_true, h.type_eq]

theorem setKey_ok_iff (r : Record) (key : Int64) :
    (∃ r', m.setKey r key = .ok r') ↔ i.least ≤ key.toInt ∧ key.toInt ≤ i.greatest := by
  rw [← ScalarType.ofKey_ok_iff h.integer_eq, h.setKey_eq]
  constructor
  · rintro ⟨r', hr'⟩
    obtain ⟨s, hs, -⟩ := map_ok hr'
    exact ⟨s, hs⟩
  · rintro ⟨s, hs⟩
    rw [hs]
    exact ⟨_, rfl⟩

/-- The entry of the key is the new one. The others are as they were, whether they have a value or
not. -/
theorem values_setKey {r r' : Record} {key : Int64} (hset : m.setKey r key = .ok r')
    (hlt : f.position < r.length) :
    m.values r' = m.storedFields.mapM fun g =>
      if g.position = f.position then .ok (.integer key) else (scalar g r).toValue := by
  rw [values]
  congr 1
  funext g
  split
  · next heq =>
    rw [← key_setKey h.field_eq hset hlt, Mapping.key_eq h.field_eq, scalar, scalar, heq]
  · next hne => rw [scalar, scalar, getElem_setKey h.field_eq hset hne]

/-- The key that a record has is converted to the scalar that the record has. -/
theorem setKey_key {r : Record} (hlt : f.position < r.length) (hscalar : (scalar f r).IsOf t)
    (hdirect : (scalar f r).isDirect = true) {key : Int64} (hkey : m.key r = .ok (.integer key)) :
    m.setKey r key = .ok r := by
  rw [Mapping.key_eq h.field_eq] at hkey
  rw [h.setKey_eq, ScalarType.ofKey_of_toValue hscalar hdirect h.integer_eq hkey, scalar,
    List.getElem?_eq_getElem hlt]
  exact congrArg Except.ok (List.set_getElem_self hlt)

end IsGenerated

end

end Derive.Mapping

namespace Derive

/-- For every declaration that is converted to rows, every record of it and every key. A key is
written into a record in its place, or the record stays as it is. If keys are generated, those are
written that are in the range of the integers of the key field, however often it is made optional.
The record has this key then, and its other values and fields are the old ones. The key that a
record has can be written into it again, which changes nothing; the scalar of the key field is
direct in every record, as no pointer takes a key. No key is written where the caller assigns keys,
nor where there are none. -/
theorem Declaration.setKey_roundTrip {d : FamilyMember} {m : MemberMapping}
    (hm : d.map .record = .ok m) {r : Record} (hr : r.length = d.fields.length) (key : Int64) :
    (m.setKeyInPlace key).Exact (m.setKey · key) ∧
      (∀ f t i, m.IsGenerated f t i →
        ((∃ r', m.setKey r key = .ok r') ↔ i.least ≤ key.toInt ∧ key.toInt ≤ i.greatest) ∧
        (∀ r', m.setKey r key = .ok r' →
          m.key r' = .ok (.integer key) ∧
          (m.values r' = m.storedFields.mapM fun g =>
            if g.position = f.position then .ok (.integer key)
            else (Mapping.scalar g r).toValue) ∧
          (∀ row, m.values r = .ok row → ∃ n, m.storedFields[n]? = some f ∧
            m.values r' = .ok (row.set n (.integer key))) ∧
          ∀ place ≠ f.position, r'[place]? = r[place]?) ∧
        ((Mapping.scalar f r).IsOf t → (Mapping.scalar f r).isDirect = true →
          m.key r = .ok (.integer key) → m.setKey r key = .ok r)) ∧
      ((∀ f, m.keyField? = some f → f.key ≠ some .autoIncrement) →
        m.setKey r key = .error (match m.keyField? with
          | some f => .assignedKey f.ident.name m.typeName
          | none => .missingPrimaryKey m.typeName)) := by
  have hmap : m.IsOf d := map_ok hm
  refine ⟨Mapping.exact_setKeyInPlace m key, fun f t i h => ?_,
    fun h => Mapping.setKey_error h r key⟩
  have hfield := h.field_eq
  have hlt : f.position < r.length :=
    hr ▸ hmap.position_lt (List.mem_of_find?_eq_some hfield)
  refine ⟨h.setKey_ok_iff r key, fun r' hset => ?_,
    fun hscalar hdirect => h.setKey_key hlt hscalar hdirect⟩
  refine ⟨Mapping.key_setKey hfield hset hlt, h.values_setKey hset hlt, fun row hrow => ?_,
    fun place hplace => Mapping.getElem_setKey hfield hset hplace⟩
  obtain ⟨n, hn⟩ := List.mem_iff_getElem?.mp (hmap.keyField_stored hfield)
  exact ⟨n, hn, Mapping.values_setKey hfield hset hmap hlt hn hrow⟩

/-- A declaration whose key is small, and optional twice. -/
def badge : FamilyMember :=
  { ident := ⟨"Badge", false⟩
    shape := .named [⟨⟨"label", false⟩, some .text, []⟩,
      ⟨⟨"id", false⟩, some (.optional (.optional (.integer .uint16))), [.autoIncrement true]⟩] }

/-- The greatest key of 16 bits is written, the next one is not, and the key that the record has
leaves it as it is. -/
theorem Declaration.setKey_roundTrip_of_badge :
    let r : Record := [.text "Door", .present (.present (.unsigned 7))]
    ∃ m, badge.map .record = .ok m ∧ r.length = badge.fields.length ∧
      (∃ r', m.setKey r 65535 = .ok r' ∧ m.values r' = .ok [.text "Door", .integer 65535]) ∧
      (m.setKeyInPlace 65536).on r = (.error .integerTooLarge, r) ∧
      m.setKey r 7 = .ok r := by
  intro r
  refine ⟨_, rfl, rfl, ?_⟩
  obtain ⟨-, hgreatest, -⟩ := setKey_roundTrip (d := badge) (r := r) rfl rfl 65535
  obtain ⟨hexact, -, -⟩ := setKey_roundTrip (d := badge) (r := r) rfl rfl 65536
  obtain ⟨-, hown, -⟩ := setKey_roundTrip (d := badge) (r := r) rfl rfl 7
  obtain ⟨hiff, hset, -⟩ := hgreatest _ _ .uint16 ⟨rfl, rfl, rfl, rfl⟩
  obtain ⟨-, -, hkeep⟩ := hown _ _ .uint16 ⟨rfl, rfl, rfl, rfl⟩
  obtain ⟨r', hr'⟩ := hiff.mpr (by decide)
  obtain ⟨-, hvalues, -⟩ := hset r' hr'
  have hscalar : Scalar.IsOf (.present (.present (.unsigned 7)))
      (.optional (.optional (.integer .uint16))) := .present (.present (.unsigned rfl rfl))
  exact ⟨⟨r', hr', hvalues.trans rfl⟩, hexact r, hkeep hscalar rfl rfl⟩

end Derive

end SqlCompose
