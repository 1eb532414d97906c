import SqlCompose.Proofs.Derive.StoredFields
import SqlCompose.Proofs.Sql.Equality
import SqlCompose.Proofs.Store.Changes

/-! Records whose scalars have the types of their fields. Where keys are generated, those that such
records bring along are integers too. -/

namespace SqlCompose

/-! ### Scalars of a type -/

/-- The scalars of a type. A value behind a pointer has the type of the value. -/
inductive Scalar.IsOf : Scalar → ScalarType → Prop
  | behind {s : Scalar} {t : ScalarType} (h : IsOf s t) : IsOf (.behind s) t
  | absent (t : ScalarType) : IsOf .absent (.optional t)
  | present {s : Scalar} {t : ScalarType} (h : IsOf s t) : IsOf (.present s) (.optional t)
  | signed {n : Int64} {t : IntegerType} (ht : t.isSigned = true)
      (h : t.check n.toInt = .ok n.toInt) : IsOf (.signed n) (.integer t)
  | unsigned {n : UInt64} {t : IntegerType} (ht : t.isSigned = false)
      (h : t.check n.toNat = .ok (n.toNat : Int)) : IsOf (.unsigned n) (.integer t)
  | nonZero {s : Scalar} {t : IntegerType} (h : IsOf s (.integer t))
      (hne : s.toValue ≠ .ok (.integer 0)) : IsOf s (.nonZero t)
  | single (x : Binary32) : IsOf (.single x) .single
  | double (x : Binary64) : IsOf (.double x) .double
  | boolean (b : Bool) : IsOf (.boolean b) .boolean
  | text (s : String) : IsOf (.text s) .text
  | bytes (bs : List UInt8) : IsOf (.bytes bs) .bytes
  | json (j : Json) : IsOf (.json j) .json
  | uuid (n : BitVec 128) : IsOf (.uuid n) .uuid
  | date (d : Date) : IsOf (.date d) .date
  | dateTime (t : DateTime) : IsOf (.dateTime t) .dateTime
  | zoned (t : ZonedDateTime) : IsOf (.zoned t) .zoned

namespace ScalarType

/-- The types that a generated key may have. -/
def takesKeys : ScalarType → Bool
  | integer _ => true
  | optional t => t.takesKeys
  | _ => false

end ScalarType

/-- A generated key is an integer, and so are the keys that records bring along. -/
theorem Scalar.IsOf.integer {s : Scalar} {t : ScalarType} (h : s.IsOf t)
    (ht : t.takesKeys = true) {v : Value} (hv : s.toValue = .ok v) (hnull : v ≠ .null) :
    ∃ n, v = .integer n := by
  induction h with
  | behind _ ih | present _ ih => exact ih ht hv
  | absent => exact absurd (Except.ok.inj hv).symm hnull
  | signed => exact ⟨_, (Except.ok.inj hv).symm⟩
  | unsigned => exact toValue_unsigned hv
  | _ => cases ht

namespace Derive

/-! ### Records of a declaration -/

/-- The scalars of a field. One without a type carries no data. -/
def Field.Holds (f : Field (Option ScalarType) Nat) (s : Scalar) : Prop :=
  match f.type with
  | some t => s.IsOf t
  | none => s = .absent

/-- A record with a scalar of the right type for each field. -/
def Declaration.HasRecord (d : FamilyMember) (r : Record) : Prop :=
  List.Forall₂ Field.Holds d.fields r

/-- A generated key has a type that can take it. -/
def MappedField.TakesKeys (f : MappedField (Option ScalarType) Nat) : Prop :=
  f.key = some .autoIncrement → ∀ t, f.type = some t → t.takesKeys = true

section

variable {d : FamilyMember} {m : MemberMapping} (hm : m.IsOf d)
  {f : MappedField (Option ScalarType) Nat} {r : Record} (hr : d.HasRecord r)

include hr

theorem Declaration.HasRecord.length_eq : r.length = d.fields.length :=
  (List.Forall₂.length_eq hr).symm

include hm

/-- The scalar of a mapped field. -/
theorem scalar_cases (hf : f ∈ m.fields) :
    (∃ t, f.type = some t ∧ (Mapping.scalar f r).IsOf t) ∨
      f.type = none ∧ Mapping.scalar f r = .absent := by
  obtain ⟨settings, -, -, hread⟩ := hm.read
  obtain ⟨i, g, hg, hmaps⟩ := maps_of_readFields hread f hf
  have hplace : f.position = i := hmaps.position_eq.trans (Nat.zero_add i)
  obtain ⟨hi, hg⟩ := List.getElem?_eq_some_iff.mp hg
  have hi' : i < r.length := hr.length_eq ▸ hi
  have hscalar : Mapping.scalar f r = r[i] := by
    rw [Mapping.scalar, hplace, List.getElem?_eq_getElem hi']
    rfl
  have hholds : g.Holds r[i] := by
    have hthis := List.Forall₂.get hr hi hi'
    rwa [List.get_eq_getElem, List.get_eq_getElem, hg] at hthis
  rw [hscalar, hmaps.type_eq]
  unfold Field.Holds at hholds
  cases htype : g.type with
  | some t => exact .inl ⟨t, rfl, by simpa [htype] using hholds⟩
  | none => exact .inr ⟨rfl, by simpa [htype] using hholds⟩

variable (hf : m.keyField? = some f) {v : Value} (hv : m.key r = .ok v)

include hf hv

/-- A generated key is compared with row ids as it is. -/
theorem numeric_key (htakes : f.TakesKeys) (hauto : f.key = some .autoIncrement) :
    v.bound.numeric = v.bound := by
  by_cases hnull : v = .null
  · rw [hnull]
    rfl
  · rw [Mapping.key_eq hf] at hv
    obtain ⟨t, htype, hscalar⟩ | ⟨-, habsent⟩ := scalar_cases hm hr (List.mem_of_find?_eq_some hf)
    · obtain ⟨n, rfl⟩ := hscalar.integer (htakes hauto t htype) hv hnull
      rfl
    · rw [habsent] at hv
      exact absurd (Except.ok.inj hv).symm hnull

end

/-! ### Their model -/

/-- All names of a mapping are plain. -/
structure Mapping.IsNamed {τ ρ : Type} (m : Mapping τ ρ) : Prop where
  table : Text.isName m.table = true
  columns : ∀ f ∈ m.storedFields, Text.isName f.column = true

/-- The model of a mapping with a key field. -/
theorem Mapping.IsOf.isKeyedBy {d : FamilyMember} {m : MemberMapping} (hm : m.IsOf d)
    (hnamed : m.IsNamed) {f : MappedField (Option ScalarType) Nat} (hf : m.keyField? = some f)
    {origin : KeyOrigin} (horigin : f.key = some origin) :
    (m.model kindOfField id).IsKeyedBy (f.storedColumn kindOfField) origin := by
  have hstored := hm.keyField_stored hf
  refine ⟨?_, horigin, ?_, ?_, hm.nodup_columnNames kindOfField id, hnamed.table, ?_⟩
  · rw [hm.primaryKey_eq kindOfField id, hf]
    rfl
  · rw [storedColumns_model]
    exact List.mem_map_of_mem hstored
  · rw [storedColumns_model]
    refine List.forall_mem_map.mpr fun g hg hkey => ?_
    have hfield := hm.keyField_eq (List.mem_filter.mp hg).1 hkey
    rw [Option.some.inj (hfield.symm.trans hf)]
  · rw [columnNames_model]
    exact List.forall_mem_map.mpr hnamed.columns

end Derive

end SqlCompose
