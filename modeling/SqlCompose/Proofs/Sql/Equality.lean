import Mathlib.Algebra.Group.Nat.Defs
import Mathlib.Order.Compare
import SqlCompose.Sql.Comparison

/-! Which values are the same key. Numbers are the same if they are equal as numbers, integers and
reals alike, and texts and blobs if they consist of the same characters or bytes. Among values of
one kind only the two zeros are the same key without being the same value. -/

namespace SqlCompose

/-! ### Reals as integers -/

namespace Binary64

theorem scaledInt_inj {m n : Int} : scaledInt m = scaledInt n ↔ m = n := by
  have hunit : ((1 <<< 1074 : Nat) : Int) ≠ 0 := by decide
  unfold scaledInt
  exact Int.mul_eq_mul_right_iff hunit

/-- The magnitude in the units of `scaled`. -/
def magnitude (x : Binary64) : Nat :=
  x.significand <<< (x.exponent + 1074).toNat

variable {x y : Binary64}

theorem fractionField_lt (x : Binary64) : x.fractionField < 2 ^ 52 :=
  Nat.mod_lt _ (Nat.two_pow_pos 52)

theorem magnitude_of_subnormal (h : x.exponentField = 0) : x.magnitude = x.fractionField := by
  simp [magnitude, significand, exponent, h]

theorem magnitude_of_normal (h : x.exponentField ≠ 0) :
    x.magnitude = (2 ^ 52 + x.fractionField) * 2 ^ (x.exponentField - 1) := by
  have hexponent : (x.exponent + 1074).toNat = x.exponentField - 1 := by
    rw [exponent, if_neg h]
    omega
  rw [magnitude, hexponent, significand, if_neg h, Nat.shiftLeft_eq]
  rfl

/-- The exponent field bounds the magnitude from both sides. -/
theorem magnitude_lt (x : Binary64) : x.magnitude < 2 ^ 52 * 2 ^ x.exponentField := by
  have hfraction := x.fractionField_lt
  by_cases h : x.exponentField = 0
  · rw [magnitude_of_subnormal h, h]
    omega
  · have hpow : 2 ^ x.exponentField = 2 * 2 ^ (x.exponentField - 1) := by
      rw [← Nat.pow_succ', Nat.succ_eq_add_one, Nat.sub_add_cancel (Nat.pos_of_ne_zero h)]
    rw [magnitude_of_normal h, hpow, ← Nat.mul_assoc]
    exact Nat.mul_lt_mul_of_pos_right (by omega) (Nat.two_pow_pos _)

theorem le_magnitude (h : x.exponentField ≠ 0) :
    2 ^ 52 * 2 ^ (x.exponentField - 1) ≤ x.magnitude := by
  rw [magnitude_of_normal h]
  exact Nat.mul_le_mul_right _ (Nat.le_add_right _ _)

theorem magnitude_lt_magnitude (h : x.exponentField < y.exponentField) :
    x.magnitude < y.magnitude :=
  calc x.magnitude < 2 ^ 52 * 2 ^ x.exponentField := x.magnitude_lt
    _ ≤ 2 ^ 52 * 2 ^ (y.exponentField - 1) :=
      Nat.mul_le_mul_left _ (Nat.pow_le_pow_right (by omega) (by omega))
    _ ≤ y.magnitude := le_magnitude (by omega)

theorem fields_of_magnitude_eq (h : x.magnitude = y.magnitude) :
    x.exponentField = y.exponentField ∧ x.fractionField = y.fractionField := by
  have hexponent : x.exponentField = y.exponentField := by
    rcases Nat.lt_trichotomy x.exponentField y.exponentField with hlt | heq | hlt
    · exact absurd h (Nat.ne_of_lt (magnitude_lt_magnitude hlt))
    · exact heq
    · exact absurd h (Nat.ne_of_gt (magnitude_lt_magnitude hlt))
  refine ⟨hexponent, ?_⟩
  by_cases hx : x.exponentField = 0
  · rwa [magnitude_of_subnormal hx, magnitude_of_subnormal (hexponent ▸ hx)] at h
  · have hy : y.exponentField ≠ 0 := hexponent ▸ hx
    rw [magnitude_of_normal hx, magnitude_of_normal hy, hexponent] at h
    have hsum := Nat.eq_of_mul_eq_mul_right (Nat.two_pow_pos _) h
    omega

theorem isZero_of_magnitude_eq_zero (h : x.magnitude = 0) : x.isZero = true := by
  have hexponent : x.exponentField = 0 := by
    refine Decidable.byContradiction fun hne => ?_
    have hpos : 0 < 2 ^ 52 * 2 ^ (x.exponentField - 1) :=
      Nat.mul_pos (Nat.two_pow_pos 52) (Nat.two_pow_pos _)
    have hle := le_magnitude hne
    omega
  rw [magnitude_of_subnormal hexponent] at h
  simp [isZero, hexponent, h]

/-- A word is known by its sign and its two fields. -/
theorem eq_of_fields (hsign : x.isNegative = y.isNegative)
    (hexponent : x.exponentField = y.exponentField)
    (hfraction : x.fractionField = y.fractionField) : x = y := by
  obtain ⟨x⟩ := x
  obtain ⟨y⟩ := y
  have hx := x.toNat_lt
  have hy := y.toNat_lt
  simp only [isNegative, exponentField, fractionField, Nat.shiftRight_eq_div_pow,
    Nat.shiftLeft_eq, decide_eq_decide] at hsign hexponent hfraction
  have hword : x.toNat = y.toNat := by omega
  rw [UInt64.toNat_inj.mp hword]

/-- Words of the same value are the same, unless they are two zeros. -/
theorem eq_or_isZero_of_scaled_eq (h : x.scaled = y.scaled) :
    x = y ∨ (x.isZero = true ∧ y.isZero = true) := by
  have hx : x.scaled = if x.isNegative then -(x.magnitude : Int) else x.magnitude := rfl
  have hy : y.scaled = if y.isNegative then -(y.magnitude : Int) else y.magnitude := rfl
  rw [hx, hy] at h
  by_cases hsign : x.isNegative = y.isNegative
  · have hmagnitude : x.magnitude = y.magnitude := by
      rw [hsign] at h
      split at h <;> omega
    obtain ⟨hexponent, hfraction⟩ := fields_of_magnitude_eq hmagnitude
    exact .inl (eq_of_fields hsign hexponent hfraction)
  · have hzero : x.magnitude = 0 ∧ y.magnitude = 0 := by
      cases hneg : x.isNegative <;> cases hneg' : y.isNegative
      case false.true | true.false =>
        simp only [hneg, hneg', if_true, Bool.false_eq_true, if_false] at h
        omega
      all_goals exact absurd (hneg.trans hneg'.symm) hsign
    exact .inr ⟨isZero_of_magnitude_eq_zero hzero.1, isZero_of_magnitude_eq_zero hzero.2⟩

theorem same_of_scaled_eq (hx : x.isNaN = false) (hy : y.isNaN = false)
    (h : x.scaled = y.scaled) : x.same y = true := by
  rw [same, hx, hy]
  rcases eq_or_isZero_of_scaled_eq h with rfl | ⟨hx, hy⟩
  · simp
  · simp [hx, hy]

end Binary64

/-! ### Keys -/

namespace Value

/-- What makes a value the same key as another. NULL and not-a-number are no keys. -/
def rank? : Value → Option (Int ⊕ String ⊕ List UInt8)
  | null => none
  | integer n => some (.inl (Binary64.scaledInt n.toInt))
  | real x => if x.isNaN then none else some (.inl x.scaled)
  | text s => some (.inr (.inl s))
  | blob bytes => some (.inr (.inr bytes))

/-- Equal as numbers, as texts or as blobs. -/
theorem sameKey_iff {v w : Value} :
    v.sameKey w = true ↔ ∃ r, v.rank? = some r ∧ w.rank? = some r := by
  have hint {m n : Int} : compare m n = .eq ↔ m = n := Int.compare_eq_eq
  have htext {s t : String} : compareOfLessAndEq s t = .eq ↔ s = t :=
    compareOfLessAndEq_eq_eq String.le_refl String.not_le
  have hblob {a b : List UInt8} : compareOfLessAndEq a b = .eq ↔ a = b :=
    compareOfLessAndEq_eq_eq List.le_refl List.not_le
  cases v <;> cases w <;>
    simp [sameKey, order?, order?.orderReals, rank?, hint, htext, hblob, Binary64.scaledInt_inj]
  case integer.integer | text.text | blob.blob => exact eq_comm
  case integer.real | real.integer => exact fun _ => eq_comm
  case real.real => exact ⟨fun ⟨hv, hw, h⟩ => ⟨⟨hv, h⟩, hw⟩, fun ⟨⟨hv, h⟩, hw⟩ => ⟨hv, hw, h⟩⟩

variable {v w k : Value}

theorem sameKey_comm : v.sameKey w = w.sameKey v := by
  rw [Bool.eq_iff_iff, sameKey_iff, sameKey_iff]
  simp only [and_comm]

theorem sameKey_of_sameKey (hv : v.sameKey k = true) (hw : w.sameKey k = true) :
    v.sameKey w = true := by
  obtain ⟨r, hv, hk⟩ := sameKey_iff.mp hv
  obtain ⟨r', hw, hk'⟩ := sameKey_iff.mp hw
  obtain rfl : r = r' := Option.some.inj (hk.symm.trans hk')
  exact sameKey_iff.mpr ⟨r, hv, hw⟩

theorem sameKey_integer {m n : Int64} : (integer m).sameKey (integer n) = true ↔ m = n := by
  rw [sameKey_iff]
  simp only [rank?, Option.some.injEq]
  constructor
  · rintro ⟨r, hm, hn⟩
    exact Int64.toInt_inj.mp (Binary64.scaledInt_inj.mp (Sum.inl.inj (hm.trans hn.symm)))
  · rintro rfl
    exact ⟨_, rfl, rfl⟩

theorem sameKey_null (v : Value) : v.sameKey null = false := by
  cases v <;> rfl

/-- Binding does not change which keys a value is the same as. -/
theorem sameKey_bound (v w : Value) : v.sameKey w.bound = v.sameKey w := by
  have hrank : w.bound.rank? = w.rank? := by
    cases w with
    | real x =>
      rw [bound]
      split
      · next hnan => simp [rank?, hnan]
      · rfl
    | _ => rfl
  rw [Bool.eq_iff_iff, sameKey_iff, sameKey_iff, hrank]

def isReal : Value → Bool
  | real _ => true
  | _ => false

/-- Keys that are the same are equal, unless one is an integer and the other a real. -/
theorem same_of_sameKey (h : v.sameKey w = true) (hreal : v.isReal = w.isReal) :
    v.same w = true := by
  obtain ⟨r, hv, hw⟩ := sameKey_iff.mp h
  cases v <;> cases w <;> simp [rank?, isReal, same] at hv hw hreal ⊢
  case integer.integer m n => exact sameKey_integer.mp h
  case real.real x y =>
    exact Binary64.same_of_scaled_eq hv.1 hw.1 (Sum.inl.inj (hv.2.trans hw.2.symm))
  case text.text s t =>
    exact Sum.inl.inj (Sum.inr.inj (hv.trans hw.symm))
  case blob.blob a b =>
    exact Sum.inr.inj (Sum.inr.inj (hv.trans hw.symm))
  all_goals exact absurd (hv.trans hw.symm) (by simp)

/-- Only reals can be not-a-number. -/
def isNaN : Value → Bool
  | real x => x.isNaN
  | _ => false

theorem bound_of_not_isNaN (h : v.isNaN = false) : v.bound = v := by
  cases v with
  | real x => exact if_neg (Bool.not_eq_true _ ▸ h)
  | _ => rfl

theorem same_self (h : v.isNaN = false) : v.same v = true := by
  cases v with
  | real x => exact Binary64.same_of_scaled_eq h h rfl
  | _ => simp [same]

end Value

end SqlCompose
