import SqlCompose.Scalar

/-! Scalars in options and behind pointers, in any number and order. What a scalar is and what is
stored for it depend only on the innermost one, and the two agree: a stored value is seen to have
the kind of the scalar, where truth values and dates have become numbers and JSON a text. -/

namespace SqlCompose

/-- The kind that the stored value of a scalar is seen to have, by the kind of the scalar. -/
def Kind.whenStored : Kind → Kind
  | boolean | date => number
  | k => k

/-- What a scalar can be in: an option that holds it, or a pointer of any sort to it. -/
inductive Layer where
  | option
  | pointer

namespace Scalar

/-- A scalar in layers, the outermost first. -/
def within (s : Scalar) : List Layer → Scalar
  | [] => s
  | .option :: layers => .present (s.within layers)
  | .pointer :: layers => .behind (s.within layers)

def isLayered : Scalar → Bool
  | present _ | behind _ => true
  | _ => false

/-- The scalar in all layers. It is absent if one of the options holds nothing. -/
def innermost : Scalar → Scalar
  | present s | behind s => s.innermost
  | s => s

theorem isLayered_innermost (s : Scalar) : s.innermost.isLayered = false := by
  induction s with
  | present s ih | behind s ih => exact ih
  | _ => rfl

theorem exists_within (s : Scalar) : ∃ layers, s = s.innermost.within layers := by
  induction s with
  | present s ih =>
    obtain ⟨layers, h⟩ := ih
    exact ⟨.option :: layers, congrArg present h⟩
  | behind s ih =>
    obtain ⟨layers, h⟩ := ih
    exact ⟨.pointer :: layers, congrArg behind h⟩
  | _ => exact ⟨[], rfl⟩

theorem innermost_within {s : Scalar} (h : s.isLayered = false) (layers : List Layer) :
    (s.within layers).innermost = s := by
  induction layers with
  | nil =>
    cases s with
    | present | behind => cases h
    | _ => rfl
  | cons layer layers ih =>
    cases layer with
    | option | pointer => exact ih

theorem kind_innermost (s : Scalar) : s.innermost.kind = s.kind := by
  induction s with
  | present s ih | behind s ih => exact ih
  | _ => rfl

theorem toValue_innermost (s : Scalar) : s.innermost.toValue = s.toValue := by
  induction s with
  | present s ih | behind s ih => exact ih
  | _ => rfl

/-! ### Failures -/

theorem toValue_unsigned_cases (n : UInt64) :
    (n.toNat ≤ Int64.maxValue.toInt ∧
      (unsigned n).toValue = .ok (.integer (Int64.ofNat n.toNat))) ∨
    (Int64.maxValue.toInt < n.toNat ∧ (unsigned n).toValue = .error .integerTooLarge) := by
  rw [toValue]
  split
  · next hle => exact .inl ⟨hle, rfl⟩
  · next hlt => exact .inr ⟨Int.not_le.mp hlt, rfl⟩

theorem toValue_unsigned {n : UInt64} {v : Value} (h : (unsigned n).toValue = .ok v) :
    ∃ k, v = .integer k := by
  rcases toValue_unsigned_cases n with ⟨-, hn⟩ | ⟨-, hn⟩ <;> rw [hn] at h
  · exact ⟨_, (Except.ok.inj h).symm⟩
  · cases h

theorem toValue_eq_error_iff {s : Scalar} {e : Error} :
    s.toValue = .error e ↔ e = .integerTooLarge ∧
      ∃ n : UInt64, s.innermost = .unsigned n ∧ Int64.maxValue.toInt < n.toNat := by
  induction s with
  | present s ih | behind s ih => exact ih
  | unsigned n =>
    rcases toValue_unsigned_cases n with ⟨hle, hn⟩ | ⟨hlt, hn⟩ <;> rw [hn]
    · simp [innermost]
      omega
    · simp [innermost, hlt, eq_comm]
  | _ => simp [toValue, innermost]

theorem toValue_error {s : Scalar} {e : Error} (h : s.toValue = .error e) :
    e = .integerTooLarge :=
  (toValue_eq_error_iff.mp h).1

/-! ### Kinds of stored values -/

theorem kind_eq_null_iff {s : Scalar} {v : Value} (h : s.toValue = .ok v) :
    s.kind = .null ↔ v = .null := by
  induction s with
  | present s ih | behind s ih => exact ih h
  | unsigned n =>
    obtain ⟨k, rfl⟩ := toValue_unsigned h
    exact ⟨nofun, nofun⟩
  | stored w =>
    cases h
    cases v <;> simp [kind, Value.kind]
  | absent =>
    cases h
    exact ⟨fun _ => rfl, fun _ => rfl⟩
  | _ =>
    cases h
    exact ⟨nofun, nofun⟩

/-- JSON is the only scalar that does not look like what it is when it is stored. -/
theorem kind_whenStored_iff {s : Scalar} {v : Value} (h : s.toValue = .ok v) :
    v.kind = s.kind.whenStored ↔ ¬ ∃ j, s.innermost = .json j := by
  induction s with
  | present s ih | behind s ih => exact ih h
  | json j =>
    cases h
    exact ⟨nofun, fun hjson => absurd ⟨j, rfl⟩ hjson⟩
  | unsigned n =>
    obtain ⟨k, rfl⟩ := toValue_unsigned h
    exact ⟨fun _ => nofun, fun _ => rfl⟩
  | stored w =>
    cases h
    exact ⟨fun _ => nofun, fun _ => by cases v <;> rfl⟩
  | _ =>
    cases h
    exact ⟨fun _ => nofun, fun _ => rfl⟩

/-- The kind of a scalar and what is stored for it are those of the innermost scalar, which is the
only one in no layer that it can be made of; both are null if this is absent. A scalar cannot be
stored exactly if it is an integer beyond 63 bits. Otherwise its kind is null exactly if the stored
value is, and the stored value is seen to have its kind, except that truth values and dates are
seen as numbers; only JSON, which is stored as text, is seen as something else. -/
theorem kind_and_value_of_innermost (s : Scalar) :
    (∀ inner, inner = s.innermost ↔
      inner.isLayered = false ∧ ∃ layers, s = inner.within layers) ∧
    s.kind = s.innermost.kind ∧ s.toValue = s.innermost.toValue ∧
    (s.innermost = .absent → s.kind = .null ∧ s.toValue = .ok .null) ∧
    (∀ e, s.toValue = .error e ↔ e = .integerTooLarge ∧
      ∃ n : UInt64, s.innermost = .unsigned n ∧ Int64.maxValue.toInt < n.toNat) ∧
    ∀ v, s.toValue = .ok v →
      (s.kind = .null ↔ v = .null) ∧
      (v.kind = s.kind.whenStored ↔ ¬ ∃ j, s.innermost = .json j) ∧
      ∀ j, s.innermost = .json j → s.kind = .object ∧ v = .text j.compact := by
  refine ⟨fun inner => ⟨?_, ?_⟩, s.kind_innermost.symm, s.toValue_innermost.symm, fun h => ?_,
    fun _ => toValue_eq_error_iff, fun v hv => ⟨kind_eq_null_iff hv, kind_whenStored_iff hv,
      fun j hj => ?_⟩⟩
  · rintro rfl
    exact ⟨s.isLayered_innermost, s.exists_within⟩
  · rintro ⟨hinner, layers, rfl⟩
    exact (innermost_within hinner layers).symm
  · rw [← s.kind_innermost, ← s.toValue_innermost, h]
    exact ⟨rfl, rfl⟩
  · rw [← s.toValue_innermost, hj] at hv
    rw [← s.kind_innermost, hj]
    exact ⟨rfl, (Except.ok.inj hv).symm⟩

/-- The null of JSON is stored as a text, unlike an option that holds nothing, and no layer makes
an integer smaller. -/
theorem kind_and_value_of_innermost_of_null :
    let null : Scalar := .present (.behind (.json .null))
    let nothing : Scalar := .behind (.present .absent)
    let large : Scalar := .present (.behind (.unsigned 9223372036854775808))
    null.toValue = .ok (.text "null") ∧ null.kind = .object ∧ null.kind ≠ .null ∧
    (Value.text "null").kind ≠ null.kind.whenStored ∧
    nothing.kind = .null ∧ nothing.toValue = .ok .null ∧
    large.toValue = .error .integerTooLarge := by
  intro null nothing large
  have hnull : null.toValue = .ok (.text "null") := rfl
  obtain ⟨-, -, -, -, -, hstored⟩ := kind_and_value_of_innermost null
  obtain ⟨hkind, hlooks, hjson⟩ := hstored _ hnull
  obtain ⟨-, -, -, hnothing, -⟩ := kind_and_value_of_innermost nothing
  obtain ⟨-, -, -, -, hlarge, -⟩ := kind_and_value_of_innermost large
  exact ⟨hnull, (hjson .null rfl).1, fun h => (nomatch hkind.mp h),
    fun h => hlooks.mp h ⟨.null, rfl⟩, (hnothing rfl).1, (hnothing rfl).2,
    (hlarge _).mpr ⟨rfl, 9223372036854775808, rfl, by decide⟩⟩

end Scalar

end SqlCompose
