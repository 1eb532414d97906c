import Mathlib.Data.List.Forall2
import SqlCompose.Insertion
import SqlCompose.Proofs.Except

/-! How rows and records are split over statements. The pieces make up the whole list, none of
them is empty or too long, and lists that go together are split at the same places. -/

namespace SqlCompose

variable {α β : Type} {R : α → β → Prop}

theorem flatten_chunksWithin {size pieces : Nat} (hsize : 0 < size) {l : List α}
    (h : l.length ≤ pieces) : (chunksWithin size pieces l).flatten = l := by
  induction pieces generalizing l with
  | zero =>
    rw [List.eq_nil_of_length_eq_zero (Nat.le_zero.mp h)]
    rfl
  | succ pieces ih =>
    cases l with
    | nil => rfl
    | cons a rest =>
      have hrest : ((a :: rest).drop size).length ≤ pieces := by
        rw [List.length_drop, List.length_cons]
        rw [List.length_cons] at h
        omega
      rw [chunksWithin, List.flatten_cons, ih hrest, List.take_append_drop]

theorem flatten_chunks {size : Nat} (hsize : 0 < size) (l : List α) :
    (chunks size l).flatten = l :=
  flatten_chunksWithin hsize (Nat.le_refl _)

theorem mem_chunksWithin {size pieces : Nat} (hsize : 0 < size) {l piece : List α}
    (h : piece ∈ chunksWithin size pieces l) : piece ≠ [] ∧ piece.length ≤ size := by
  induction pieces generalizing l with
  | zero => cases h
  | succ pieces ih =>
    cases l with
    | nil => cases h
    | cons a rest =>
      rw [chunksWithin, List.mem_cons] at h
      rcases h with rfl | h
      · refine ⟨?_, List.length_take_le _ _⟩
        rw [ne_eq, List.take_eq_nil_iff, not_or]
        exact ⟨Nat.ne_of_gt hsize, List.cons_ne_nil _ _⟩
      · exact ih h

theorem mem_chunks {size : Nat} (hsize : 0 < size) {l piece : List α}
    (h : piece ∈ chunks size l) : piece ≠ [] ∧ piece.length ≤ size :=
  mem_chunksWithin hsize h

theorem exists_chunks_cons {size : Nat} (hsize : 0 < size) (a : α) (l : List α) :
    ∃ piece pieces, chunks size (a :: l) = (a :: piece) :: pieces := by
  obtain ⟨size, rfl⟩ := Nat.exists_eq_succ_of_ne_zero (Nat.ne_of_gt hsize)
  exact ⟨l.take size, chunksWithin (size + 1) l.length (l.drop size), rfl⟩

theorem forall₂_chunksWithin (size pieces : Nat) {l : List α} {l' : List β}
    (h : List.Forall₂ R l l') :
    List.Forall₂ (List.Forall₂ R) (chunksWithin size pieces l) (chunksWithin size pieces l') := by
  induction pieces generalizing l l' with
  | zero => exact .nil
  | succ pieces ih =>
    cases h with
    | nil => exact .nil
    | cons ha h =>
      exact .cons (List.forall₂_take size (.cons ha h)) (ih (List.forall₂_drop size (.cons ha h)))

theorem forall₂_chunks (size : Nat) {l : List α} {l' : List β} (h : List.Forall₂ R l l') :
    List.Forall₂ (List.Forall₂ R) (chunks size l) (chunks size l') := by
  rw [chunks, chunks, h.length_eq]
  exact forall₂_chunksWithin size _ h

/-- Rows are split like the records that they come from. -/
theorem length_chunks_of_mapM {ε : Type} {f : α → Except ε β} {l : List α} {l' : List β}
    (h : l.mapM f = .ok l') (size : Nat) :
    List.Forall₂ (fun piece piece' => piece'.length = piece.length) (chunks size l)
      (chunks size l') :=
  (forall₂_chunks size (mapM_ok_iff.mp h)).imp fun _ _ h => h.length_eq.symm

namespace Insertion

variable {i : Insertion}

/-- A statement takes at least one row, and no more than there may be parameters. -/
theorem rowsPerStatement_ok {size : Nat} (h : i.rowsPerStatement = .ok size) :
    i.columns ≠ [] ∧ i.columns.length ≤ i.maxParams ∧ 0 < size ∧ size ≤ i.maxParams := by
  unfold rowsPerStatement at h
  dsimp only at h
  split at h
  · cases h
  · next hcolumns =>
    split at h
    · cases h
    · next hlimit =>
      cases h
      refine ⟨?_, Nat.le_of_not_lt hlimit, by omega, ?_⟩
      · intro hnil
        exact hcolumns (by rw [hnil]; rfl)
      · have hdiv : (i.maxParams - 1) / i.columns.length ≤ i.maxParams - 1 := Nat.div_le_self _ _
        omega

theorem exists_rowsPerStatement (hcolumns : i.columns ≠ [])
    (hlimit : i.columns.length ≤ i.maxParams) : ∃ size, i.rowsPerStatement = .ok size := by
  have hpos : i.columns.length ≠ 0 := fun h => hcolumns (List.eq_nil_of_length_eq_zero h)
  unfold rowsPerStatement
  dsimp only
  rw [if_neg hpos, if_neg (Nat.not_lt.mpr hlimit)]
  exact ⟨_, rfl⟩

/-- The statements of a batch that compiles. -/
theorem compile_ok {rows : List (List Value)} {statements : List Fragment}
    (h : i.compile rows = .ok statements) :
    ∃ size, i.rowsPerStatement = .ok size ∧ statements = (chunks size rows).map i.statement ∧
      ∀ row ∈ rows, row.length = i.columns.length := by
  unfold compile at h
  split at h
  · cases h
  · split at h
    · cases h
    · next hragged =>
      obtain ⟨size, hsize, h⟩ := bind_ok h
      cases h
      refine ⟨size, hsize, rfl, fun row hrow => ?_⟩
      simpa using List.find?_eq_none.mp hragged row hrow

theorem exists_compile {rows : List (List Value)} (hrows : rows ≠ [])
    (hwidth : ∀ row ∈ rows, row.length = i.columns.length) {size : Nat}
    (hsize : i.rowsPerStatement = .ok size) :
    i.compile rows = .ok ((chunks size rows).map i.statement) := by
  have hragged : rows.find? (fun row => row.length ≠ i.columns.length) = none :=
    List.find?_eq_none.mpr fun row hrow => by simpa using hwidth row hrow
  have hempty : ¬ rows.isEmpty = true := by simpa using hrows
  unfold compile
  rw [if_neg hempty, hragged, hsize]
  rfl

end Insertion

end SqlCompose
