import Mathlib.Tactic.ByContra
import SqlCompose.Predicate

/-! Conditions put together from tests and from the conditions of joins. A chain is written
out flat, with the conditions of joins in parentheses, and read with AND binding tighter
than OR. The reading is compared with the conjunction of the conditions as they are meant:
the chain's own tests taken alone, and those of every join in it. -/

namespace SqlCompose

/-- A condition as it was put together: tests with their connectives, and conditions of
joins that were taken over. -/
inductive Chain (α : Type) where
  | empty
  | test (before : Chain α) (c : Connective) (a : α)
  | joined (before inner : Chain α)
deriving DecidableEq

/-! ### Pieces in a row -/

/-- Pieces of text after a first one, each with its connective. -/
def Fragment.rowAfter (text : Fragment) : List (Connective × Fragment) → Fragment
  | [] => text
  | piece :: rest => rowAfter (text.appendText (" " ++ piece.1.text ++ " ") ++ piece.2) rest

/-- Pieces of text in a row. The connective of the first is not written. -/
def Fragment.row : List (Connective × Fragment) → Fragment
  | [] => .empty
  | first :: rest => rowAfter first.2 rest

/-- One more piece after a text, with its connective if there is a text. -/
def Fragment.glue (text : Fragment) (piece : Connective × Fragment) : Fragment :=
  (if text.isEmpty then text else text.appendText (" " ++ piece.1.text ++ " ")) ++ piece.2

namespace Truth

/-- The value of a row after its first piece: AND binds tighter than OR. -/
def rowAfter (first : Bool) : List (Connective × Bool) → Bool
  | [] => first
  | (.and, b) :: rest => rowAfter (first && b) rest
  | (.or, b) :: rest => first || rowAfter b rest

/-- The value of pieces in a row. No piece is no condition. -/
def row : List (Connective × Bool) → Bool
  | [] => true
  | first :: rest => rowAfter first.2 rest

end Truth

namespace Chain

variable {α β : Type}

def map (f : α → β) : Chain α → Chain β
  | empty => empty
  | test before c a => test (before.map f) c (f a)
  | joined before inner => joined (before.map f) (inner.map f)

/-- A chain without its tests. Two chains of one shape differ in the tests alone. -/
def shape (C : Chain α) : Chain Unit :=
  C.map fun _ => ()

/-- Further tests at the end of a chain. -/
def tests (C : Chain α) (ts : List (Connective × α)) : Chain α :=
  ts.foldl (fun C t => C.test t.1 t.2) C

/-- The pieces that stand in a row, where `inside` makes one piece of those of a join. A
join without any test leaves none. -/
def pieces (inside : List (Connective × α) → α) : Chain α → List (Connective × α)
  | empty => []
  | test before c a => before.pieces inside ++ [(c, a)]
  | joined before inner =>
    if (inner.pieces inside).isEmpty then before.pieces inside
    else before.pieces inside ++ [(.and, inside (inner.pieces inside))]

/-- The tests of the chain itself. -/
def own : Chain α → List (Connective × α)
  | empty => []
  | test before c a => before.own ++ [(c, a)]
  | joined before _ => before.own

/-- The pieces of text of a chain. -/
def texts (C : Chain Fragment) : List (Connective × Fragment) :=
  C.pieces fun row => (Fragment.row row).parenthesized

/-- The text that is written out. -/
def text (C : Chain Fragment) : Fragment :=
  .row C.texts

/-- What the text says when its tests have the given values. -/
def truth (V : Chain Bool) : Bool :=
  Truth.row (V.pieces Truth.row)

/-- Whether the conditions of all joins hold, each by the tests of its own scope alone. -/
def joinsHold : Chain Bool → Bool
  | empty => true
  | test before _ _ => before.joinsHold
  | joined before inner => before.joinsHold && (Truth.row inner.own && inner.joinsHold)

/-- Whether the chain's own condition and those of all joins hold. -/
def allHold (V : Chain Bool) : Bool :=
  Truth.row V.own && V.joinsHold

/-! ### When the text says what is meant -/

/-- Whether there is no test at all. -/
def isBlank : Chain α → Bool
  | empty => true
  | test _ _ _ => false
  | joined before inner => before.isBlank && inner.isBlank

/-- Whether no OR stands between the pieces. -/
def isConjunction : Chain α → Bool
  | empty => true
  | test before c _ => before.isConjunction && (before.isBlank || c == .and)
  | joined before _ => before.isConjunction

/-- Whether there is a join with any test. -/
def hasJoined : Chain α → Bool
  | empty => false
  | test before _ _ => before.hasJoined
  | joined before inner => before.hasJoined || !inner.isBlank

/-- Whether every join in the chain is free of joins with tests, or else is a conjunction of
which the same is true. -/
def joinedExact : Chain α → Bool
  | empty => true
  | test before _ _ => before.joinedExact
  | joined before inner =>
    before.joinedExact && (!inner.hasJoined || (inner.isConjunction && inner.joinedExact))

/-- No OR stands beside the condition of a join, at any depth. -/
def isExact (C : Chain α) : Bool :=
  !C.hasJoined || (C.isConjunction && C.joinedExact)

end Chain

/-! ### Values of rows -/

namespace Truth

theorem rowAfter_append_or (first b : Bool) (l : List (Connective × Bool)) :
    rowAfter first (l ++ [(.or, b)]) = (rowAfter first l || b) := by
  induction l generalizing first with
  | nil => rfl
  | cons p l ih => obtain ⟨_ | _, a⟩ := p <;> simp [rowAfter, ih, Bool.or_assoc]

theorem rowAfter_append_and_true (first : Bool) (l : List (Connective × Bool)) :
    rowAfter first (l ++ [(.and, true)]) = rowAfter first l := by
  induction l generalizing first with
  | nil => simp [rowAfter]
  | cons p l ih => obtain ⟨_ | _, a⟩ := p <;> simp [rowAfter, ih]

theorem row_append_or {l : List (Connective × Bool)} (hl : l ≠ []) (b : Bool) :
    row (l ++ [(.or, b)]) = (row l || b) := by
  cases l with
  | nil => exact absurd rfl hl
  | cons first rest => exact rowAfter_append_or first.2 b rest

theorem row_append_and_true (l : List (Connective × Bool)) : row (l ++ [(.and, true)]) = row l := by
  cases l with
  | nil => rfl
  | cons first rest => exact rowAfter_append_and_true first.2 rest

/-- A piece that holds does no harm to a row that holds. -/
theorem row_append_true {l : List (Connective × Bool)} (hl : row l = true) (c : Connective) :
    row (l ++ [(c, true)]) = true := by
  cases l with
  | nil => rfl
  | cons first rest =>
    cases c with
    | and => rwa [row_append_and_true]
    | or => rw [row_append_or (by simp), Bool.or_true]

/-- A piece that does not hold does not help a row that does not hold. -/
theorem row_append_false {l : List (Connective × Bool)} (hl : l = [] ∨ row l = false)
    (c : Connective) : row (l ++ [(c, false)]) = false := by
  have hafter : ∀ (first : Bool) (rest : List (Connective × Bool)),
      rowAfter first rest = false → rowAfter first (rest ++ [(c, false)]) = false := by
    intro first rest h
    induction rest generalizing first with
    | nil => cases c <;> simp_all [rowAfter]
    | cons p rest ih =>
      obtain ⟨_ | _, a⟩ := p
      · exact ih (first && a) h
      · rw [rowAfter, Bool.or_eq_false_iff] at h
        rw [List.cons_append, rowAfter, h.1, ih a h.2, Bool.or_false]
  cases l with
  | nil => rfl
  | cons first rest => exact hafter first.2 rest (hl.resolve_left (by simp))

/-- What precedes an OR decides the row, whatever comes after one more piece. -/
theorem row_append_or_and {l : List (Connective × Bool)} (hl : row l = true) (hne : l ≠ [])
    (a b : Bool) : row (l ++ [(.or, a), (.and, b)]) = true := by
  cases l with
  | nil => exact absurd rfl hne
  | cons first rest =>
    have hafter : ∀ (first : Bool) (rest : List (Connective × Bool)),
        rowAfter first (rest ++ [(.or, a), (.and, b)]) = (rowAfter first rest || (a && b)) := by
      intro first rest
      induction rest generalizing first with
      | nil => rfl
      | cons p rest ih => obtain ⟨_ | _, c⟩ := p <;> simp [rowAfter, ih, Bool.or_assoc]
    rw [List.cons_append, row, hafter]
    exact Bool.or_eq_true_iff.mpr (.inl hl)

theorem row_append_and_and (l : List (Connective × Bool)) (a b : Bool) :
    row (l ++ [(.and, a), (.and, b)]) = row (l ++ [(.and, a && b)]) := by
  have hafter : ∀ (first : Bool) (rest : List (Connective × Bool)),
      rowAfter first (rest ++ [(.and, a), (.and, b)]) =
        rowAfter first (rest ++ [(.and, a && b)]) := by
    intro first rest
    induction rest generalizing first with
    | nil => simp [rowAfter, Bool.and_assoc]
    | cons p rest ih => obtain ⟨_ | _, c⟩ := p <;> simp [rowAfter, ih]
  cases l with
  | nil => rfl
  | cons first rest => exact hafter first.2 rest

theorem rowAfter_eq_all {first : Bool} {l : List (Connective × Bool)}
    (h : ∀ p ∈ l, p.1 = .and) : rowAfter first l = (first && l.all (·.2)) := by
  induction l generalizing first with
  | nil => simp [rowAfter]
  | cons p l ih =>
    obtain ⟨c, a⟩ := p
    obtain rfl : c = .and := h (c, a) (List.mem_cons_self ..)
    rw [rowAfter, ih fun q hq => h q (List.mem_cons_of_mem _ hq), List.all_cons, Bool.and_assoc]

/-- A row without OR holds if all of its pieces hold. -/
theorem row_eq_all {l : List (Connective × Bool)} (h : ∀ p ∈ l.tail, p.1 = .and) :
    row l = l.all (·.2) := by
  cases l with
  | nil => rfl
  | cons first rest => exact rowAfter_eq_all h

end Truth

namespace Chain

variable {α β : Type}

/-! ### Shapes -/

@[simp] theorem isBlank_map (f : α → β) (C : Chain α) : (C.map f).isBlank = C.isBlank := by
  induction C with
  | joined before inner ihb ihi => simp [map, isBlank, ihb, ihi]
  | _ => rfl

@[simp] theorem isConjunction_map (f : α → β) (C : Chain α) :
    (C.map f).isConjunction = C.isConjunction := by
  induction C with
  | empty => rfl
  | test before c a ih => simp [map, isConjunction, ih]
  | joined before inner ihb _ => exact ihb

@[simp] theorem hasJoined_map (f : α → β) (C : Chain α) : (C.map f).hasJoined = C.hasJoined := by
  induction C with
  | empty => rfl
  | test before c a ih => exact ih
  | joined before inner ihb _ => simp [map, hasJoined, ihb]

@[simp] theorem joinedExact_map (f : α → β) (C : Chain α) :
    (C.map f).joinedExact = C.joinedExact := by
  induction C with
  | empty => rfl
  | test before c a ih => exact ih
  | joined before inner ihb ihi => simp [map, joinedExact, ihb, ihi]

/-- Whether a chain is exact depends on its shape alone. -/
theorem isExact_of_shape {C : Chain α} {D : Chain β} (h : C.shape = D.shape) :
    C.isExact = D.isExact := by
  have hs : C.shape.isExact = D.shape.isExact := by rw [h]
  simpa [shape, isExact] using hs

/-! ### Pieces -/

theorem pieces_eq_nil {inside : List (Connective × α) → α} {C : Chain α} :
    C.pieces inside = [] ↔ C.isBlank = true := by
  induction C with
  | empty => simp [pieces, isBlank]
  | test before c a ih => simp [pieces, isBlank]
  | joined before inner ihb ihi =>
    rw [pieces]
    split
    · simp_all [isBlank]
    · simp_all [isBlank]

theorem own_eq_nil {C : Chain α} (h : C.isBlank = true) : C.own = [] := by
  induction C with
  | empty => rfl
  | test before c a ih => simp [isBlank] at h
  | joined before inner ihb _ =>
    rw [isBlank, Bool.and_eq_true] at h
    exact ihb h.1

theorem hasJoined_of_isBlank {C : Chain α} (h : C.isBlank = true) : C.hasJoined = false := by
  induction C with
  | empty => rfl
  | test before c a ih => simp [isBlank] at h
  | joined before inner ihb _ =>
    rw [isBlank, Bool.and_eq_true] at h
    simp [hasJoined, ihb h.1, h.2]

/-- Without joins the pieces are the chain's own tests. -/
theorem pieces_eq_own {inside : List (Connective × α) → α} {C : Chain α}
    (h : C.hasJoined = false) : C.pieces inside = C.own := by
  induction C with
  | empty => rfl
  | test before c a ih => rw [pieces, own, ih h]
  | joined before inner ihb _ =>
    rw [hasJoined, Bool.or_eq_false_iff, Bool.not_eq_false'] at h
    rw [pieces, pieces_eq_nil.mpr h.2]
    exact ihb h.1

theorem tail_append_and {l : List (Connective × α)} (h : ∀ p ∈ l.tail, p.1 = .and)
    {c : Connective} (hc : l = [] ∨ c = .and) (a : α) :
    ∀ p ∈ (l ++ [(c, a)]).tail, p.1 = .and := by
  cases l with
  | nil => simp
  | cons first rest =>
    obtain rfl : c = .and := hc.resolve_left (by simp)
    intro p hp
    rw [List.cons_append, List.tail_cons, List.mem_append, List.mem_singleton] at hp
    rcases hp with hp | rfl
    · exact h p hp
    · rfl

theorem connective_of_isConjunction {before : Chain α} {c : Connective} {a : α}
    (h : (before.test c a).isConjunction = true) :
    before.isConjunction = true ∧ (before.isBlank = true ∨ c = .and) := by
  simpa [isConjunction] using h

theorem pieces_tail {inside : List (Connective × α) → α} {C : Chain α}
    (h : C.isConjunction = true) : ∀ p ∈ (C.pieces inside).tail, p.1 = .and := by
  induction C with
  | empty => simp [pieces]
  | test before c a ih =>
    obtain ⟨hb, hc⟩ := connective_of_isConjunction h
    exact tail_append_and (ih hb) (hc.imp_left pieces_eq_nil.mpr) a
  | joined before inner ihb _ =>
    rw [pieces]
    split
    · exact ihb h
    · exact tail_append_and (ihb h) (.inr rfl) _

theorem own_tail {C : Chain α} (h : C.isConjunction = true) : ∀ p ∈ C.own.tail, p.1 = .and := by
  induction C with
  | empty => simp [own]
  | test before c a ih =>
    obtain ⟨hb, hc⟩ := connective_of_isConjunction h
    exact tail_append_and (ih hb) (hc.imp_left own_eq_nil) a
  | joined before inner ihb _ => exact ihb h

/-! ### Exact chains -/

/-- Whether the texts of all joins say something true. -/
def joinsRead : Chain Bool → Bool
  | empty => true
  | test before _ _ => before.joinsRead
  | joined before inner => before.joinsRead && inner.truth

theorem truth_of_isBlank {V : Chain Bool} (h : V.isBlank = true) : V.truth = true := by
  rw [truth, pieces_eq_nil.mpr h]
  rfl

theorem all_pieces (V : Chain Bool) :
    (V.pieces Truth.row).all (·.2) = (V.own.all (·.2) && V.joinsRead) := by
  induction V with
  | empty => rfl
  | test before c a ih =>
    simp only [pieces, own, joinsRead, List.all_append, ih, List.all_cons, List.all_nil,
      Bool.and_true]
    ac_rfl
  | joined before inner ihb _ =>
    simp only [pieces, own, joinsRead]
    split
    · next h =>
      rw [truth_of_isBlank (pieces_eq_nil.mp (List.isEmpty_iff.mp h)), Bool.and_true, ihb]
    · simp only [List.all_append, ihb, List.all_cons, List.all_nil, Bool.and_true]
      exact Bool.and_assoc ..

theorem truth_of_isConjunction {V : Chain Bool} (h : V.isConjunction = true) :
    V.truth = (Truth.row V.own && V.joinsRead) := by
  rw [truth, Truth.row_eq_all (pieces_tail h), Truth.row_eq_all (own_tail h), all_pieces]

theorem joinsHold_of_not_hasJoined {V : Chain Bool} (h : V.hasJoined = false) :
    V.joinsHold = true := by
  induction V with
  | empty => rfl
  | test before c a ih => exact ih h
  | joined before inner ihb ihi =>
    rw [hasJoined, Bool.or_eq_false_iff, Bool.not_eq_false'] at h
    rw [joinsHold, ihb h.1, ihi (hasJoined_of_isBlank h.2), own_eq_nil h.2]
    rfl

theorem truth_eq_of_joinsRead {V : Chain Bool} (h : V.isExact = true)
    (hread : V.joinedExact = true → V.joinsRead = V.joinsHold) : V.truth = V.allHold := by
  rw [isExact, Bool.or_eq_true, Bool.not_eq_true', Bool.and_eq_true] at h
  rcases h with hj | ⟨hc, he⟩
  · rw [truth, pieces_eq_own hj, allHold, joinsHold_of_not_hasJoined hj, Bool.and_true]
  · rw [truth_of_isConjunction hc, hread he, allHold]

theorem joinsRead_eq_joinsHold {V : Chain Bool} (h : V.joinedExact = true) :
    V.joinsRead = V.joinsHold := by
  induction V with
  | empty => rfl
  | test before c a ih => exact ih h
  | joined before inner ihb ihi =>
    rw [joinedExact, Bool.and_eq_true] at h
    rw [joinsRead, joinsHold, ihb h.1, truth_eq_of_joinsRead h.2 ihi, allHold]

/-- The text of an exact chain says that all conditions hold. -/
theorem truth_eq_allHold {V : Chain Bool} (h : V.isExact = true) : V.truth = V.allHold :=
  truth_eq_of_joinsRead h joinsRead_eq_joinsHold

/-! ### Chains that are not exact -/

/-- The same chain with one value for all tests. -/
def fill (b : Bool) (C : Chain α) : Chain Bool :=
  C.map fun _ => b

@[simp] theorem shape_fill (b : Bool) (C : Chain α) : (C.fill b).shape = C.shape := by
  induction C with
  | empty => rfl
  | test before c a ih => simpa [fill, shape, map] using ih
  | joined before inner ihb ihi => simpa [fill, shape, map] using And.intro ihb ihi

@[simp] theorem isBlank_fill (b : Bool) (C : Chain α) : (C.fill b).isBlank = C.isBlank :=
  isBlank_map _ C

theorem truth_fill_true (C : Chain α) : (C.fill true).truth = true := by
  induction C with
  | empty => rfl
  | test before c a ih => exact Truth.row_append_true ih c
  | joined before inner ihb ihi =>
    simp only [fill, map, truth, pieces]
    split
    · exact ihb
    · have hi : Truth.row ((inner.fill true).pieces Truth.row) = true := ihi
      rw [fill] at hi
      rw [hi]
      exact Truth.row_append_true ihb .and

theorem own_fill_true (C : Chain α) : Truth.row (C.fill true).own = true := by
  induction C with
  | empty => rfl
  | test before c a ih => exact Truth.row_append_true ih c
  | joined before inner ihb _ => exact ihb

theorem joinsHold_fill_true (C : Chain α) : (C.fill true).joinsHold = true := by
  induction C with
  | empty => rfl
  | test before c a ih => exact ih
  | joined before inner ihb ihi =>
    have hown := own_fill_true inner
    simp only [fill] at ihb ihi hown
    simp [fill, map, joinsHold, ihb, ihi, hown]

theorem joinsRead_fill_true (C : Chain α) : (C.fill true).joinsRead = true := by
  induction C with
  | empty => rfl
  | test before c a ih => exact ih
  | joined before inner ihb _ =>
    have hinner := truth_fill_true inner
    simp only [fill] at ihb hinner
    simp [fill, map, joinsRead, ihb, hinner]

theorem own_map (f : α → β) (C : Chain α) :
    (C.map f).own = C.own.map fun p => (p.1, f p.2) := by
  induction C with
  | empty => rfl
  | test before c a ih => simp [map, own, ih]
  | joined before inner ihb _ => exact ihb

theorem own_fill_false {C : Chain α} (h : C.own ≠ []) : Truth.row (C.fill false).own = false := by
  have hor : (C.fill false).own = [] ∨ Truth.row (C.fill false).own = false := by
    clear h
    induction C with
    | empty => exact .inl rfl
    | test before c a ih => exact .inr (Truth.row_append_false ih c)
    | joined before inner ihb _ => exact ihb
  refine hor.resolve_left fun hnil => h ?_
  rwa [fill, own_map, List.map_eq_nil_iff] at hnil

theorem own_ne_nil_or_hasJoined {C : Chain α} (h : C.isBlank = false) :
    C.own ≠ [] ∨ C.hasJoined = true := by
  induction C with
  | empty => simp [isBlank] at h
  | test before c a ih => simp [own]
  | joined before inner ihb _ =>
    rw [isBlank, Bool.and_eq_false_iff] at h
    rcases h with h | h
    · exact (ihb h).imp_right fun hj => by simp [hasJoined, hj]
    · exact .inr (by simp [hasJoined, h])

/-- Where all tests fail, the condition of some join does not hold. -/
theorem joinsHold_fill_false {C : Chain α} (h : C.hasJoined = true) :
    (C.fill false).joinsHold = false := by
  induction C with
  | empty => simp [hasJoined] at h
  | test before c a ih => exact ih h
  | joined before inner ihb ihi =>
    rw [hasJoined, Bool.or_eq_true, Bool.not_eq_true'] at h
    rw [fill, map, joinsHold, Bool.and_eq_false_iff, Bool.and_eq_false_iff]
    rcases h with h | h
    · exact .inl (ihb h)
    · exact .inr ((own_ne_nil_or_hasJoined h).imp own_fill_false ihi)

theorem allHold_fill_false {C : Chain α} (h : C.isBlank = false) :
    (C.fill false).allHold = false := by
  rw [allHold, Bool.and_eq_false_iff]
  exact (own_ne_nil_or_hasJoined h).imp own_fill_false joinsHold_fill_false

theorem isConjunction_of_isBlank {C : Chain α} (h : C.isBlank = true) : C.isConjunction = true := by
  induction C with
  | empty => rfl
  | test before c a ih => simp [isBlank] at h
  | joined before inner ihb _ =>
    rw [isBlank, Bool.and_eq_true] at h
    exact ihb h.1

/-- Where all tests hold and an OR stands between them, a piece that is added with AND
makes no difference. -/
theorem pieces_fill_true_append {C : Chain α} (h : C.isConjunction = false) (b : Bool) :
    Truth.row ((C.fill true).pieces Truth.row ++ [(.and, b)]) = true := by
  induction C generalizing b with
  | empty => simp [isConjunction] at h
  | test before c a ih =>
    rw [fill, map, pieces, List.append_assoc, List.cons_append, List.nil_append]
    cases c with
    | and =>
      rw [Truth.row_append_and_and]
      exact ih (by simpa [isConjunction] using h) _
    | or =>
      refine Truth.row_append_or_and (truth_fill_true before) (fun hnil => ?_) true b
      have hblank : before.isBlank = true := by simpa using pieces_eq_nil.mp hnil
      simp [isConjunction, hblank, isConjunction_of_isBlank hblank] at h
  | joined before inner ihb _ =>
    rw [fill, map, pieces]
    split
    · exact ihb h b
    · rw [List.append_assoc, List.cons_append, List.nil_append, Truth.row_append_and_and]
      exact ihb h _

/-- The text of a chain and of a join whose text has the value `b`. -/
theorem truth_joined {V W : Chain Bool} (h : W.isBlank = false) :
    (V.joined W).truth = Truth.row (V.pieces Truth.row ++ [(.and, W.truth)]) := by
  have hne : (W.pieces Truth.row).isEmpty = false := by
    rw [List.isEmpty_eq_false_iff]
    intro hnil
    simp [pieces_eq_nil.mp hnil] at h
  rw [truth, pieces, hne]
  rfl

/-- Beside an OR, the text can be true although the condition of a join does not hold. -/
theorem exists_of_not_isConjunction {C : Chain α} (hc : C.isConjunction = false)
    (hj : C.hasJoined = true) :
    ∃ V : Chain Bool, V.shape = C.shape ∧ V.truth = true ∧ V.joinsHold = false := by
  induction C with
  | empty => simp [hasJoined] at hj
  | test before c a ih =>
    by_cases hb : before.isConjunction = true
    · -- the last test alone makes the text true
      have hor : before.isBlank = false ∧ c = .or := by
        cases c <;> simp_all [isConjunction]
      obtain ⟨hblank, rfl⟩ := hor
      refine ⟨(before.fill false).test .or true, ?_, ?_, joinsHold_fill_false hj⟩
      · simpa [shape, map] using shape_fill false before
      · rw [truth, pieces, Truth.row_append_or, Bool.or_true]
        intro hnil
        simp [hblank, pieces_eq_nil] at hnil
    · obtain ⟨V, hs, ht, hf⟩ := ih (by simpa using hb) hj
      exact ⟨V.test c true, by simpa [shape, map] using hs, Truth.row_append_true ht c, hf⟩
  | joined before inner ihb _ =>
    by_cases hb : before.hasJoined = true
    · obtain ⟨V, hs, ht, hf⟩ := ihb hc hb
      refine ⟨V.joined (inner.fill true), ?_, ?_, ?_⟩
      · simpa [shape, map] using And.intro hs (shape_fill true inner)
      · by_cases hi : inner.isBlank = true
        · rw [truth, pieces, pieces_eq_nil.mpr (by simpa using hi)]
          exact ht
        · rw [truth_joined (by simpa using hi), truth_fill_true]
          exact Truth.row_append_true ht .and
      · rw [joinsHold, hf, Bool.false_and]
    · -- the tests before the join make the text true, whatever the join says
      have hi : inner.isBlank = false := by simpa [hasJoined, hb] using hj
      refine ⟨(before.fill true).joined (inner.fill false), ?_, ?_, ?_⟩
      · simpa [shape, map] using And.intro (shape_fill true before) (shape_fill false inner)
      · rw [truth_joined (by simpa using hi)]
        exact pieces_fill_true_append (C := before) hc _
      · rw [joinsHold, ← allHold, allHold_fill_false hi, Bool.and_false]

/-- If the text of a chain is not what is meant, it is wrong about its own tests and joins
or about some join alone. -/
theorem exists_of_not_isExact {C : Chain α} (h : C.isExact = false)
    (hread : C.joinedExact = false →
      ∃ V : Chain Bool, V.shape = C.shape ∧ Truth.row V.own = true ∧ V.joinsRead ≠ V.joinsHold) :
    ∃ V : Chain Bool, V.shape = C.shape ∧ V.truth ≠ V.allHold := by
  rw [isExact, Bool.or_eq_false_iff, Bool.not_eq_false', Bool.and_eq_false_iff] at h
  obtain ⟨hj, hexact⟩ := h
  by_cases hc : C.isConjunction = true
  · obtain ⟨V, hs, hown, hne⟩ := hread (hexact.resolve_left (by simp [hc]))
    refine ⟨V, hs, ?_⟩
    have hV : V.isConjunction = true := by
      have := congrArg isConjunction hs
      simpa [shape, hc] using this
    rwa [truth_of_isConjunction hV, allHold, hown, Bool.true_and, Bool.true_and]
  · obtain ⟨V, hs, ht, hf⟩ := exists_of_not_isConjunction (by simpa using hc) hj
    refine ⟨V, hs, ?_⟩
    rw [ht, allHold, hf, Bool.and_false]
    decide

/-- The tests of one join are chosen so that its text differs, and all else so that it
holds. -/
theorem exists_of_not_joinedExact {C : Chain α} (h : C.joinedExact = false) :
    ∃ V : Chain Bool, V.shape = C.shape ∧ Truth.row V.own = true ∧ V.joinsRead ≠ V.joinsHold := by
  induction C with
  | empty => simp [joinedExact] at h
  | test before c a ih =>
    obtain ⟨V, hs, hown, hne⟩ := ih h
    exact ⟨V.test c true, by simpa [shape, map] using hs, Truth.row_append_true hown c, hne⟩
  | joined before inner ihb ihi =>
    rw [joinedExact, Bool.and_eq_false_iff] at h
    rcases h with h | h
    · obtain ⟨V, hs, hown, hne⟩ := ihb h
      refine ⟨V.joined (inner.fill true), ?_, hown, ?_⟩
      · simpa [shape, map] using And.intro hs (shape_fill true inner)
      · rwa [joinsRead, joinsHold, truth_fill_true, own_fill_true, joinsHold_fill_true,
          Bool.and_self, Bool.and_true, Bool.and_true]
    · obtain ⟨W, hs, hne⟩ := exists_of_not_isExact h ihi
      refine ⟨(before.fill true).joined W, ?_, own_fill_true before, ?_⟩
      · simpa [shape, map] using And.intro (shape_fill true before) hs
      · rwa [joinsRead, joinsHold, joinsRead_fill_true, joinsHold_fill_true, Bool.true_and,
          Bool.true_and]

/-- A text says what is meant, whatever its tests say, only if no OR stands beside the
condition of a join. -/
theorem forall_truth_iff (C : Chain α) :
    (∀ V : Chain Bool, V.shape = C.shape → V.truth = V.allHold) ↔ C.isExact = true := by
  constructor
  · intro h
    by_contra hne
    obtain ⟨V, hs, hV⟩ := exists_of_not_isExact (by simpa using hne) exists_of_not_joinedExact
    exact hV (h V hs)
  · intro h V hs
    exact truth_eq_allHold (by rwa [isExact_of_shape hs])

end Chain

end SqlCompose
