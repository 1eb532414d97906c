import SqlCompose.Proofs.Condition.Chain
import SqlCompose.Proofs.Query.Calls
import SqlCompose.Proofs.Rendering

/-! The tests that a history of calls adds to a condition, each with its text and the
connective before it. Text and connective depend on the table and on what is pending, but
not on the tests that are there already. -/

namespace SqlCompose

/-! ### Rows of pieces -/

namespace Fragment

theorem isEmpty_rowAfter {text : Fragment} (h : text.isEmpty = false)
    (l : List (Connective × Fragment)) : (text.rowAfter l).isEmpty = false := by
  induction l generalizing text with
  | nil => exact h
  | cons piece l ih => exact ih (by simp [h])

theorem isEmpty_row {l : List (Connective × Fragment)} (hl : ∀ p ∈ l, p.2.isEmpty = false) :
    (row l).isEmpty = l.isEmpty := by
  cases l with
  | nil => rfl
  | cons first rest => exact isEmpty_rowAfter (hl first (List.mem_cons_self ..)) rest

theorem rowAfter_append_singleton (text : Fragment) (l : List (Connective × Fragment))
    (piece : Connective × Fragment) :
    text.rowAfter (l ++ [piece]) =
      (text.rowAfter l).appendText (" " ++ piece.1.text ++ " ") ++ piece.2 := by
  induction l generalizing text with
  | nil => rfl
  | cons next l ih => exact ih _

theorem row_append_singleton {l : List (Connective × Fragment)}
    (hl : ∀ p ∈ l, p.2.isEmpty = false) (piece : Connective × Fragment) :
    row (l ++ [piece]) = (row l).glue piece := by
  rw [glue, isEmpty_row hl]
  cases l with
  | nil => exact (empty_append piece.2).symm
  | cons first rest => exact rowAfter_append_singleton first.2 rest piece

theorem row_append {l ts : List (Connective × Fragment)} (hl : ∀ p ∈ l, p.2.isEmpty = false)
    (hts : ∀ p ∈ ts, p.2.isEmpty = false) : row (l ++ ts) = ts.foldl glue (row l) := by
  induction ts generalizing l with
  | nil => rw [List.append_nil, List.foldl_nil]
  | cons t ts ih =>
    rw [List.forall_mem_cons] at hts
    rw [List.append_cons, List.foldl_cons, ← row_append_singleton hl]
    refine ih ?_ hts.2
    rw [List.forall_mem_append, List.forall_mem_singleton]
    exact ⟨hl, hts.1⟩

end Fragment

namespace Predicate

/-- The text that a test adds, after what is pending. -/
def added (p : Predicate) (ops : List Operator) (operands : List Operand) : Fragment :=
  match (Test.mk (p.pending.operators ++ ops) operands).compile p.source with
  | .ok text => text
  | .error _ => .empty

theorem test_ok {p q : Predicate} {ops : List Operator} {operands : List Operand}
    (h : p.test ops operands = .ok q) :
    (Test.mk (p.pending.operators ++ ops) operands).compile p.source = .ok (p.added ops operands) ∧
      q = { p.push p.pending.connective (p.added ops operands) with pending := {} } := by
  obtain ⟨text, ht, h⟩ := bind_ok h
  cases h
  simp [added, ht]

theorem isEmpty_added {p q : Predicate} {ops : List Operator} {operands : List Operand}
    (h : p.test ops operands = .ok q) : (p.added ops operands).isEmpty = false :=
  Test.isEmpty_compile (test_ok h).1

/-- A test that one condition takes is taken by every other on the same table with the same
modifiers pending. -/
theorem test_of_test {p q r : Predicate} {ops : List Operator} {operands : List Operand}
    (h : p.test ops operands = .ok r) (hs : q.source = p.source) (hp : q.pending = p.pending) :
    q.test ops operands =
      .ok { q.push q.pending.connective (p.added ops operands) with pending := {} } := by
  simp only [test, hs, hp, (test_ok h).1]
  rfl

theorem nest_ok {p q : Predicate} {nested : Fragment} (h : p.nest nested = .ok q) :
    (nested.isEmpty = true ∧ q = { p with pending := {} }) ∨
    (nested.isEmpty = false ∧ p.test [] [.column (.fragment nested)] = .ok q) := by
  rw [nest] at h
  split at h
  · next hn => cases h; exact .inl ⟨hn, rfl⟩
  · next hn => exact .inr ⟨by simpa using hn, h⟩

namespace Calls

/-- The tests that the calls add. A scope adds one test, or none if it is empty. -/
def tests : {p q : Predicate} → p.Calls q → List (Connective × Fragment)
  | _, _, .none _ => []
  | _, _, .negate before => before.tests
  | _, _, .join before _ => before.tests
  | _, _, .test (q := q) before ops operands _ =>
    before.tests ++ [(q.pending.connective, q.added ops operands)]
  | _, _, .scope (q := q) (n := n) before _ _ =>
    if n.compile.isEmpty then before.tests
    else before.tests ++ [(q.pending.connective, q.added [] [.column (.fragment n.compile)])]

theorem source_eq {p q : Predicate} (h : p.Calls q) : q.source = p.source := by
  induction h with
  | none => rfl
  | negate _ ih | join _ _ ih => exact ih
  | test _ _ _ h ih => obtain rfl := (test_ok h).2; exact ih
  | scope _ _ h ih =>
    rcases nest_ok h with ⟨-, rfl⟩ | ⟨-, h⟩
    · exact ih
    · obtain rfl := (test_ok h).2
      exact ih

theorem isEmpty_tests {p q : Predicate} (h : p.Calls q) :
    ∀ t ∈ h.tests, t.2.isEmpty = false := by
  induction h with
  | none => simp [tests]
  | negate _ ih | join _ _ ih => exact ih
  | test _ _ _ h ih =>
    simp only [tests, List.forall_mem_append, List.forall_mem_singleton]
    exact ⟨ih, isEmpty_added h⟩
  | scope _ _ h ih =>
    rcases nest_ok h with ⟨hn, -⟩ | ⟨hn, h⟩
    · simpa only [tests, hn, if_true] using ih
    · simp only [tests, hn, Bool.false_eq_true, if_false, List.forall_mem_append,
        List.forall_mem_singleton]
      exact ⟨ih, isEmpty_added h⟩

/-- The text of a condition is that of its tests in a row, after what was there before. -/
theorem body_eq {p q : Predicate} (h : p.Calls q) :
    q.body = h.tests.foldl Fragment.glue p.body := by
  induction h with
  | none => rfl
  | negate _ ih | join _ _ ih => exact ih
  | test _ _ _ h ih =>
    obtain rfl := (test_ok h).2
    rw [tests, List.foldl_append, ← ih]
    rfl
  | scope _ _ h ih =>
    rcases nest_ok h with ⟨hn, rfl⟩ | ⟨hn, htest⟩
    · simpa only [tests, hn, if_true] using ih
    · obtain rfl := (test_ok htest).2
      simp only [tests, hn, Bool.false_eq_true, if_false, List.foldl_append, ← ih]
      rfl

theorem tests_trans {p q r : Predicate} (h : p.Calls q) (hr : q.Calls r) :
    (h.trans hr).tests = h.tests ++ hr.tests := by
  induction hr with
  | none => exact (List.append_nil _).symm
  | negate _ ih | join _ _ ih => exact ih h
  | test _ _ _ _ ih => rw [trans, tests, tests, ih h, List.append_assoc]
  | scope _ _ _ ih =>
    rw [trans, tests, tests]
    split
    · exact ih h
    · rw [ih h, List.append_assoc]

/-- The same calls can be made on another condition on the table, and add the same tests. -/
theorem replay {p q : Predicate} (h : p.Calls q) {start : Predicate}
    (hs : start.source = p.source) (hp : start.pending = p.pending) :
    ∃ (r : Predicate) (calls : start.Calls r),
      r.source = q.source ∧ r.pending = q.pending ∧ calls.tests = h.tests := by
  induction h with
  | none => exact ⟨start, .none start, hs, hp, rfl⟩
  | negate _ ih =>
    obtain ⟨r, calls, hs, hp, ht⟩ := ih hs hp
    exact ⟨r.negateNext, .negate calls, hs, by simp only [negateNext, hp], ht⟩
  | join _ c ih =>
    obtain ⟨r, calls, hs, hp, ht⟩ := ih hs hp
    exact ⟨r.joinNext c, .join calls c, hs, by simp only [joinNext, hp], ht⟩
  | test _ ops operands h ih =>
    obtain ⟨r, calls, hs, hp, ht⟩ := ih hs hp
    refine ⟨_, .test calls ops operands (test_of_test h hs hp), ?_, ?_, ?_⟩
    · rw [(test_ok h).2]
      exact hs
    · rw [(test_ok h).2]
    · rw [tests, tests, ht, hp, added, added, hs, hp]
  | @scope _ q n _ _ inner h ih =>
    obtain ⟨r, calls, hs, hp, ht⟩ := ih hs hp
    have hinner : r.nested = q.nested := by rw [nested, nested, hs]
    rcases nest_ok h with ⟨hn, rfl⟩ | ⟨hn, htest⟩
    · have hr : r.nest n.compile = .ok { r with pending := {} } := by rw [nest, if_pos hn]
      refine ⟨_, .scope calls (hinner ▸ inner) hr, hs, rfl, ?_⟩
      simpa only [tests, hn, if_true] using ht
    · have hr := test_of_test htest hs hp
      have hr' : r.nest n.compile = _ := (if_neg (by simp [hn])).trans hr
      refine ⟨_, .scope calls (hinner ▸ inner) hr', ?_, ?_, ?_⟩
      · rw [(test_ok htest).2]
        exact hs
      · rw [(test_ok htest).2]
      · simp only [tests, hn, ht, hp, added, hs, Bool.false_eq_true, if_false]

end Calls

end Predicate

end SqlCompose
