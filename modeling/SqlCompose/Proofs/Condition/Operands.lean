import SqlCompose.Predicate
import SqlCompose.Proofs.Rendering

/-! The operands of a test. How many there have to be is looked up in one table, and how they are
written out in another; the two agree on every list of operators, sensible or not. So no operand is
read that is missing, and none that is given is left out. -/

namespace SqlCompose

/-! ### Frames -/

namespace Fragment

/-- Fragments in the gaps of a frame, whose texts stand before, between and behind them. -/
def inFrame : (frame : List String) → List Fragment → Fragment
  | [text], [] => .verbatim text
  | text :: frame, a :: rest => .verbatim text ++ a ++ inFrame frame rest
  | _, _ => .empty

theorem params_inFrame {frame : List String} {fs : List Fragment}
    (h : frame.length = fs.length + 1) : (inFrame frame fs).params = fs.flatMap params := by
  induction fs generalizing frame with
  | nil =>
    obtain ⟨text, rfl⟩ := List.length_eq_one_iff.mp h
    rfl
  | cons a fs ih =>
    obtain ⟨text, frame, rfl⟩ := List.exists_cons_of_length_eq_add_one h
    rw [inFrame, params_append, params_append, ih (Nat.succ.inj h)]
    rfl

end Fragment

namespace Test

open Operator

/-- The texts around the operands of a test. -/
def frame : List Operator → List String
  | [] => ["(", ")"]
  | [.not] => ["NOT (", ")"]
  | [.isNull] => ["", " IS NULL"]
  | [.not, .isNull] => ["", " IS NOT NULL"]
  | [.between] => ["", " BETWEEN ", " AND ", ""]
  | [.not, .between] => ["", " NOT BETWEEN ", " AND ", ""]
  | [.isIn] => ["", " IN (", ")"]
  | [.not, .isIn] => ["", " NOT IN (", ")"]
  | ops => ["", " " ++ infixText ops ++ " ", ""]

/-- Operators that are written between two operands, with nothing else around them. -/
def IsInfix (ops : List Operator) : Prop :=
  ops ∉ [[], [.not], [.isNull], [.not, .isNull], [.between], [.not, .between], [.isIn],
    [.not, .isIn]]

/-- The lists of operators with a form of their own, and the number of operands of each. -/
theorem arity_cases (ops : List Operator) :
    (ops = [] ∨ ops = [.not] ∨ ops = [.isNull] ∨ ops = [.not, .isNull]) ∧ arity ops = 1 ∨
    (ops = [.between] ∨ ops = [.not, .between]) ∧ arity ops = 3 ∨
    (ops = [.isIn] ∨ ops = [.not, .isIn]) ∧ arity ops = 2 ∨
    IsInfix ops ∧ arity ops = 2 := by
  unfold arity IsInfix
  split <;> simp_all

theorem frame_of_isInfix {ops : List Operator} (h : IsInfix ops) :
    frame ops = ["", " " ++ infixText ops ++ " ", ""] := by
  unfold frame
  split <;> simp_all [IsInfix]

/-- A test takes one operand for each gap of its frame. -/
theorem length_frame (ops : List Operator) : (frame ops).length = arity ops + 1 := by
  rcases arity_cases ops with
    ⟨rfl | rfl | rfl | rfl, -⟩ | ⟨rfl | rfl, -⟩ | ⟨rfl | rfl, -⟩ | ⟨hops, htwo⟩
  case inr.inr.inr => rw [frame_of_isInfix hops, htwo]; rfl
  all_goals rfl

theorem infixed_eq (a : Fragment) (text : String) (b : Fragment) :
    infixed a text b = Fragment.inFrame ["", " " ++ text ++ " ", ""] [a, b] := by
  apply Fragment.ext <;> simp [infixed, Fragment.inFrame, String.append_assoc]

theorem infixed_and (a : Fragment) (text : String) (b c : Fragment) :
    infixed a text b ++ .verbatim " AND " ++ c =
      Fragment.inFrame ["", " " ++ text ++ " ", " AND ", ""] [a, b, c] := by
  apply Fragment.ext <;> simp [infixed, Fragment.inFrame, String.append_assoc]

theorem infixed_parenthesized (a : Fragment) (text : String) (b : Fragment) :
    infixed a text b.parenthesized =
      Fragment.inFrame ["", " " ++ text ++ " (", ")"] [a, b] := by
  have hopen (rest : String) : " " ++ ("(" ++ rest) = " (" ++ rest :=
    String.append_assoc.symm
  apply Fragment.ext <;>
    simp [infixed, Fragment.inFrame, Fragment.parenthesized, String.append_assoc, hopen]

theorem render_of_isInfix {ops : List Operator} (h : IsInfix ops) (a b : Fragment) :
    render ops [a, b] = infixed a (infixText ops) b := by
  rw [render_two _ _ _ (.inl rfl)]
  simp_all [IsInfix]

/-- With the right number of operands, all of them are written, in order and once. -/
theorem render_eq_inFrame (ops : List Operator) {fs : List Fragment} (h : fs.length = arity ops) :
    render ops fs = Fragment.inFrame (frame ops) fs := by
  rcases arity_cases ops with ⟨hops, hone⟩ | ⟨hops, hthree⟩ | ⟨hops, htwo⟩ | ⟨hops, htwo⟩
  · obtain ⟨a, rfl⟩ := List.length_eq_one_iff.mp (h.trans hone)
    rcases hops with rfl | rfl | rfl | rfl
    · rfl
    · rfl
    · exact (Fragment.empty_append _).symm
    · exact (Fragment.empty_append _).symm
  · obtain ⟨a, b, c, rfl⟩ := List.length_eq_three.mp (h.trans hthree)
    rcases hops with rfl | rfl <;> exact infixed_and a _ b c
  · obtain ⟨a, b, rfl⟩ := List.length_eq_two.mp (h.trans htwo)
    rcases hops with rfl | rfl <;> exact infixed_parenthesized a _ b
  · obtain ⟨a, b, rfl⟩ := List.length_eq_two.mp (h.trans htwo)
    rw [render_of_isInfix hops, infixed_eq, frame_of_isInfix hops]

/-! ### Operands by their places -/

/-- The operators that are written out: a negated ordering is the opposite one. -/
def writtenOperators : List Operator → List Operator
  | [.not, op] => (op.opposite?.map fun opposite => [opposite]).getD [.not, op]
  | ops => ops

/-- The text of a test, for which each operand is read at its place. There is none if a place that
is read is empty. -/
def renderAt? (ops : List Operator) (operands : List Fragment) : Option Fragment := do
  let a ← operands[0]?
  match ops with
  | [] => return a.parenthesized
  | [.between] | [.not, .between] =>
    let low ← operands[1]?
    let high ← operands[2]?
    return infixed a (texts ops) low ++ .verbatim " AND " ++ high
  | [.isIn] | [.not, .isIn] =>
    let list ← operands[1]?
    return infixed a (texts ops) list.parenthesized
  | [.not, .isNull] => return a.appendText " IS NOT NULL"
  | [.not, .equal] =>
    let b ← operands[1]?
    return infixed a "<>" b
  | [.not] => return .verbatim "NOT " ++ a.parenthesized
  | _ =>
    match operands[1]? with
    | some b => return infixed a (texts (writtenOperators ops)) b
    | none => return a.appendText (" " ++ texts (writtenOperators ops))

/-- A negated ordering is the opposite one, and a negated equality has an operator of its own. -/
theorem texts_writtenOperators {ops : List Operator} (h : ops ≠ [.not, .equal]) :
    texts (writtenOperators ops) = infixText ops := by
  unfold writtenOperators
  split
  · next op =>
    cases op <;> first | rfl | exact absurd rfl h
  · next hops => rw [infixText_of_ne fun op heq => hops op heq]

theorem renderAt?_of_isInfix {ops : List Operator} (h : IsInfix ops) (a b : Fragment) :
    renderAt? ops [a, b] = some (infixed a (infixText ops) b) := by
  unfold renderAt?
  simp only [List.getElem?_cons_zero, Option.bind_eq_bind, Option.bind_some]
  split
  case h_9 hequal _ => simp [texts_writtenOperators hequal]
  all_goals simp_all [IsInfix, infixText]

/-- With the right number of operands, no place that is read is empty. -/
theorem renderAt?_eq (ops : List Operator) {operands : List Fragment}
    (h : operands.length = arity ops) : renderAt? ops operands = some (render ops operands) := by
  rcases arity_cases ops with ⟨hops, hone⟩ | ⟨hops, hthree⟩ | ⟨hops, htwo⟩ | ⟨hops, htwo⟩
  · obtain ⟨a, rfl⟩ := List.length_eq_one_iff.mp (h.trans hone)
    rcases hops with rfl | rfl | rfl | rfl <;> rfl
  · obtain ⟨a, b, c, rfl⟩ := List.length_eq_three.mp (h.trans hthree)
    rcases hops with rfl | rfl <;> rfl
  · obtain ⟨a, b, rfl⟩ := List.length_eq_two.mp (h.trans htwo)
    rcases hops with rfl | rfl <;> rfl
  · obtain ⟨a, b, rfl⟩ := List.length_eq_two.mp (h.trans htwo)
    rw [renderAt?_of_isInfix hops, render_of_isInfix hops]

/-! ### Comparisons with the null marker -/

/-- Whether a test asks if its first operand is null: it compares for equality, negated or not, and
its second operand of two is the null marker. -/
def AsksForNull (t : Test) : Prop :=
  t.operands.length = 2 ∧ t.operands[1]? = some .null ∧
    (t.operators = [.equal] ∨ t.operators = [.not, .equal])

instance (t : Test) : Decidable t.AsksForNull :=
  inferInstanceAs (Decidable (_ ∧ _ ∧ _))

theorem withNullTest_eq (t : Test) :
    t.withNullTest =
      if t.AsksForNull then ⟨t.operators.dropLast ++ [.isNull], t.operands.dropLast⟩ else t := by
  obtain ⟨ops, operands⟩ := t
  split
  · next h =>
    obtain ⟨hlength, hnull, hops⟩ := h
    obtain ⟨x, y, rfl⟩ := List.length_eq_two.mp hlength
    cases hnull
    rcases hops with rfl | rfl <;> rfl
  · next h =>
    unfold withNullTest
    split <;> simp_all [AsksForNull]

/-! ### Whole tests -/

variable [b : Binding]

/-- How a test compiles if its operands are read at their places. It does not come to an end where
one is read that is missing. -/
def compileAt? (s : Source) (t : Test) : Option (Except Error Fragment) :=
  let t := t.withNullTest
  if t.operands.length ≠ arity t.operators then
    some (.error (.operandCount (texts t.operators) (arity t.operators) t.operands.length))
  else
    match t.operands.mapM (Operand.resolve s) with
    | .ok operands => (renderAt? t.operators operands).map .ok
    | .error e => some (.error e)

theorem compileAt?_eq (s : Source) (t : Test) : t.compileAt? s = some (t.compile s) := by
  by_cases hlength : t.withNullTest.operands.length = arity t.withNullTest.operators
  · rw [compileAt?, if_neg (not_not_intro hlength), compile_eq_map rfl hlength]
    cases hoperands : t.withNullTest.operands.mapM (Operand.resolve s) with
    | error e => rfl
    | ok operands =>
      dsimp only
      rw [renderAt?_eq _ ((length_mapM_ok hoperands).trans hlength)]
      rfl
  · rw [compileAt?, if_pos hlength, compile_operandCount rfl hlength]

end Test

namespace Predicate

open Operator

section

variable [b : Binding]

/-- Adds a test for which the operands are read at their places. -/
def testAt? (p : Predicate) (ops : List Operator) (operands : List Operand) :
    Option (Except Error Predicate) :=
  ((Test.mk (p.pending.operators ++ ops) operands).compileAt? p.source).map fun result =>
    result.map fun text => { p.push p.pending.connective text with pending := {} }

theorem testAt?_eq (p : Predicate) (ops : List Operator) (operands : List Operand) :
    p.testAt? ops operands = some (p.test ops operands) := by
  rw [testAt?, Test.compileAt?_eq, test]
  cases (Test.mk (p.pending.operators ++ ops) operands).compile p.source <;> rfl

/-- Every test, on a condition in any state. A comparison for equality with the null marker itself
is rewritten, and nothing else. Then the operands are counted, and resolved in order up to the first
that cannot be, and their texts and parameters are put into the frame of the operators, in order and
each of them once. No operand is read that is missing. -/
theorem test_by_operands (p : Predicate) (ops : List Operator) (operands : List Operand) :
    let t : Test := ⟨p.pending.operators ++ ops, operands⟩
    let t' := t.withNullTest
    let result := p.test ops operands
    (t' = if t.AsksForNull then ⟨t.operators.dropLast ++ [.isNull], operands.dropLast⟩ else t) ∧
    p.testAt? ops operands = some result ∧
    (Test.frame t'.operators).length = arity t'.operators + 1 ∧
    ((∃ text expected actual, result = .error (.operandCount text expected actual)) ↔
      t'.operands.length ≠ arity t'.operators) ∧
    (t'.operands.length ≠ arity t'.operators →
      result = .error (.operandCount (texts t'.operators) (arity t'.operators)
        t'.operands.length)) ∧
    (t'.operands.length = arity t'.operators →
      (∀ e, result = .error e ↔ ∃ before o after, t'.operands = before ++ o :: after ∧
        (∀ x ∈ before, ∃ f, x.resolve p.source = .ok f) ∧ o.resolve p.source = .error e) ∧
      ∀ fs, List.Forall₂ (fun o f => o.resolve p.source = .ok f) t'.operands fs →
        let added := Fragment.inFrame (Test.frame t'.operators) fs
        result = .ok { p.push p.pending.connective added with pending := {} } ∧
          added.isEmpty = false ∧ added.params = fs.flatMap Fragment.params) := by
  intro t t' result
  have hresult : result = (t.compile p.source).map fun text =>
      { p.push p.pending.connective text with pending := {} } := by
    show p.test ops operands = _
    rw [test]
    cases t.compile p.source <;> rfl
  have hcount (hlength : t'.operands.length ≠ arity t'.operators) :
      result = .error (.operandCount (texts t'.operators) (arity t'.operators)
        t'.operands.length) := by
    rw [hresult, Test.compile_operandCount rfl hlength]
    rfl
  refine ⟨t.withNullTest_eq, p.testAt?_eq ops operands, Test.length_frame _, ⟨?_, ?_⟩, hcount, ?_⟩
  · rintro ⟨text, expected, actual, herror⟩
    rw [hresult] at herror
    cases hcompile : t.compile p.source with
    | error e =>
      rw [hcompile] at herror
      cases herror
      exact (Test.operandCount_of_compile rfl hcompile).1
    | ok text =>
      rw [hcompile] at herror
      cases herror
  · exact fun hlength => ⟨_, _, _, hcount hlength⟩
  · intro hlength
    refine ⟨fun e => ?_, fun fs hfs => ?_⟩
    · rw [← mapM_error_iff, hresult, Test.compile_eq_map rfl hlength]
      cases t'.operands.mapM (Operand.resolve p.source) <;> simp [Except.map]
    · have hfs := mapM_ok_iff.mpr hfs
      have hgaps : fs.length = arity t'.operators := (length_mapM_ok hfs).trans hlength
      have hcompile := Test.compile_eq rfl hlength hfs
      rw [Test.render_eq_inFrame _ hgaps] at hcompile
      refine ⟨by rw [hresult, hcompile]; rfl, Test.isEmpty_compile hcompile,
        Fragment.params_inFrame ?_⟩
      rw [Test.length_frame, hgaps]

end

/-- A text that reads NULL is not the null marker. -/
example :
    let p : Predicate :=
      { source := ⟨⟨[]⟩, { typeName := "Employee", table := "employee" }, "emp"⟩
        pending := { operators := [.not] } }
    let dept : Operand := .column (.raw "dept")
    (p.test [.equal] [dept, .null]).map compile = .ok ⟨"emp.dept IS NOT NULL", []⟩ ∧
    (p.test [.equal] [dept, .column (.fragment ⟨"NULL", []⟩)]).map compile =
      .ok ⟨"emp.dept <> NULL", []⟩ := by
  decide +kernel

end Predicate

end SqlCompose
