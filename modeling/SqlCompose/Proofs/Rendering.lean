import Mathlib.Tactic.SplitIfs
import SqlCompose.Proofs.Except
import SqlCompose.Proofs.Fragment
import SqlCompose.Test

/-! The text of a test, by the number of its operands. Only a range takes a third operand,
and whatever else is left over is not written. -/

namespace SqlCompose

namespace Test

/-- The text between two operands. A negated ordering is the opposite one. -/
def infixText : List Operator → String
  | [.not, .equal] => "<>"
  | [.not, op] => (op.opposite?.map Operator.text).getD (Operator.texts [.not, op])
  | ops => Operator.texts ops

/-- Two operands with a text between them. -/
def infixed (a : Fragment) (text : String) (b : Fragment) : Fragment :=
  a ++ .verbatim (" " ++ text ++ " ") ++ b

theorem render_nil (ops : List Operator) : render ops [] = .empty := by
  unfold render
  split <;> simp_all

theorem render_one (ops : List Operator) (a : Fragment) :
    render ops [a] =
      if ops = [] then a.parenthesized
      else if ops = [.not] then .verbatim "NOT " ++ a.parenthesized
      else if ops = [.not, .isNull] then a.appendText " IS NOT NULL"
      else a.appendText (" " ++ Operator.texts ops) := by
  unfold render
  split <;> simp_all

theorem infixText_of_ne {ops : List Operator} (h : ∀ op, ops ≠ [.not, op]) :
    infixText ops = Operator.texts ops := by
  unfold infixText
  split <;> simp_all

theorem render_two (ops : List Operator) (a b : Fragment) {rest : List Fragment}
    (h : rest = [] ∨ ops ≠ [.between] ∧ ops ≠ [.not, .between]) :
    render ops (a :: b :: rest) =
      if ops = [] then a.parenthesized
      else if ops = [.not] then .verbatim "NOT " ++ a.parenthesized
      else if ops = [.not, .isNull] then a.appendText " IS NOT NULL"
      else if ops = [.isIn] ∨ ops = [.not, .isIn] then
        infixed a (Operator.texts ops) b.parenthesized
      else infixed a (infixText ops) b := by
  unfold render
  split
  case h_9 op _ _ _ _ _ _ _ _ => cases op <;> simp_all [infixed, infixText, Operator.opposite?]
  case h_10 hne _ => simp_all [infixed, infixText_of_ne hne]
  all_goals simp_all [infixed, infixText]

theorem render_between {ops : List Operator} (h : ops = [.between] ∨ ops = [.not, .between])
    (a low high : Fragment) (rest : List Fragment) :
    render ops (a :: low :: high :: rest) =
      infixed a (Operator.texts ops) low ++ .verbatim " AND " ++ high := by
  rcases h with rfl | rfl <;> rfl

/-- Only a comparison with the null marker is rewritten. -/
theorem withNullTest_of_ne {t : Test} (h : ∀ a, t.operands ≠ [a, .null]) :
    t.withNullTest = t := by
  unfold withNullTest
  split <;> simp_all

/-! ### Compiling -/

section

variable [b : Binding] {s : Source} {t t' : Test} (ht : t.withNullTest = t')

include ht

/-- With the right number of operands, a test has a text if all of them have one. -/
theorem compile_eq_map (hlength : t'.operands.length = Operator.arity t'.operators) :
    t.compile s = (t'.operands.mapM (Operand.resolve s)).map (render t'.operators) := by
  rw [compile, ht, if_neg (not_not_intro hlength)]
  cases t'.operands.mapM (Operand.resolve s) <;> rfl

/-- How a test compiles once its operands are resolved. -/
theorem compile_eq (hlength : t'.operands.length = Operator.arity t'.operators)
    {operands : List Fragment} (hoperands : t'.operands.mapM (Operand.resolve s) = .ok operands) :
    t.compile s = .ok (render t'.operators operands) := by
  rw [compile_eq_map ht hlength, hoperands]
  rfl

/-- Operands are counted before any of them is looked at. -/
theorem compile_operandCount (hlength : t'.operands.length ≠ Operator.arity t'.operators) :
    t.compile s = .error (.operandCount (Operator.texts t'.operators)
      (Operator.arity t'.operators) t'.operands.length) := by
  rw [compile, ht, if_pos hlength]
  rfl

end

section

variable [b : Binding] {s : Source}

/-- An operand without a text is a path that leads nowhere. -/
theorem resolve_error {o : Operand} {e : Error} (h : o.resolve s = .error e) :
    ∃ model path, e = .unknownProperty model path := by
  cases o with
  | column c =>
    cases c with
    | field path =>
      simp only [Operand.resolve, Source.qualify, Source.columnName, Schema.resolve] at h
      split at h <;> cases h
      exact ⟨_, _, rfl⟩
    | raw text =>
      simp only [Operand.resolve, Source.qualify] at h
      split at h <;> cases h
    | fragment f => cases h
  | value | values | null => cases h

/-- Operands are only miscounted where there are too many or too few of them. -/
theorem operandCount_of_compile {t t' : Test} (ht : t.withNullTest = t') {text : String}
    {expected actual : Nat} (h : t.compile s = .error (.operandCount text expected actual)) :
    t'.operands.length ≠ Operator.arity t'.operators ∧ text = Operator.texts t'.operators := by
  by_cases hlength : t'.operands.length = Operator.arity t'.operators
  · rw [compile_eq_map ht hlength] at h
    cases hoperands : t'.operands.mapM (Operand.resolve s) with
    | error e =>
      rw [hoperands] at h
      obtain ⟨o, -, ho⟩ := mapM_error hoperands
      obtain ⟨model, path, rfl⟩ := resolve_error ho
      cases h
    | ok texts =>
      rw [hoperands] at h
      cases h
  · rw [compile_operandCount ht hlength] at h
    cases h
    exact ⟨hlength, rfl⟩

end

/-- A test with two operands, the second of which is not the null marker. -/
theorem compile_pair [b : Binding] {s : Source} {ops : List Operator} {x y : Operand}
    {f g : Fragment} (hops : Operator.arity ops = 2) (hx : x.resolve s = .ok f)
    (hy : y.resolve s = .ok g) (hnull : y ≠ .null) :
    (Test.mk ops [x, y]).compile s = .ok (render ops [f, g]) := by
  have ht : (Test.mk ops [x, y]).withNullTest = ⟨ops, [x, y]⟩ :=
    withNullTest_of_ne (by simpa using hnull)
  exact compile_eq ht hops.symm (mapM_cons_of_ok hx (mapM_cons_of_ok hy rfl))

/-! ### Texts are not empty -/

theorem isEmpty_render (ops : List Operator) {operands : List Fragment}
    (h : operands ≠ []) : (render ops operands).isEmpty = false := by
  unfold render
  split <;> simp_all
  split <;> simp

theorem arity_pos (ops : List Operator) : 0 < Operator.arity ops := by
  unfold Operator.arity
  split <;> decide

/-- No test has an empty text. -/
theorem isEmpty_compile {b : Binding} {t : Test} {s : Source} {text : Fragment}
    (h : t.compile s = .ok text) : text.isEmpty = false := by
  simp only [compile] at h
  split at h
  · cases h
  · next hlength =>
    obtain ⟨operands, hoperands, h⟩ := bind_ok h
    cases h
    refine isEmpty_render _ (List.ne_nil_of_length_pos ?_)
    rw [length_mapM_ok hoperands, Decidable.of_not_not hlength]
    exact arity_pos _

end Test

end SqlCompose
