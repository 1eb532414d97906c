import Mathlib.Tactic.IntervalCases
import SqlCompose.Proofs.Condition.History

/-! Tests behind several NOTs. Two calls that negate the next test cancel, so at most one NOT is ever
pending, and it counts like one in front of the operators of the test. From two NOTs on nothing is
cancelled: such a test takes two operands, whatever its operator is, and all NOTs are written. -/

namespace SqlCompose

/-! ### Operators -/

namespace Operator

/-- An operator behind some NOTs. -/
def negations (n : Nat) (op : Operator) : List Operator :=
  List.replicate n .not ++ [op]

theorem negations_succ (n : Nat) (op : Operator) :
    negations (n + 1) op = .not :: negations n op :=
  congrArg (· ++ [op]) List.replicate_succ

theorem texts_singleton (op : Operator) : texts [op] = op.text :=
  String.intercalate_singleton

/-- All NOTs are in the text. -/
theorem length_texts_negations (n : Nat) (op : Operator) :
    (texts (negations n op)).length = 4 * n + op.text.length := by
  induction n with
  | zero =>
    rw [show negations 0 op = [op] from rfl, texts_singleton, Nat.mul_zero, Nat.zero_add]
  | succ n ih =>
    obtain ⟨next, ops, hcons⟩ : ∃ next ops, negations n op = next :: ops :=
      List.exists_cons_of_ne_nil (by simp [negations])
    have htexts : texts (.not :: next :: ops) = "NOT" ++ " " ++ texts (next :: ops) :=
      String.intercalate_cons_cons
    rw [negations_succ, hcons, htexts, ← hcons, String.length_append, ih]
    show 3 + 1 + _ = _
    omega

/-- Behind two NOTs every operator takes two operands. -/
theorem arity_negations (n : Nat) (op : Operator) : arity (negations (n + 2) op) = 2 := by
  rw [negations_succ, negations_succ]
  cases negations n op <;> rfl

end Operator

namespace Test

open Operator

/-! ### Tests behind two NOTs or more -/

theorem withNullTest_negations (n : Nat) (op : Operator) (operands : List Operand) :
    (Test.mk (negations (n + 2) op) operands).withNullTest = ⟨negations (n + 2) op, operands⟩ := by
  rw [negations_succ, negations_succ]
  unfold withNullTest
  split <;> simp_all

theorem render_negations (n : Nat) (op : Operator) (x y : Fragment) :
    render (negations (n + 2) op) [x, y] = infixed x (texts (negations (n + 2) op)) y := by
  have hne : ∀ op', negations (n + 2) op ≠ [.not, op'] := by
    intro op' h
    have hlength := congrArg List.length h
    simp [negations] at hlength
  rw [render_two _ _ _ (.inl rfl), infixText_of_ne hne]
  simp [negations_succ]

section

variable [b : Binding] (s : Source) (n : Nat) (op : Operator)

theorem compile_negations_of_length_ne {operands : List Operand} (hlength : operands.length ≠ 2) :
    (Test.mk (negations (n + 2) op) operands).compile s =
      .error (.operandCount (texts (negations (n + 2) op)) 2 operands.length) := by
  rw [compile_operandCount (withNullTest_negations n op operands)] <;> rw [arity_negations]
  exact hlength

theorem compile_negations (x y : Operand) :
    (Test.mk (negations (n + 2) op) [x, y]).compile s = do
      let f ← x.resolve s
      let g ← y.resolve s
      return infixed f (texts (negations (n + 2) op)) g := by
  rw [compile_eq_map (withNullTest_negations n op [x, y]) (arity_negations n op).symm,
    map_mapM_pair]
  simp only [render_negations]

end

/-! ### Tests behind one NOT or none -/

theorem withNullTest_negations_of_le {n : Nat} (hn : n ≤ 1) (op : Operator)
    (operands : List Operand) :
    (∃ x, op = .equal ∧ operands = [x, .null] ∧
      (Test.mk (negations n op) operands).withNullTest = ⟨negations n .isNull, [x]⟩) ∨
    (Test.mk (negations n op) operands).withNullTest = ⟨negations n op, operands⟩ := by
  by_cases hnull : op = .equal ∧ ∃ x, operands = [x, .null]
  · obtain ⟨rfl, x, rfl⟩ := hnull
    refine .inl ⟨x, rfl, rfl, ?_⟩
    interval_cases n <;> rfl
  · refine .inr ?_
    unfold withNullTest
    interval_cases n <;> split <;> simp_all [negations]

/-- The number of operands that an operator takes behind one NOT or none. -/
theorem arity_negations_of_le {n : Nat} (hn : n ≤ 1) {op : Operator} (hop : op ≠ .not) :
    arity (negations n op) = if op = .isNull then 1 else if op = .between then 3 else 2 := by
  interval_cases n <;> cases op <;> first | rfl | exact absurd rfl hop

theorem length_infixed (x : Fragment) (text : String) (y : Fragment) :
    (infixed x text y).sql.length = x.sql.length + text.length + y.sql.length + 2 := by
  simp only [infixed, Fragment.sql_append, Fragment.sql_verbatim, String.length_append]
  have hblank : " ".length = 1 := rfl
  omega

theorem length_parenthesized (x : Fragment) : x.parenthesized.sql.length = x.sql.length + 2 := by
  simp only [Fragment.parenthesized, Fragment.sql_append, Fragment.sql_verbatim,
    String.length_append]
  have hopen : "(".length = 1 := rfl
  have hclose : ")".length = 1 := rfl
  omega

/-- The text between two operands is no longer than their operators, written out. -/
theorem length_infixText_le (ops : List Operator) : (infixText ops).length ≤ (texts ops).length := by
  unfold infixText
  split
  · decide
  · next op _ => cases op <;> decide
  · exact Nat.le_refl _

theorem length_render_negations_le (n : Nat) {op : Operator} (hop : op ≠ .not)
    (hnull : op ≠ .isNull) (x y : Fragment) :
    (render (negations n op) [x, y]).sql.length ≤
      x.sql.length + y.sql.length + (4 * n + op.text.length) + 4 := by
  have hlast : (negations n op).getLast? = some op := by simp [negations]
  have hnone : negations n op ≠ [] := fun h => by simp [h] at hlast
  have hnot : negations n op ≠ [.not] := fun h => by simp [h, hop.symm] at hlast
  have hisNull : negations n op ≠ [.not, .isNull] := fun h => by simp [h, hnull.symm] at hlast
  have hinfix := length_infixText_le (negations n op)
  rw [length_texts_negations] at hinfix
  rw [render_two _ _ _ (.inl rfl), if_neg hnone, if_neg hnot, if_neg hisNull]
  split
  · rw [length_infixed, length_parenthesized, length_texts_negations]
    omega
  · rw [length_infixed]
    omega

theorem length_render_isNull {n : Nat} (hn : n ≤ 1) (x : Fragment) :
    (render (negations n .isNull) [x]).sql.length = x.sql.length + (4 * n + 8) := by
  interval_cases n <;> exact String.length_append ..

section

variable [b : Binding] {s : Source}

/-- A comparison with the null marker resolves it as well, but only the other operand is written. -/
theorem compile_negations_of_le {n : Nat} (hn : n ≤ 1) {op : Operator} (hop : op ≠ .not)
    (hnull : op ≠ .isNull) (hbetween : op ≠ .between) (x y : Operand) :
    ∃ text : Fragment → Fragment → Fragment,
      ((Test.mk (negations n op) [x, y]).compile s = do
        let f ← x.resolve s
        let g ← y.resolve s
        return text f g) ∧
      ∀ f g, y.resolve s = .ok g →
        (text f g).sql.length ≤ f.sql.length + g.sql.length + (4 * n + op.text.length) + 4 := by
  rcases withNullTest_negations_of_le hn op [x, y] with ⟨x', rfl, hxy, ht⟩ | ht
  · obtain ⟨rfl, rfl⟩ : x = x' ∧ y = .null := by simpa using hxy
    refine ⟨fun f _ => render (negations n .isNull) [f], ?_, fun f g hg => ?_⟩
    · have harity := arity_negations_of_le hn (show Operator.isNull ≠ .not by decide)
      rw [compile_eq_map ht (by rw [harity]; rfl)]
      rw [List.mapM_cons, List.mapM_nil]
      cases x.resolve s <;> rfl
    · obtain rfl : Fragment.verbatim "NULL" = g := Except.ok.inj hg
      have hlength : "NULL".length = 4 := rfl
      rw [length_render_isNull hn, Fragment.sql_verbatim, hlength]
      show _ ≤ _ + 4 + (4 * n + 1) + 4
      omega
  · refine ⟨fun f g => render (negations n op) [f, g], ?_, fun f g _ => ?_⟩
    · have harity := arity_negations_of_le hn hop
      rw [if_neg hnull, if_neg hbetween] at harity
      rw [compile_eq_map ht harity.symm, map_mapM_pair]
    · exact length_render_negations_le n hop hnull f g

/-- Behind one NOT or none, a test for NULL and one for a range do not take two operands. -/
theorem compile_pair_of_miscounted {n : Nat} (hn : n ≤ 1) {op : Operator}
    (hop : op = .isNull ∨ op = .between) (x y : Operand) :
    ∃ expected, (Test.mk (negations n op) [x, y]).compile s =
      .error (.operandCount (texts (negations n op)) expected 2) := by
  have ht : (Test.mk (negations n op) [x, y]).withNullTest = ⟨negations n op, [x, y]⟩ := by
    rcases withNullTest_negations_of_le hn op [x, y] with ⟨x', rfl, -, -⟩ | ht
    · simp at hop
    · exact ht
  have harity : ([x, y] : List Operand).length ≠ arity (negations n op) := by
    rw [arity_negations_of_le hn (by rcases hop with rfl | rfl <;> decide)]
    rcases hop with rfl | rfl <;> simp
  exact ⟨_, compile_operandCount ht harity⟩

/-- A test behind two NOTs or more is that behind fewer of them, one or none, only if an operand has
no text, and both have the right number of operands. -/
theorem compile_negations_eq_iff (n : Nat) {m : Nat} (hm : m ≤ 1) (hmn : m ≤ n) {op : Operator}
    (hop : op ≠ .not) (operands : List Operand) :
    (Test.mk (negations (n + 2) op) operands).compile s =
        (Test.mk (negations m op) operands).compile s ↔
      operands.length = 2 ∧ op ≠ .isNull ∧ op ≠ .between ∧
        ∃ o ∈ operands, ∃ e, o.resolve s = .error e := by
  by_cases hlength : operands.length = 2
  · obtain ⟨x, y, rfl⟩ := List.length_eq_two.mp hlength
    by_cases hother : op = .isNull ∨ op = .between
    · refine iff_of_false (fun heq => ?_) (fun h => hother.elim h.2.1 h.2.2.1)
      obtain ⟨expected, hmiscounted⟩ := compile_pair_of_miscounted (s := s) hm hother x y
      exact (operandCount_of_compile (withNullTest_negations n op [x, y])
        (heq.trans hmiscounted)).1 (arity_negations n op).symm
    · obtain ⟨hnull, hbetween⟩ := not_or.mp hother
      obtain ⟨text, hcompile, htext⟩ := compile_negations_of_le (s := s) hm hop hnull hbetween x y
      have hne : ∀ f g, y.resolve s = .ok g →
          infixed f (texts (negations (n + 2) op)) g ≠ text f g := by
        intro f g hg hsame
        have hless := htext f g hg
        rw [← hsame, length_infixed, length_texts_negations] at hless
        omega
      rw [compile_negations, hcompile, bind_pair_eq_iff hne]
      simp [hnull, hbetween]
  · refine iff_of_false (fun heq => ?_) fun h => hlength h.1
    rw [compile_negations_of_length_ne s n op hlength] at heq
    have hlonger : (texts (negations (n + 2) op)).length = 4 * (n + 2) + op.text.length :=
      length_texts_negations _ _
    rcases withNullTest_negations_of_le hm op operands with ⟨x, -, rfl, -⟩ | ht
    · exact hlength rfl
    · rw [(operandCount_of_compile ht heq.symm).2, length_texts_negations] at hlonger
      omega

end

end Test

namespace Predicate

open Operator

/-- The condition with no modifier before its next test, which is joined in the same way. -/
def unmodified (p : Predicate) : Predicate :=
  { p with pending := { p.pending with operators := [] } }

/-- The text that a test adds can be told from the condition. -/
theorem apply_tested_injective (p : Predicate) :
    (fun text => Mark.apply p (.tested text)).Injective := by
  intro text text' h
  have hbody := congrArg Predicate.body h
  simp only [Mark.apply, push] at hbody
  refine Fragment.ext ?_ ?_
  · simpa using congrArg Fragment.sql hbody
  · simpa using congrArg Fragment.params hbody

/-- Two negations of the next test cancel. -/
theorem negateNext_negateNext {p : Predicate} {negate : Bool}
    (h : p.pending.operators = Operator.negation negate) : p.negateNext.negateNext = p := by
  obtain ⟨source, ⟨ops, c⟩, body⟩ := p
  obtain rfl := h
  cases negate <;> rfl

theorem test_unmodified [b : Binding] (p : Predicate) (ops : List Operator)
    (operands : List Operand) :
    p.unmodified.test ops operands =
      ((Test.mk ops operands).compile p.source).map fun text => Mark.apply p (.tested text) :=
  p.unmodified.test_eq ops operands

/-- A pending NOT counts like one in front of the operators. -/
theorem test_negations [b : Binding] {p : Predicate} {negate : Bool}
    (h : p.pending.operators = Operator.negation negate) (k : Nat) (op : Operator)
    (operands : List Operand) :
    p.test (negations k op) operands =
      p.unmodified.test (negations (k + p.pending.operators.count .not) op) operands := by
  have hops : p.pending.operators ++ negations k op =
      negations (k + p.pending.operators.count .not) op := by
    rw [h]
    cases negate with
    | false => rfl
    | true => exact (negations_succ k op).symm
  rw [test_eq, hops, test_unmodified]

/-- Tests of a condition after any calls, with an operator behind some NOTs. Calls that negate the
next test cancel in pairs, and the one that may be pending counts like a NOT in front of the
operator. Then a test behind `n` NOTs is the same as with none of them, or with one if `n` is odd,
exactly if `n` is at most one or both fail at the same operand. Behind two NOTs or more there have
to be two operands, and all NOTs are written between them. -/
theorem test_negations_eq_iff (s : Source) (hist : History) (k : Nat) {op : Operator}
    (hop : op ≠ .not) (operands : List Operand) :
    let p := hist.run { source := s }
    let n := k + p.pending.operators.count .not
    let result := p.test (negations k op) operands
    p.pending.operators = Operator.negation (Mark.isNegated (hist.log s)) ∧
    p.negateNext.negateNext = p ∧
    result = p.unmodified.test (negations n op) operands ∧
    (result = p.unmodified.test (negations (n % 2) op) operands ↔
      n ≤ 1 ∨ operands.length = 2 ∧ op ≠ .isNull ∧ op ≠ .between ∧
        ∃ o ∈ operands, ∃ e, o.resolve s = .error e) ∧
    (2 ≤ n → operands.length ≠ 2 →
      result = .error (.operandCount (texts (negations n op)) 2 operands.length)) ∧
    (2 ≤ n → ∀ x y, operands = [x, y] → result = do
      let f ← x.resolve s
      let g ← y.resolve s
      return { p.push p.pending.connective (Test.infixed f (texts (negations n op)) g) with
        pending := {} }) := by
  intro p n result
  have hsource : p.source = s := hist.source_run _
  have hpending := hist.operators_run s
  have hresult : result = p.unmodified.test (negations n op) operands :=
    test_negations hpending k op operands
  refine ⟨hpending, negateNext_negateNext hpending, hresult, ?_, ?_, ?_⟩
  · rw [hresult, test_unmodified, test_unmodified, map_inj p.apply_tested_injective, hsource]
    obtain hn | hn := Nat.lt_or_ge n 2
    · exact iff_of_true (by rw [Nat.mod_eq_of_lt hn]) (.inl (Nat.le_of_lt_succ hn))
    · obtain ⟨i, hi⟩ := Nat.exists_eq_add_of_le' hn
      rw [hi, Nat.add_mod_right]
      rw [Test.compile_negations_eq_iff i (Nat.le_of_lt_succ (Nat.mod_lt i (by decide)))
        (Nat.mod_le i 2) hop]
      exact (or_iff_right (by omega)).symm
  · intro hn hlength
    obtain ⟨i, hi⟩ := Nat.exists_eq_add_of_le' hn
    rw [hresult, test_unmodified, hi, Test.compile_negations_of_length_ne _ i op hlength]
    rfl
  · rintro hn x y rfl
    obtain ⟨i, hi⟩ := Nat.exists_eq_add_of_le' hn
    rw [hresult, test_unmodified, hi, Test.compile_negations, hsource]
    cases x.resolve s with
    | error e => rfl
    | ok f => cases y.resolve s <;> rfl

/-- After one call that negates the next test, the operator alone is negated. With a NOT before it
the test is not the one without negation. -/
theorem test_negations_eq_of_pending :
    let source : Source :=
      { schema := ⟨[]⟩, model := { typeName := "Invoice", table := "invoice" }, aliasName := "abc" }
    let p := (History.call [] .not .done).run { source }
    let operands : List Operand := [.column (.raw "numero"), .value (.integer 1)]
    p.pending.operators.count .not = 1 ∧ Operator.greatOrEqual ≠ .not ∧
    p.test [.greatOrEqual] operands = p.unmodified.test [.not, .greatOrEqual] operands ∧
    (p.test [.greatOrEqual] operands).map compile = .ok ⟨"abc.numero < ?", [.integer 1]⟩ ∧
    p.test [.not, .greatOrEqual] operands ≠ p.unmodified.test [.greatOrEqual] operands ∧
    (p.test [.not, .greatOrEqual] operands).map compile =
      .ok ⟨"abc.numero NOT NOT >= ?", [.integer 1]⟩ := by
  intro source p operands
  have hop : Operator.greatOrEqual ≠ .not := by decide
  have hcount : p.pending.operators.count .not = 1 := rfl
  obtain ⟨-, -, -, hzero, -, -⟩ :=
    test_negations_eq_iff source (.call [] .not .done) 0 hop operands
  obtain ⟨-, -, -, hone, -, htwo⟩ :=
    test_negations_eq_iff source (.call [] .not .done) 1 hop operands
  refine ⟨hcount, hop, hzero.mpr (.inl (by decide)), by decide +kernel, fun heq => ?_, ?_⟩
  · have hnone : negations ((1 + p.pending.operators.count .not) % 2) .greatOrEqual =
        [.greatOrEqual] := by rw [hcount]; rfl
    obtain hle | ⟨-, -, -, o, ho, e, he⟩ := hone.mp (heq.trans (by rw [← hnone]))
    · exact absurd hle (by decide)
    · simp only [operands, List.mem_cons, List.not_mem_nil, or_false] at ho
      rcases ho with rfl | rfl <;> cases he
  · have htest : p.test [.not, .greatOrEqual] operands = _ := htwo (by decide) _ _ rfl
    rw [htest]
    decide +kernel

/-- Two NOTs in front of an operator are both written. -/
theorem explicit_nots_are_written :
    let source : Source :=
      { schema := ⟨[]⟩, model := { typeName := "Invoice", table := "invoice" }, aliasName := "abc" }
    let p : Predicate := { source }
    let operands : List Operand := [.column (.raw "numero"), .value (.integer 1)]
    p.pending.operators = [] ∧
    p.test [.not, .not, .equal] operands ≠ p.test [.equal] operands ∧
    (p.test [.not, .not, .equal] operands).map compile =
      .ok ⟨"abc.numero NOT NOT = ?", [.integer 1]⟩ ∧
    (p.test [.equal] operands).map compile = .ok ⟨"abc.numero = ?", [.integer 1]⟩ := by
  decide +kernel

end Predicate

end SqlCompose
