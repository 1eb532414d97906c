import SqlCompose.Proofs.Condition.Meaning

/-! The conditions of a query. The text of WHERE, and in the same way that of HAVING, is the
row of the tests of the query with the conditions of its joins among them, each at the place
where its join was attached. A join's condition is put in parentheses, but what stands
before it is not, and so an OR there takes the join's condition as one of its sides. Read as
SQL, the text has the value that the chain says for the values of its tests. -/

namespace SqlCompose

/-- The reading of a row agrees with that of conditions in SQL. -/
theorem Condition.eval_chain {ρ : Valuation} {first : Condition} {a : Bool}
    (h : first.eval ρ = some a) {rest : List (Connective × Condition)}
    {values : List (Connective × Bool)}
    (hrest : rest.map (fun p => (p.1, p.2.eval ρ)) = values.map fun p => (p.1, some p.2)) :
    (chain first rest).eval ρ = some (Truth.rowAfter a values) := by
  induction rest generalizing first a values with
  | nil =>
    obtain rfl : values = [] := by simpa using hrest.symm
    exact h
  | cons piece rest ih =>
    obtain ⟨c, d⟩ := piece
    cases values with
    | nil => simp at hrest
    | cons value values =>
      obtain ⟨c', b⟩ := value
      simp only [List.map_cons, List.cons.injEq, Prod.mk.injEq] at hrest
      obtain ⟨⟨rfl, hd⟩, hrest⟩ := hrest
      cases c with
      | and =>
        have hand : (first.and d).eval ρ = some (a && b) := by
          rw [eval, h, hd]
          cases a <;> cases b <;> rfl
        exact ih hand hrest
      | or =>
        rw [chain, eval, h, ih hd hrest, Truth.rowAfter]
        cases a <;> cases Truth.rowAfter b values <;> rfl

namespace Chain

variable {α : Type}

theorem pieces_tests (inside : List (Connective × α) → α) (C : Chain α)
    (ts : List (Connective × α)) : (C.tests ts).pieces inside = C.pieces inside ++ ts := by
  induction ts generalizing C with
  | nil => exact (List.append_nil _).symm
  | cons t ts ih =>
    rw [tests, List.foldl_cons, ← tests, ih, pieces, List.append_assoc]
    rfl

theorem own_tests (C : Chain α) (ts : List (Connective × α)) : (C.tests ts).own = C.own ++ ts := by
  induction ts generalizing C with
  | nil => exact (List.append_nil _).symm
  | cons t ts ih =>
    rw [tests, List.foldl_cons, ← tests, ih, own, List.append_assoc]
    rfl

/-! ### Reading a chain -/

/-- A piece of text reads as a condition that has a value, after the same connective. -/
def PieceReads (ρ : Valuation) (piece : Connective × Fragment) (value : Connective × Bool) : Prop :=
  piece.1 = value.1 ∧ ∃ d, piece.2.Means .item d ∧ d.eval ρ = some value.2

/-- Each test of a chain of texts reads as a condition that has the value in its place. -/
inductive Reads (ρ : Valuation) : Chain Fragment → Chain Bool → Prop
  | empty : Reads ρ .empty .empty
  | test {C : Chain Fragment} {V : Chain Bool} {c : Connective} {text : Fragment} {b : Bool}
      (hbefore : Reads ρ C V) (hpiece : PieceReads ρ (c, text) (c, b)) :
      Reads ρ (.test C c text) (.test V c b)
  | joined {C D : Chain Fragment} {V W : Chain Bool} (hbefore : Reads ρ C V)
      (hinner : Reads ρ D W) : Reads ρ (.joined C D) (.joined V W)

variable {ρ : Valuation}

/-- The conditions that pieces in a row say. -/
theorem exists_conditions {texts : List (Connective × Fragment)}
    {values : List (Connective × Bool)} (h : List.Forall₂ (PieceReads ρ) texts values) :
    ∃ conditions : List (Connective × Condition),
      List.Forall₂ Fragment.PieceMeans texts conditions ∧
      conditions.map (fun p => (p.1, p.2.eval ρ)) = values.map fun p => (p.1, some p.2) := by
  induction h with
  | nil => exact ⟨[], .nil, rfl⟩
  | @cons piece value _ _ hpiece _ ih =>
    obtain ⟨hconnective, d, hmeans, heval⟩ := hpiece
    obtain ⟨conditions, hrest, hvalues⟩ := ih
    refine ⟨(value.1, d) :: conditions, .cons ⟨hconnective, hmeans⟩ hrest, ?_⟩
    rw [List.map_cons, List.map_cons, hvalues, heval]

theorem row_means {texts : List (Connective × Fragment)} {values : List (Connective × Bool)}
    (h : List.Forall₂ (PieceReads ρ) texts values) (hne : texts ≠ []) :
    ∃ d, (Fragment.row texts).Means .disjunction d ∧ d.eval ρ = some (Truth.row values) := by
  obtain ⟨conditions, hmeans, hvalues⟩ := exists_conditions h
  cases hmeans with
  | nil => exact absurd rfl hne
  | @cons first said texts conditions hfirst hrest =>
    cases values with
    | nil => cases hvalues
    | cons value values =>
      obtain ⟨hvalue, hvalues⟩ := List.cons.inj hvalues
      exact ⟨_, Fragment.Means.row (.cons hfirst hrest),
        Condition.eval_chain (congrArg Prod.snd hvalue) hvalues⟩

/-- The pieces in the row, where a join's condition is one piece in parentheses. -/
theorem Reads.pieces {C : Chain Fragment} {V : Chain Bool} (h : Reads ρ C V) :
    List.Forall₂ (PieceReads ρ) C.texts (V.pieces Truth.row) := by
  induction h with
  | empty => exact .nil
  | test _ hpiece ih => exact List.rel_append ih (.cons hpiece .nil)
  | @joined C D V W _ _ ih ihInner =>
    have hempty : D.texts.isEmpty = (W.pieces Truth.row).isEmpty := by
      rw [Bool.eq_iff_iff, List.isEmpty_iff_length_eq_zero, List.isEmpty_iff_length_eq_zero,
        ihInner.length_eq]
    by_cases hD : D.texts.isEmpty = true
    · have htexts : (Chain.joined C D).texts = C.texts := if_pos hD
      rw [htexts, Chain.pieces, if_pos (hempty ▸ hD)]
      exact ih
    · have htexts : (Chain.joined C D).texts = C.texts ++ [(.and, D.text.parenthesized)] :=
        if_neg hD
      obtain ⟨d, hmeans, heval⟩ := row_means ihInner (by simpa using hD)
      rw [htexts, Chain.pieces, if_neg (hempty ▸ hD)]
      exact List.rel_append ih (.cons ⟨rfl, d, hmeans.group, heval⟩ .nil)

/-- The text of a chain with any test reads as one condition, and its value is what the chain says
for the values of its tests. -/
theorem Reads.text {C : Chain Fragment} {V : Chain Bool} (h : Reads ρ C V)
    (hC : C.isBlank = false) :
    ∃ ts d, Lexes C.text ts ∧ Condition.ofTokens? ts = some d ∧ d.eval ρ = some V.truth := by
  have hne : C.texts ≠ [] := fun hnil => by
    rw [pieces_eq_nil.mp hnil] at hC
    cases hC
  obtain ⟨c, ⟨ts, d, hlex, hsentence, heval⟩, hc⟩ := row_means h.pieces hne
  exact ⟨ts, d, hlex, Condition.ofTokens_of_sentence hsentence, (heval ρ).trans hc⟩

end Chain

/-! ### Conditions of scopes -/

/-- The two clauses that hold a condition. -/
inductive ConditionClause where
  | filter
  | having
deriving DecidableEq

/-- The condition of a clause. -/
def ConditionClause.of (k : ConditionClause) (c : Clauses) : Predicate :=
  match k with
  | filter => c.filter
  | having => c.having

@[simp] theorem ConditionClause.of_merge (k : ConditionClause) (outer inner : Clauses) :
    k.of (outer.merge inner) = (k.of outer).absorb (k.of inner).compile := by
  cases k <;> rfl

namespace QueryScope

/-- How a condition is put together in the course of some calls. -/
def Calls.chain (k : ConditionClause) : {q r : QueryScope} → q.Calls r → Chain Fragment
  | _, _, .none _ => .empty
  | _, _, .project before _ => before.chain k
  | _, _, .filter before calls =>
    if k = .filter then (before.chain k).tests calls.tests else before.chain k
  | _, _, .having before calls =>
    if k = .having then (before.chain k).tests calls.tests else before.chain k
  | _, _, .groupBy before _ _ => before.chain k
  | _, _, .orderBy before _ _ _ => before.chain k
  | _, _, .withCounter before _ => before.chain k
  | _, _, .attach before _ _ _ _ inner _ => .joined (before.chain k) (inner.chain k)
  | _, _, .abandon before _ _ _ _ _ _ => before.chain k

/-- What the text of a condition and its chain have in common. -/
structure Written (p : Predicate) (C : Chain Fragment) : Prop where
  body_eq : p.body = C.text
  solid : ∀ piece ∈ C.texts, piece.2.isEmpty = false

theorem Written.tests {p q : Predicate} {C : Chain Fragment} (h : Written p C) (calls : p.Calls q) :
    Written q (C.tests calls.tests) := by
  have hts := calls.isEmpty_tests
  have htexts : (C.tests calls.tests).texts = C.texts ++ calls.tests := Chain.pieces_tests _ _ _
  constructor
  · rw [calls.body_eq, h.body_eq, Chain.text, Chain.text, htexts]
    exact (Fragment.row_append h.solid hts).symm
  · rw [htexts, List.forall_mem_append]
    exact ⟨h.solid, hts⟩

theorem Written.absorb {p q : Predicate} {C D : Chain Fragment} (h : Written p C)
    (hq : Written q D) : Written (p.absorb q.compile) (.joined C D) := by
  have hempty : q.compile.isEmpty = D.texts.isEmpty := by
    rw [Predicate.compile, hq.body_eq]
    exact Fragment.isEmpty_row hq.solid
  by_cases hD : D.texts.isEmpty = true
  · have htexts : (Chain.joined C D).texts = C.texts := if_pos hD
    constructor
    · rw [Predicate.absorb, hempty, if_pos hD, h.body_eq, Chain.text, Chain.text, htexts]
    · rw [htexts]
      exact h.solid
  · have htexts : (Chain.joined C D).texts = C.texts ++ [(.and, D.text.parenthesized)] :=
      if_neg hD
    constructor
    · have hbody : (p.absorb q.compile).body = p.body.glue (.and, q.body.parenthesized) := by
        rw [Predicate.absorb, hempty, if_neg hD]
        rfl
      rw [hbody, h.body_eq, hq.body_eq]
      exact (Fragment.row_append_singleton h.solid _).symm.trans (congrArg Fragment.row htexts).symm
    · rw [htexts, List.forall_mem_append, List.forall_mem_singleton]
      exact ⟨h.solid, Fragment.isEmpty_parenthesized _⟩

/-- The text of a condition is that of its chain. -/
theorem Calls.written (k : ConditionClause) {q r : QueryScope} (h : q.Calls r)
    (hq : (k.of q.clauses).body = .empty) : Written (k.of r.clauses) (h.chain k) := by
  induction h with
  | none q => exact ⟨hq, by simp [chain, Chain.texts, Chain.pieces]⟩
  | project _ _ ih => cases k <;> exact ih hq
  | filter _ calls ih =>
    cases k with
    | filter => exact (ih hq).tests calls
    | having => exact ih hq
  | having _ calls ih =>
    cases k with
    | filter => exact ih hq
    | having => exact (ih hq).tests calls
  | groupBy _ _ h ih => obtain ⟨_, -, rfl⟩ := groupBy_ok h; cases k <;> exact ih hq
  | orderBy _ _ _ h ih => obtain ⟨_, -, rfl⟩ := orderBy_ok h; cases k <;> exact ih hq
  | withCounter _ _ ih => exact ih hq
  | attach _ _ _ _ _ inner _ ih ihInner =>
    rw [clauses_attach, ConditionClause.of_merge]
    exact (ih hq).absorb (ihInner (by cases k <;> rfl))
  | abandon _ _ _ _ _ _ _ ih => exact ih hq

/-- The tests are those of a condition that is built by calls of its own, in the course of
which the same is pending as in `p`. -/
def TakenAlone (p : Predicate) (ts : List (Connective × Fragment)) : Prop :=
  ∃ (alone : Predicate) (calls : ({ source := p.source } : Predicate).Calls alone),
    alone.pending = p.pending ∧ calls.tests = ts

theorem TakenAlone.tests {p q : Predicate} {C : Chain Fragment} (h : TakenAlone p C.own)
    (calls : p.Calls q) : TakenAlone q (C.tests calls.tests).own := by
  obtain ⟨alone, before, hp, ht⟩ := h
  obtain ⟨r, after, -, hr, hafter⟩ := calls.replay before.source_eq hp
  rw [TakenAlone, calls.source_eq]
  exact ⟨r, before.trans after, hr, by rw [before.tests_trans, ht, hafter, Chain.own_tests]⟩

/-- The own tests of a chain are those that the condition has without its joins. -/
theorem Calls.takenAlone (k : ConditionClause) {q r : QueryScope} (h : q.Calls r)
    (hq : k.of q.clauses = { source := q.source }) :
    TakenAlone (k.of r.clauses) (h.chain k).own := by
  induction h with
  | none q =>
    rw [hq]
    exact ⟨_, .none _, rfl, rfl⟩
  | project _ _ ih => cases k <;> exact ih hq
  | filter _ calls ih =>
    cases k with
    | filter => exact (ih hq).tests calls
    | having => exact ih hq
  | having _ calls ih =>
    cases k with
    | filter => exact ih hq
    | having => exact (ih hq).tests calls
  | groupBy _ _ h ih => obtain ⟨_, -, rfl⟩ := groupBy_ok h; cases k <;> exact ih hq
  | orderBy _ _ _ h ih => obtain ⟨_, -, rfl⟩ := orderBy_ok h; cases k <;> exact ih hq
  | withCounter _ _ ih => exact ih hq
  | attach _ _ _ _ _ inner _ ih _ =>
    rw [clauses_attach, ConditionClause.of_merge, Predicate.absorb]
    split
    · exact ih hq
    · exact ih hq
  | abandon _ _ _ _ _ _ _ ih => exact ih hq

/-- The conditions of a query or of a join that has been opened, by whatever calls. The text
is that of the chain: the condition's own tests, which are those it has when taken alone,
and among them the conditions of the joins. Where each test reads as a condition with a value, the
text reads as one condition whose value is that of the chain. It holds exactly when all of these
conditions hold, whatever the tests say, if and only if no OR stands beside the condition of a
join. -/
theorem condition_holds_iff (k : ConditionClause) (tree : AliasTree) (number : Nat)
    (source : Source) {r : QueryScope} (h : (start tree number source).Calls r) :
    (k.of r.clauses).compile = (h.chain k).text ∧
    TakenAlone (k.of r.clauses) (h.chain k).own ∧
    (∀ ρ V, (h.chain k).Reads ρ V → (h.chain k).isBlank = false →
      ∃ ts d, Lexes (h.chain k).text ts ∧ Condition.ofTokens? ts = some d ∧
        d.eval ρ = some V.truth) ∧
    ((∀ V : Chain Bool, V.shape = (h.chain k).shape → V.truth = V.allHold) ↔
      (h.chain k).isExact = true) :=
  ⟨(h.written k (by cases k <;> rfl)).body_eq, h.takenAlone k (by cases k <;> rfl),
    fun _ _ hreads hchain => hreads.text hchain, Chain.forall_truth_iff _⟩

/-- With two tests joined by OR and a join whose condition does not hold, the text holds if
the first of the tests does. -/
theorem condition_holds_without_join :
    let source : Source :=
      { schema := ⟨[]⟩, model := { typeName := "Employee", table := "employee" }, aliasName := "e" }
    ∃ (r : QueryScope) (h : (start (.withRoot "e" .shared) 0 source).Calls r),
      r.clauses.filter.compile =
        ⟨"e.a = ? OR e.b = ? AND (e1.c = ?)", [.integer 1, .integer 2, .integer 3]⟩ ∧
      ∃ V : Chain Bool, V.shape = (h.chain .filter).shape ∧ V.truth = true ∧ V.allHold = false := by
  intro source
  refine ⟨_, .attach
    (.filter (.none _)
      (.test (.join (.test (.none _) [.equal] [.column (.raw "a"), .value (.integer 1)] rfl) .or)
        [.equal] [.column (.raw "b"), .value (.integer 2)] rfl))
    .inner source.model "e" ⟨[]⟩
    (.filter (.none _) (.test (.none _) [.equal] [.column (.raw "c"), .value (.integer 3)] rfl))
    (.none _), ?_, ?_⟩
  · decide +kernel
  · exact ⟨.joined (.test (.test .empty .and true) .or false) (.test .empty .and false),
      rfl, rfl, rfl⟩

end QueryScope

end SqlCompose
