import SqlCompose.Proofs.Query.Calls
import SqlCompose.Proofs.Script.Replay

/-! The order of calls on a query. A call of one clause reads and changes nothing but that clause,
whatever is pending in it for its next call, and the table of the query, which no call changes. So
calls of two clauses can be made in either order, and two sequences of calls that agree clause by
clause leave the same query. -/

namespace SqlCompose

/-! ### Clauses -/

/-- The parts of a statement that calls add to or set. -/
inductive QueryClause where
  | selection
  | filter
  | groupBy
  | having
  | orderBy
  | limit
  | offset
  | origin
  | unions
deriving DecidableEq

namespace QueryClause

/-- What a query keeps for a clause, with what is pending in it. -/
def Part : QueryClause → Type
  | selection => Projection
  | filter | having => Predicate
  | groupBy | orderBy => List Fragment
  | limit | offset => Option Int64
  | origin => Option Fragment
  | unions => List (SetOperator × Fragment)

def get (q : Query) : (k : QueryClause) → k.Part
  | selection => q.scope.clauses.projection
  | filter => q.scope.clauses.filter
  | groupBy => q.scope.clauses.groupBy
  | having => q.scope.clauses.having
  | orderBy => q.scope.clauses.orderBy
  | limit => q.limit
  | offset => q.offset
  | origin => q.fromQuery
  | unions => q.unions

def set (q : Query) : (k : QueryClause) → k.Part → Query
  | selection, p =>
    { q with scope := { q.scope with clauses := { q.scope.clauses with projection := p } } }
  | filter, p =>
    { q with scope := { q.scope with clauses := { q.scope.clauses with filter := p } } }
  | groupBy, l =>
    { q with scope := { q.scope with clauses := { q.scope.clauses with groupBy := l } } }
  | having, p =>
    { q with scope := { q.scope with clauses := { q.scope.clauses with having := p } } }
  | orderBy, l =>
    { q with scope := { q.scope with clauses := { q.scope.clauses with orderBy := l } } }
  | limit, n => { q with limit := n }
  | offset, n => { q with offset := n }
  | origin, query => { q with fromQuery := query }
  | unions, l => { q with unions := l }

@[simp] theorem source_set (q : Query) (k : QueryClause) (x : k.Part) :
    (k.set q x).scope.source = q.scope.source := by
  cases k <;> rfl

theorem get_set_of_ne {k l : QueryClause} (h : k ≠ l) (q : Query) (x : k.Part) :
    l.get (k.set q x) = l.get q := by
  cases k <;> cases l <;> first | rfl | exact absurd rfl h

theorem set_comm {k l : QueryClause} (h : k ≠ l) (q : Query) (x : k.Part) (y : l.Part) :
    l.set (k.set q x) y = k.set (l.set q y) x := by
  cases k <;> cases l <;> first | rfl | exact absurd rfl h

end QueryClause

/-! ### Calls -/

/-- A call of one clause, with its arguments. What is built in a projection or a condition is given
by the calls that are made there. -/
inductive ClauseCall where
  | project (calls : Projection.Made)
  | filter (calls : Predicate.Made)
  | groupBy (column : ColumnRef)
  | having (calls : Predicate.Made)
  | orderBy (column : ColumnRef) (order : Order)
  | limit (n : Int64)
  | offset (n : Int64)
  | fromQuery (query : Fragment)
  | union (op : SetOperator) (query : Fragment)

namespace ClauseCall

/-- The query after a call. -/
def apply (q : Query) : ClauseCall → Except Error Query
  | project calls => (calls.replay q.scope.clauses.projection).map fun projection =>
    { q with scope := { q.scope with clauses := { q.scope.clauses with projection } } }
  | filter calls => (calls.replay q.scope.clauses.filter).map fun filter =>
    { q with scope := { q.scope with clauses := { q.scope.clauses with filter } } }
  | groupBy column => (q.scope.groupBy column).map fun scope => { q with scope }
  | having calls => (calls.replay q.scope.clauses.having).map fun having =>
    { q with scope := { q.scope with clauses := { q.scope.clauses with having } } }
  | orderBy column order => (q.scope.orderBy column order).map fun scope => { q with scope }
  | limit n => .ok { q with limit := some n }
  | offset n => .ok { q with offset := some n }
  | fromQuery query => .ok { q with fromQuery := some query }
  | union op query => .ok { q with unions := q.unions ++ [(op, query)] }

def clause : ClauseCall → QueryClause
  | project _ => .selection
  | filter _ => .filter
  | groupBy _ => .groupBy
  | having _ => .having
  | orderBy _ _ => .orderBy
  | limit _ => .limit
  | offset _ => .offset
  | fromQuery _ => .origin
  | union _ _ => .unions

/-- What a call makes of its clause, on a query on the given table. -/
def change (s : Source) : (c : ClauseCall) → c.clause.Part → Except Error c.clause.Part
  | project calls, (p : Projection) => calls.replay p
  | filter calls, (p : Predicate) => calls.replay p
  | groupBy column, (l : List Fragment) => (s.qualify column).map fun item => l ++ [item]
  | having calls, (p : Predicate) => calls.replay p
  | orderBy column order, (l : List Fragment) =>
    (s.qualify column).map fun item => l ++ [item.appendText (" " ++ order.text)]
  | limit n, _ => .ok (some n)
  | offset n, _ => .ok (some n)
  | fromQuery query, _ => .ok (some query)
  | union op query, (l : List (SetOperator × Fragment)) => .ok (l ++ [(op, query)])

/-- A call changes its own clause only, in a way that depends on nothing else but the table. -/
theorem apply_eq_change (q : Query) (c : ClauseCall) :
    c.apply q = (c.change q.scope.source (c.clause.get q)).map (c.clause.set q) := by
  cases c with
  | groupBy column =>
    show Except.map _ (q.scope.groupBy column) = Except.map _ (Except.map _ _)
    rw [QueryScope.groupBy]
    cases q.scope.source.qualify column <;> rfl
  | orderBy column order =>
    show Except.map _ (q.scope.orderBy column order) = Except.map _ (Except.map _ _)
    rw [QueryScope.orderBy]
    cases q.scope.source.qualify column <;> rfl
  | _ => rfl

/-- Calls of different clauses can change places. -/
theorem apply_comm {c d : ClauseCall} (h : c.clause ≠ d.clause) {q r t : Query}
    (hc : c.apply q = .ok r) (hd : d.apply r = .ok t) :
    ∃ r', d.apply q = .ok r' ∧ c.apply r' = .ok t := by
  rw [apply_eq_change] at hc hd
  obtain ⟨x, hx, rfl⟩ := map_ok hc
  obtain ⟨y, hy, rfl⟩ := map_ok hd
  rw [QueryClause.source_set, QueryClause.get_set_of_ne h] at hy
  refine ⟨d.clause.set q y, ?_, ?_⟩
  · rw [apply_eq_change, hy]
    rfl
  · rw [apply_eq_change, QueryClause.source_set, QueryClause.get_set_of_ne h.symm, hx,
      QueryClause.set_comm h]
    rfl

/-! ### Sequences of calls -/

/-- The query after some calls, all of which have to succeed. -/
def applyAll (calls : List ClauseCall) (q : Query) : Except Error Query :=
  calls.foldlM apply q

theorem applyAll_cons {c : ClauseCall} {q r : Query} (h : c.apply q = .ok r)
    (calls : List ClauseCall) : applyAll (c :: calls) q = applyAll calls r := by
  rw [applyAll, List.foldlM_cons, h]
  rfl

theorem applyAll_append {calls calls' : List ClauseCall} {q r : Query}
    (h : applyAll calls q = .ok r) : applyAll (calls ++ calls') q = applyAll calls' r := by
  rw [applyAll, List.foldlM_append, show calls.foldlM apply q = .ok r from h]
  rfl

theorem applyAll_singleton (c : ClauseCall) (q : Query) : applyAll [c] q = c.apply q := by
  simp [applyAll]

/-- The calls of a clause, in order. -/
def ofClause (k : QueryClause) (calls : List ClauseCall) : List ClauseCall :=
  calls.filter (·.clause = k)

theorem ofClause_append (k : QueryClause) (calls calls' : List ClauseCall) :
    ofClause k (calls ++ calls') = ofClause k calls ++ ofClause k calls' :=
  List.filter_append ..

theorem ofClause_cons_self (c : ClauseCall) (calls : List ClauseCall) :
    ofClause c.clause (c :: calls) = c :: ofClause c.clause calls := by
  simp [ofClause]

theorem ofClause_cons_of_ne {k : QueryClause} {c : ClauseCall} (h : c.clause ≠ k)
    (calls : List ClauseCall) : ofClause k (c :: calls) = ofClause k calls := by
  simp [ofClause, h]

/-- A call can be made after calls of other clauses as well as before them. -/
theorem applyAll_insert {c : ClauseCall} {before after : List ClauseCall}
    (h : ∀ d ∈ before, d.clause ≠ c.clause) {q r : Query}
    (hr : applyAll (c :: (before ++ after)) q = .ok r) :
    applyAll (before ++ c :: after) q = .ok r := by
  induction before generalizing q with
  | nil => exact hr
  | cons d before ih =>
    rw [List.forall_mem_cons] at h
    obtain ⟨q₁, hc, hr⟩ := bind_ok hr
    obtain ⟨q₂, hd, hr⟩ := bind_ok hr
    obtain ⟨q₃, hd, hc⟩ := apply_comm h.1.symm hc hd
    rw [List.cons_append, applyAll_cons hd]
    exact ih h.2 ((applyAll_cons hc _).trans hr)

/-- Calls that agree clause by clause leave the same query, in whatever order the clauses take
turns. -/
theorem applyAll_of_interleaved {calls calls' : List ClauseCall}
    (h : ∀ k, ofClause k calls = ofClause k calls') {q r : Query}
    (hr : applyAll calls q = .ok r) : applyAll calls' q = .ok r := by
  induction calls generalizing calls' q with
  | nil =>
    cases calls' with
    | nil => exact hr
    | cons c calls' => simpa [ofClause] using h c.clause
  | cons c calls ih =>
    -- the first call is the first of its clause in the other sequence
    have hfirst : ofClause c.clause calls' = c :: ofClause c.clause calls := by
      rw [← h c.clause, ofClause_cons_self]
    obtain ⟨before, after, rfl, hbefore, -, hafter⟩ := List.filter_eq_cons_iff.mp hfirst
    have hbefore : ∀ d ∈ before, d.clause ≠ c.clause := by simpa using hbefore
    obtain ⟨q₁, hc, hr⟩ := bind_ok hr
    refine applyAll_insert hbefore ?_
    rw [applyAll_cons hc]
    refine ih (fun k => ?_) hr
    by_cases hk : c.clause = k
    · subst hk
      have hnone : ofClause c.clause before = [] :=
        List.filter_eq_nil_iff.mpr (by simpa using hbefore)
      calc ofClause c.clause calls
          _ = ofClause c.clause after := hafter.symm
          _ = ofClause c.clause (before ++ after) := by
            rw [ofClause_append, hnone, List.nil_append]
    · have hsame := h k
      rw [ofClause_cons_of_ne hk, ofClause_append, ofClause_cons_of_ne hk] at hsame
      rw [ofClause_append, hsame]

end ClauseCall

/-! ### Calls of scripts -/

/-- The clause call that a call on a scope is, if it is one. -/
def ScopeCall.clauseCalls (fragments : List Fragment) : ScopeCall → List ClauseCall
  | groupBy column => [.groupBy (column.value fragments)]
  | orderBy column order => [.orderBy (column.value fragments) order]
  | aliasName => []

/-- The clause call that a call on a query is, if it is one. -/
def QueryCall.clauseCalls (fragments : List Fragment) : QueryCall → List ClauseCall
  | limit n => [.limit n]
  | offset n => [.offset n]
  | union op query => [.union op (query.value fragments)]
  | fromQuery query => [.fromQuery (query.value fragments)]
  | withCounter _ | compile _ | inspection => []

/-- The clause calls in a step of a query, with what has been built for them. A projection or a
condition may fail halfway: its calls are those that were made. -/
def ScopeStep.clauseCalls (schema : Schema) :
    ScopeStep → (place : String) → QueryScope → Session → List ClauseCall
  | .project steps, place, q, s =>
    [.project (steps.made schema (place ++ ".") 0 q.clauses.projection s)]
  | .filter steps, place, q, s => [.filter (steps.made schema (place ++ ".") 0 q.clauses.filter s)]
  | .having steps, place, q, s => [.having (steps.made schema (place ++ ".") 0 q.clauses.having s)]
  | .expr _ _, _, _, _ | .join _ _ _ _, _, _, _ => []
  | .call before c, place, q, s =>
    let fragments := (before.run schema [] s).1.toOption.getD []
    ((call before c).run schema place q s).keep (c.clauseCalls fragments ++ ·) []

/-- Whether a step is anything but a join. -/
def ScopeStep.isJoinless : ScopeStep → Bool
  | .join _ _ _ _ => false
  | _ => true

/-- Whether a call is anything but a change of the counter, which is for joins only. -/
def QueryCall.isJoinless : QueryCall → Bool
  | withCounter _ => false
  | _ => true

/-- Whether a script of a query has no joins and does not care for their aliases. -/
def QueryScript.isJoinless : QueryScript → Bool
  | .done => true
  | .scoped _ step rest => step.isJoinless && rest.isJoinless
  | .call _ _ c rest => c.isJoinless && rest.isJoinless

/-- The clause calls in a script of a query, in order. -/
def QueryScript.clauseCalls (schema : Schema) :
    QueryScript → (base : String) → (number : Nat) → Query → Session → List ClauseCall
  | .done, _, _, _, _ => []
  | .scoped attempt step rest, base, number, q, s =>
    let f := (step.run schema (base ++ toString number) q.scope s).within fun scope =>
      { q with scope }
    step.clauseCalls schema (base ++ toString number) q.scope s ++
      f.follow (base ++ toString number) Query.report attempt []
        fun q s => rest.clauseCalls schema base (number + 1) q s
  | .call attempt before c rest, base, number, q, s =>
    let prepared := before.run schema [] s
    let f := Finished.ofPrepared q prepared fun fragments s => c.perform fragments q s
    f.keep (c.clauseCalls (prepared.1.toOption.getD []) ++ ·) <|
      f.follow (base ++ toString number) Query.report attempt []
        fun q s => rest.clauseCalls schema base (number + 1) q s

theorem ScopeCall.applyAll_clauseCalls {c : ScopeCall} {fragments : List Fragment} {q : Query}
    {scope : QueryScope} {out : Option Report}
    (h : c.perform fragments q.scope = .ok (scope, out)) :
    ClauseCall.applyAll (c.clauseCalls fragments) q = .ok { q with scope } := by
  cases c with
  | groupBy column =>
    obtain ⟨r, hr, h⟩ := map_ok h
    cases h
    rw [clauseCalls, ClauseCall.applyAll_singleton, ClauseCall.apply, hr]
    rfl
  | orderBy column order =>
    obtain ⟨r, hr, h⟩ := map_ok h
    cases h
    rw [clauseCalls, ClauseCall.applyAll_singleton, ClauseCall.apply, hr]
    rfl
  | aliasName =>
    cases h
    rfl

theorem QueryCall.perform_ok (c : QueryCall) (fragments : List Fragment) (q : Query) (s : Session) :
    ∃ out, (c.perform fragments q s).result = .ok out ∧
      (c.perform fragments q s).builder = c.apply fragments q := by
  cases c <;> exact ⟨_, rfl, rfl⟩

theorem QueryCall.applyAll_clauseCalls {c : QueryCall} (h : c.isJoinless = true)
    (fragments : List Fragment) (q : Query) :
    ClauseCall.applyAll (c.clauseCalls fragments) q = .ok (c.apply fragments q) := by
  cases c <;> first | rfl | cases h

/-- A step without joins leaves the query that its clause calls leave. -/
theorem ScopeStep.applyAll_clauseCalls (schema : Schema) {step : ScopeStep}
    (h : step.isJoinless = true) (place : String) (q : Query) (s : Session) :
    ClauseCall.applyAll (step.clauseCalls schema place q.scope s) q =
      .ok { q with scope := (step.run schema place q.scope s).builder } := by
  cases step with
  | project steps | filter steps | having steps =>
    rw [clauseCalls, run, ClauseCall.applyAll_singleton, ClauseCall.apply, steps.replay_made]
    rfl
  | expr steps saveAs =>
    rw [clauseCalls, run, QueryScope.finishExpr]
    split <;> rfl
  | join kind model aliasName steps => cases h
  | call before c =>
    rw [clauseCalls, run]
    rcases Finished.ofPrepared_cases q.scope (before.run schema [] s) (c.perform · q.scope) with
      ⟨out, hresult, hcall⟩ | ⟨⟨e, hresult⟩, hsame⟩
    · rw [Finished.keep_ok hresult, List.append_nil]
      exact ScopeCall.applyAll_clauseCalls hcall
    · rw [Finished.keep_error hresult, hsame]
      rfl

theorem QueryScript.applyAll_clauseCalls (schema : Schema) :
    (steps : QueryScript) → steps.isJoinless = true → (base : String) → (number : Nat) →
      (q : Query) → (s : Session) →
      ClauseCall.applyAll (steps.clauseCalls schema base number q s) q =
        .ok (steps.run schema base number q s).builder
  | .done, _, _, _, _, _ => rfl
  | .scoped attempt step rest, h, base, number, q, s => by
    rw [isJoinless, Bool.and_eq_true] at h
    rw [QueryScript.clauseCalls, QueryScript.run, ClauseCall.applyAll_append
      (step.applyAll_clauseCalls schema h.1 (base ++ toString number) q s)]
    exact Finished.andThen_follow (R := fun calls r => ClauseCall.applyAll calls
        { q with scope := (step.run schema (base ++ toString number) q.scope s).builder } = .ok r)
      rfl fun s => rest.applyAll_clauseCalls schema h.2 base (number + 1) _ s
  | .call attempt before c rest, h, base, number, q, s => by
    rw [isJoinless, Bool.and_eq_true] at h
    rw [QueryScript.clauseCalls, QueryScript.run]
    generalize before.run schema [] s = prepared
    obtain ⟨e | fragments, s⟩ := prepared
    · exact Finished.andThen_follow (f := ⟨.error e, q, s⟩)
        (R := fun calls r => ClauseCall.applyAll calls q = .ok r) rfl
        fun s => rest.applyAll_clauseCalls schema h.2 base (number + 1) q s
    · obtain ⟨out, hresult, hbuilder⟩ := c.perform_ok fragments q s
      show ClauseCall.applyAll ((c.perform fragments q s).keep (c.clauseCalls fragments ++ ·) _) q =
        .ok ((c.perform fragments q s).andThen _ _ _ _).builder
      rw [Finished.keep_ok hresult, ClauseCall.applyAll_append
        (c.applyAll_clauseCalls h.1 fragments q), ← hbuilder]
      exact Finished.andThen_follow
        (R := fun calls r =>
          ClauseCall.applyAll calls (c.perform fragments q s).builder = .ok r) rfl
        fun s => rest.applyAll_clauseCalls schema h.2 base (number + 1) _ s

/-! ### Interleavings -/

/-- Two sequences of clause calls on a query that have, for each clause, the same calls in the same
order: if the calls of one succeed, so do those of the other, and the statements are the same. This
holds of the calls in any two scripts without joins as well, with what is built between the calls
and with those that fail halfway. -/
theorem Query.compile_interleaving (q : Query) :
    (∀ (calls calls' : List ClauseCall) (r : Query),
      (∀ k, ClauseCall.ofClause k calls = ClauseCall.ofClause k calls') →
      ClauseCall.applyAll calls q = .ok r →
        ∃ r', ClauseCall.applyAll calls' q = .ok r' ∧ r'.compile = r.compile) ∧
    (∀ (schema schema' : Schema) (steps steps' : QueryScript) (base base' : String)
      (number number' : Nat) (s s' : Session),
      steps.isJoinless = true → steps'.isJoinless = true →
      (∀ k, ClauseCall.ofClause k (steps.clauseCalls schema base number q s) =
        ClauseCall.ofClause k (steps'.clauseCalls schema' base' number' q s')) →
        (steps.run schema base number q s).builder.compile =
          (steps'.run schema' base' number' q s').builder.compile) := by
  constructor
  · intro calls calls' r h hr
    exact ⟨r, ClauseCall.applyAll_of_interleaved h hr, rfl⟩
  · intro schema schema' steps steps' base base' number number' s s' hsteps hsteps' h
    have hr := ClauseCall.applyAll_of_interleaved h
      (steps.applyAll_clauseCalls schema hsteps base number q s)
    rw [steps'.applyAll_clauseCalls schema' hsteps' base' number' q s'] at hr
    rw [Except.ok.inj hr]

/-- Calls that leave a function, a negation or an OR pending for the next call of their clause, and
the same calls with those of the other clauses in between. -/
theorem Query.compile_interleaving_of_pending :
    let q := aliased ⟨[]⟩ { typeName := "Invoice", table := "Model" } "abc" .shared
    let column (name : String) : ColumnArg := .given (.raw name)
    let sum : ClauseCall := .project (.call [] (.wrap ⟨.sum, []⟩) .done)
    let amount : ClauseCall :=
      .project (.call [] (.apply [] (column "amount") (some "total")) .done)
    let less : ClauseCall := .filter <|
      .call [] (.compare .less (column "numero") (.given (.scalar (.signed 50)))) <|
      .call [] (.join .or) <| .call [] .not .done
    let missing : ClauseCall := .filter (.call [] (.isNull (column "note")) .done)
    let calls := [sum, amount, less, missing, .groupBy (.raw "refId"), .limit 5, .limit 10,
      .orderBy (.raw "numero") .descending, .offset 20]
    let calls' := [.offset 20, less, sum, .orderBy (.raw "numero") .descending, .limit 5, missing,
      .groupBy (.raw "refId"), amount, .limit 10]
    (∀ k, ClauseCall.ofClause k calls = ClauseCall.ofClause k calls') ∧
    ∃ r, ClauseCall.applyAll calls q = .ok r ∧
      r.compile =
        ⟨"SELECT SUM(abc.amount) AS total FROM Model AS abc WHERE abc.numero < ? OR " ++
          "abc.note IS NOT NULL GROUP BY abc.refId ORDER BY abc.numero DESC LIMIT ? OFFSET ?",
          [.integer 50, .integer 10, .integer 20]⟩ ∧
      ∃ r', ClauseCall.applyAll calls' q = .ok r' ∧ r'.compile = r.compile := by
  intro q column sum amount less missing calls calls'
  have h : ∀ k, ClauseCall.ofClause k calls = ClauseCall.ofClause k calls' := by
    intro k
    cases k <;> rfl
  have hr : ClauseCall.applyAll calls q =
      .ok ((ClauseCall.applyAll calls q).toOption.getD q) := by decide +kernel
  exact ⟨h, _, hr, by decide +kernel, (compile_interleaving q).1 calls calls' _ h hr⟩

end SqlCompose
