import SqlCompose.Proofs.Condition.History
import SqlCompose.Proofs.Query.Conditions
import SqlCompose.Proofs.Script.Steps

/-! Histories of the conditions in a script. What a script does to a condition, with the steps that
fail and are passed over, and the conditions of the joins that it attaches to a query, is a history;
so the WHERE and HAVING conditions of a query after any script are the rows of what their logs
say. -/

namespace SqlCompose

/-- What the steps of a script do to its condition, up to the step that ends it. A call for which
something could not be built is not made. -/
def PredicateScript.history [b : Binding] (schema : Schema) :
    PredicateScript → (base : String) → (number : Nat) → Predicate → Session → Predicate.History
  | .done, _, _, _, _ => .done
  | .call attempt before c rest, base, number, p, s =>
    let prepared := before.run schema [] s
    let f := Finished.ofPrepared p prepared fun fragments s => .ofCall p s (c.perform fragments p)
    let next := f.follow (base ++ toString number) Predicate.report attempt .done
      fun p s => rest.history schema base (number + 1) p s
    match prepared.1 with
    | .ok fragments => .call fragments c next
    | .error _ => next
  | .scope attempt steps rest, base, number, p, s =>
    let place := base ++ toString number
    let r := steps.run schema (place ++ ".") 0 p.nested s
    .scope r.result (steps.history schema (place ++ ".") 0 p.nested s) <|
      (p.finishScope r).follow place Predicate.report attempt .done
        fun p s => rest.history schema base (number + 1) p s

/-- A script and its history go on, and stop, at the same step. -/
theorem Finished.run_follow [b : Binding] {β : Type} (part : β → Predicate) (f : Finished β)
    {place : String} {state : β → Report} {attempt : Bool}
    {next : β → Session → Predicate.History} {run : β → Session → Run β}
    (h : ∀ s, (next f.builder s).run (part f.builder) = part (run f.builder s).builder) :
    (f.follow place state attempt .done next).run (part f.builder) =
      part (f.andThen place state attempt run).builder :=
  andThen_follow (R := fun (hist : Predicate.History) c => hist.run (part f.builder) = part c) rfl h

theorem PredicateScript.run_history [b : Binding] (schema : Schema) :
    (steps : PredicateScript) → (base : String) → (number : Nat) → (p : Predicate) →
      (s : Session) →
      (steps.history schema base number p s).run p = (steps.run schema base number p s).builder
  | .done, _, _, _, _ => rfl
  | .call attempt before c rest, base, number, p, s => by
    rw [PredicateScript.history, PredicateScript.run]
    generalize before.run schema [] s = prepared
    obtain ⟨_ | fragments, s⟩ := prepared
    · exact Finished.run_follow id _ fun s => rest.run_history schema base (number + 1) p s
    · have hbuilder : (Finished.ofCall p s (c.perform fragments p)).builder =
          (c.apply fragments p).toOption.getD p := by
        rw [PredicateCall.perform]
        cases c.apply fragments p <;> rfl
      show Predicate.History.run _ ((c.apply fragments p).toOption.getD p) = _
      rw [← hbuilder]
      exact Finished.run_follow id _ fun s => rest.run_history schema base (number + 1) _ s
  | .scope attempt steps rest, base, number, p, s => by
    rw [PredicateScript.history, PredicateScript.run]
    have hinside := steps.run_history schema (base ++ toString number ++ ".") 0 p.nested s
    generalize steps.run schema (base ++ toString number ++ ".") 0 p.nested s = r at hinside ⊢
    have hbuilder : (p.finishScope r).builder =
        (r.result.bind fun _ => p.nest r.builder.compile).toOption.getD p := by
      obtain ⟨result, n, s⟩ := r
      cases result with
      | error e => rfl
      | ok _ =>
        simp only [Predicate.finishScope, Except.bind]
        cases p.nest n.compile <;> rfl
    simp only [Predicate.History.run, hinside, ← hbuilder]
    exact Finished.run_follow id _ fun s => rest.run_history schema base (number + 1) _ s

/-- Two histories, one after the other. -/
def Predicate.History.append : Predicate.History → Predicate.History → Predicate.History
  | done, h => h
  | call fragments c rest, h => .call fragments c (rest.append h)
  | scope ended inside rest, h => .scope ended inside (rest.append h)
  | absorb condition rest, h => .absorb condition (rest.append h)

theorem Predicate.History.run_append [b : Binding] (hist next : Predicate.History)
    (p : Predicate) : (hist.append next).run p = next.run (hist.run p) := by
  induction hist generalizing p with
  | done => rfl
  | call _ _ _ ih | absorb _ _ ih => exact ih _
  | scope _ _ _ _ ih => exact ih _

/-- What one step of a query does to one of its conditions. -/
def ScopeStep.history [b : Binding] (schema : Schema) (k : ConditionClause) :
    ScopeStep → (place : String) → QueryScope → Session → Predicate.History
  | .filter steps, place, q, s =>
    if k = .filter then steps.history schema (place ++ ".") 0 q.clauses.filter s else .done
  | .having steps, place, q, s =>
    if k = .having then steps.history schema (place ++ ".") 0 q.clauses.having s else .done
  | .join kind model aliasName steps, place, q, s =>
    let (j, counters) := q.openJoin kind model (aliasName.getD model.defaultAlias) s.counters
    let r := steps.run schema (place ++ ".") 0 j { s with counters }
    match r.result with
    | .ok _ => .absorb (k.of r.builder.scope.clauses).compile .done
    | .error _ => .done
  | .project _, _, _, _ | .expr _ _, _, _, _ | .call _ _, _, _, _ => .done

/-- The calls that add to other clauses leave the conditions alone. -/
theorem ScopeCall.of_clauses_perform [b : Binding] {fragments : List Fragment} {c : ScopeCall}
    {q r : QueryScope} {out : Option Report} (h : c.perform fragments q = .ok (r, out))
    (k : ConditionClause) : k.of r.clauses = k.of q.clauses := by
  cases c with
  | groupBy column =>
    obtain ⟨s, hs, hr⟩ := map_ok h
    cases hr
    obtain ⟨_, -, rfl⟩ := QueryScope.groupBy_ok hs
    cases k <;> rfl
  | orderBy column order =>
    obtain ⟨s, hs, hr⟩ := map_ok h
    cases hr
    obtain ⟨_, -, rfl⟩ := QueryScope.orderBy_ok hs
    cases k <;> rfl
  | aliasName => cases h; rfl

theorem ScopeStep.run_history [b : Binding] (schema : Schema) (k : ConditionClause)
    (step : ScopeStep) (place : String) (q : QueryScope) (s : Session) :
    (step.history schema k place q s).run (k.of q.clauses) =
      k.of (step.run schema place q s).builder.clauses := by
  cases step with
  | project steps =>
    rw [history, run]
    cases k <;> rfl
  | filter steps =>
    rw [history, run]
    cases k with
    | filter => exact steps.run_history schema (place ++ ".") 0 _ s
    | having => rfl
  | having steps =>
    rw [history, run]
    cases k with
    | filter => rfl
    | having => exact steps.run_history schema (place ++ ".") 0 _ s
  | expr steps saveAs =>
    rw [history, run, QueryScope.finishExpr]
    split <;> rfl
  | join kind model aliasName steps =>
    rw [history, run]
    dsimp only
    generalize steps.run schema (place ++ ".") 0 _ _ = r
    obtain ⟨_ | _, j, s⟩ := r
    · rfl
    · exact (k.of_merge q.clauses j.scope.clauses).symm
  | call before c =>
    rw [history, run]
    refine (Finished.builder_ofPrepared (fun r : QueryScope => k.of r.clauses = k.of q.clauses) rfl
      fun fragments s => ?_).symm
    exact Finished.builder_ofCall (fun r : QueryScope => k.of r.clauses = k.of q.clauses) rfl
      fun r out h => c.of_clauses_perform h k

/-- What a script does to one of the conditions of its query. -/
def QueryScript.history [b : Binding] (schema : Schema) (k : ConditionClause) :
    QueryScript → (base : String) → (number : Nat) → Query → Session → Predicate.History
  | .done, _, _, _, _ => .done
  | .scoped attempt step rest, base, number, q, s =>
    let f := (step.run schema (base ++ toString number) q.scope s).within fun scope =>
      { q with scope }
    (step.history schema k (base ++ toString number) q.scope s).append <|
      f.follow (base ++ toString number) Query.report attempt .done
        fun q s => rest.history schema k base (number + 1) q s
  | .call attempt before c rest, base, number, q, s =>
    let f := Finished.ofPrepared q (before.run schema [] s) fun fragments s =>
      c.perform fragments q s
    f.follow (base ++ toString number) Query.report attempt .done
      fun q s => rest.history schema k base (number + 1) q s

theorem QueryScript.run_history [b : Binding] (schema : Schema) (k : ConditionClause) :
    (steps : QueryScript) → (base : String) → (number : Nat) → (q : Query) → (s : Session) →
      (steps.history schema k base number q s).run (k.of q.scope.clauses) =
        k.of (steps.run schema base number q s).builder.scope.clauses
  | .done, _, _, _, _ => rfl
  | .scoped attempt step rest, base, number, q, s => by
    rw [QueryScript.history, QueryScript.run, Predicate.History.run_append]
    rw [step.run_history schema k (base ++ toString number) q.scope s]
    exact Finished.run_follow (fun r : Query => k.of r.scope.clauses)
      ((step.run schema (base ++ toString number) q.scope s).within fun scope => { q with scope })
      fun s => rest.run_history schema k base (number + 1) _ s
  | .call attempt before c rest, base, number, q, s => by
    rw [QueryScript.history, QueryScript.run]
    have hcall : k.of (Finished.ofPrepared q (before.run schema [] s)
        fun fragments s => c.perform fragments q s).builder.scope.clauses =
          k.of q.scope.clauses :=
      Finished.builder_ofPrepared (fun r : Query => k.of r.scope.clauses = k.of q.scope.clauses) rfl
        fun fragments s => by cases c <;> rfl
    rw [← hcall]
    exact Finished.run_follow (fun r : Query => k.of r.scope.clauses) _
      fun s => rest.run_history schema k base (number + 1) _ s

/-- The WHERE or HAVING condition of a query after any script is the row of what its log says. -/
theorem QueryScript.compile_condition [b : Binding] (schema : Schema) (head : QueryHead)
    (steps : QueryScript) (k : ConditionClause) (base : String) (number : Nat) (s : Session) :
    let q := head.start schema
    let r := (steps.run schema base number q s).builder
    (k.of r.scope.clauses).compile =
      Predicate.Mark.text ((steps.history schema k base number q s).log q.scope.source) := by
  intro q r
  have hstart : k.of q.scope.clauses = { source := q.scope.source } := by
    rw [show q = head.start schema from rfl, QueryHead.start]
    cases k <;> split <;> rfl
  rw [← steps.run_history schema k base number q s, hstart]
  exact ((steps.history schema k base number q s).logged (.fresh q.scope.source)).1.body_eq

end SqlCompose
