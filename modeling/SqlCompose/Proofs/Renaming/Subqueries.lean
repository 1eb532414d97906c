import SqlCompose.Proofs.Script.Steps

/-! The queries that a script has built for its calls, in the order in which they were started. A
query that failed half-way is one of them, since what it has saved and shown stays. -/

namespace SqlCompose

/-- A query as some script has left it. -/
structure BuiltQuery where
  query : Query
  reachable : query.scope.Reachable

namespace BuiltQuery

/-- The aliases of all scopes of a query, in the order in which they were opened. -/
def aliases (q : BuiltQuery) : List String :=
  q.query.scope.tree.aliases

/-- The query that a script builds from the beginning. -/
def ofScript (schema : Schema) (head : QueryHead) (steps : QueryScript) (base : String)
    (s : Session) : BuiltQuery :=
  ⟨(steps.run schema base 0 (head.start schema) s).builder,
    steps.reachable schema head base 0 s⟩

/-- No two scopes of a query have the same alias. -/
theorem nodup_aliases (q : BuiltQuery) (h : q.aliases.length ≤ UInt64.size) : q.aliases.Nodup := by
  refine (q.reachable.registered ?_).nodup
  rwa [aliases, AliasTree.length_aliases] at h

end BuiltQuery

mutual

def Preparation.queries (schema : Schema) :
    Preparation → List Fragment → Session → List BuiltQuery
  | .done, _, _ => []
  | .saved name rest, fragments, s =>
    match s.saved? name with
    | some f => rest.queries schema (fragments ++ [f]) s
    | none => []
  | .storable scalars rest, fragments, s =>
    match scalars.mapM Scalar.toValue with
    | .ok _ => rest.queries schema fragments s
    | .error _ => []
  | .query head steps rest, fragments, s =>
    let r := steps.run schema "query." 0 (head.start schema) s
    .ofScript schema head steps "query." s ::
      (steps.queries schema "query." 0 (head.start schema) s ++
        match r.result with
        | .ok () => rest.queries schema (fragments ++ [r.builder.compile]) r.session
        | .error _ => [])
  | .expression model aliasName steps rest, fragments, s =>
    let p : Projection := .expression { schema, model, aliasName }
    let r := steps.run schema "expr." 0 p s
    steps.queries schema "expr." 0 p s ++
      match r.result with
      | .ok () => rest.queries schema (fragments ++ [r.builder.compile]) r.session
      | .error _ => []

def PredicateScript.queries (schema : Schema) :
    PredicateScript → (base : String) → (number : Nat) → Predicate → Session → List BuiltQuery
  | .done, _, _, _, _ => []
  | .call attempt before c rest, base, number, p, s =>
    let f := Finished.ofPrepared p (before.run schema [] s) fun fragments s =>
      .ofCall p s (c.perform fragments p)
    before.queries schema [] s ++
      f.follow (base ++ toString number) Predicate.report attempt []
        fun p s => rest.queries schema base (number + 1) p s
  | .scope attempt steps rest, base, number, p, s =>
    let f := p.finishScope (steps.run schema (base ++ toString number ++ ".") 0 p.nested s)
    steps.queries schema (base ++ toString number ++ ".") 0 p.nested s ++
      f.follow (base ++ toString number) Predicate.report attempt []
        fun p s => rest.queries schema base (number + 1) p s

def ProjectionScript.queries (schema : Schema) :
    ProjectionScript → (base : String) → (number : Nat) → Projection → Session → List BuiltQuery
  | .done, _, _, _, _ => []
  | .call attempt before c rest, base, number, p, s =>
    let f := Finished.ofPrepared p (before.run schema [] s) fun fragments s =>
      .ofCall p s (c.perform fragments p)
    before.queries schema [] s ++
      f.follow (base ++ toString number) Projection.report attempt []
        fun p s => rest.queries schema base (number + 1) p s
  | .group attempt aliasName steps rest, base, number, p, s =>
    let f := p.finishGroup aliasName
      (steps.run schema (base ++ toString number ++ ".") 0 (.expression p.source) s)
    steps.queries schema (base ++ toString number ++ ".") 0 (.expression p.source) s ++
      f.follow (base ++ toString number) Projection.report attempt []
        fun p s => rest.queries schema base (number + 1) p s

def ScopeStep.queries (schema : Schema) :
    ScopeStep → (place : String) → QueryScope → Session → List BuiltQuery
  | .project steps, place, q, s => steps.queries schema (place ++ ".") 0 q.clauses.projection s
  | .filter steps, place, q, s => steps.queries schema (place ++ ".") 0 q.clauses.filter s
  | .having steps, place, q, s => steps.queries schema (place ++ ".") 0 q.clauses.having s
  | .expr steps _, place, q, s =>
    steps.queries schema (place ++ ".") 0 (.expression q.source) s
  | .join kind model aliasName steps, place, q, s =>
    let (j, counters) := q.openJoin kind model (aliasName.getD model.defaultAlias) s.counters
    steps.queries schema (place ++ ".") 0 j { s with counters }
  | .call before _, _, _, s => before.queries schema [] s

def JoinScript.queries (schema : Schema) :
    JoinScript → (base : String) → (number : Nat) → Join → Session → List BuiltQuery
  | .done, _, _, _, _ => []
  | .scoped attempt step rest, base, number, j, s =>
    let f := (step.run schema (base ++ toString number) j.scope s).within fun scope =>
      { j with scope }
    step.queries schema (base ++ toString number) j.scope s ++
      f.follow (base ++ toString number) Join.report attempt []
        fun j s => rest.queries schema base (number + 1) j s
  | .on attempt steps rest, base, number, j, s =>
    let f := (steps.run schema (base ++ toString number ++ ".") 0 j.condition s).finished
      fun condition => { j with condition }
    steps.queries schema (base ++ toString number ++ ".") 0 j.condition s ++
      f.follow (base ++ toString number) Join.report attempt []
        fun j s => rest.queries schema base (number + 1) j s
  | .call attempt before c rest, base, number, j, s =>
    let f := Finished.ofPrepared j (before.run schema [] s) fun fragments s =>
      c.perform fragments j s
    before.queries schema [] s ++
      f.follow (base ++ toString number) Join.report attempt []
        fun j s => rest.queries schema base (number + 1) j s

def QueryScript.queries (schema : Schema) :
    QueryScript → (base : String) → (number : Nat) → Query → Session → List BuiltQuery
  | .done, _, _, _, _ => []
  | .scoped attempt step rest, base, number, q, s =>
    let f := (step.run schema (base ++ toString number) q.scope s).within fun scope =>
      { q with scope }
    step.queries schema (base ++ toString number) q.scope s ++
      f.follow (base ++ toString number) Query.report attempt []
        fun q s => rest.queries schema base (number + 1) q s
  | .call attempt before c rest, base, number, q, s =>
    let f := Finished.ofPrepared q (before.run schema [] s) fun fragments s =>
      c.perform fragments q s
    before.queries schema [] s ++
      f.follow (base ++ toString number) Query.report attempt []
        fun q s => rest.queries schema base (number + 1) q s

end

end SqlCompose
