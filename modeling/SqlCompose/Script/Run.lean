import SqlCompose.Script.Basic

/-! Running scripts. Steps are numbered from 0; the place of a nested step is that of the
step it belongs to, followed by its own number. -/

namespace SqlCompose

/-- Goes on with a call if everything before it could be built. -/
def Finished.ofPrepared {β : Type} (b : β) (prepared : Except Error (List Fragment) × Session)
    (call : List Fragment → Session → Finished β) : Finished β :=
  match prepared with
  | (.ok fragments, s) => call fragments s
  | (.error e, s) => ⟨.error e, b, s⟩

namespace Predicate

def report (p : Predicate) : Report :=
  .fragment p.compile

/-- Adds a nested condition whose script has run. -/
def finishScope [b : Binding] (p : Predicate) (r : Run Predicate) : Finished Predicate :=
  .ofCall p r.session (r.result.bind fun _ => (p.nest r.builder.compile).map (·, none))

end Predicate

namespace Projection

def report (p : Projection) : Report :=
  .fragment p.compile

/-- Adds a group whose script has run. -/
def finishGroup [b : Binding] (p : Projection) (aliasName : String) (r : Run Projection) :
    Finished Projection :=
  .ofCall p r.session (r.result.map fun _ => (p.group aliasName r.builder.compile, none))

end Projection

namespace QueryScope

/-- Shows a standalone expression whose script has run. -/
def finishExpr (q : QueryScope) (saveAs : Option String) (r : Run Projection) :
    Finished QueryScope :=
  match r.result with
  | .ok () =>
    let f := r.builder.compile
    ⟨.ok (some (.fragment f)), q, r.session.save saveAs f⟩
  | .error e => ⟨.error e, q, r.session⟩

/-- Closes a join whose script has run. -/
def finishJoin (q : QueryScope) (r : Run Join) : Finished QueryScope :=
  match r.result with
  | .ok () => ⟨.ok none, q.attach r.builder, r.session⟩
  | .error e => ⟨.error e, q.abandon r.builder, r.session⟩

end QueryScope

/-- The state of a join is shown by its alias. -/
def Join.report (j : Join) : Report :=
  .text j.scope.aliasName

def Query.report [b : Binding] (q : Query) : Report :=
  .fragment q.compile

mutual

/-- Builds what a call needs, after the fragments built already. -/
def Preparation.run [b : Binding] (schema : Schema) :
    Preparation → List Fragment → Session → Except Error (List Fragment) × Session
  | .done, fragments, s => (.ok fragments, s)
  | .saved name rest, fragments, s =>
    match s.saved? name with
    | some f => rest.run schema (fragments ++ [f]) s
    | none => (.error (.unknownFragment name), s)
  | .storable scalars rest, fragments, s =>
    match scalars.mapM Scalar.toValue with
    | .ok _ => rest.run schema fragments s
    | .error e => (.error e, s)
  | .query head steps rest, fragments, s =>
    let r := steps.run schema "query." 0 (head.start schema) s
    match r.result with
    | .ok () => rest.run schema (fragments ++ [r.builder.compile]) r.session
    | .error e => (.error e, r.session)
  | .expression model aliasName steps rest, fragments, s =>
    let r := steps.run schema "expr." 0 (.expression { schema, model, aliasName }) s
    match r.result with
    | .ok () => rest.run schema (fragments ++ [r.builder.compile]) r.session
    | .error e => (.error e, r.session)

/-- Runs the steps from number `number` on, at places that start with `base`. -/
def PredicateScript.run [b : Binding] (schema : Schema) :
    PredicateScript → (base : String) → (number : Nat) → Predicate → Session → Run Predicate
  | .done, _, _, p, s => ⟨.ok (), p, s⟩
  | .call attempt before c rest, base, number, p, s =>
    (Finished.ofPrepared p (before.run schema [] s) fun fragments s =>
        .ofCall p s (c.perform fragments p)).andThen
      (base ++ toString number) Predicate.report attempt
      fun p s => rest.run schema base (number + 1) p s
  | .scope attempt steps rest, base, number, p, s =>
    (p.finishScope (steps.run schema (base ++ toString number ++ ".") 0 p.nested s)).andThen
      (base ++ toString number) Predicate.report attempt
      fun p s => rest.run schema base (number + 1) p s

def ProjectionScript.run [b : Binding] (schema : Schema) :
    ProjectionScript → (base : String) → (number : Nat) → Projection → Session → Run Projection
  | .done, _, _, p, s => ⟨.ok (), p, s⟩
  | .call attempt before c rest, base, number, p, s =>
    (Finished.ofPrepared p (before.run schema [] s) fun fragments s =>
        .ofCall p s (c.perform fragments p)).andThen
      (base ++ toString number) Projection.report attempt
      fun p s => rest.run schema base (number + 1) p s
  | .group attempt aliasName steps rest, base, number, p, s =>
    (p.finishGroup aliasName
        (steps.run schema (base ++ toString number ++ ".") 0 (.expression p.source) s)).andThen
      (base ++ toString number) Projection.report attempt
      fun p s => rest.run schema base (number + 1) p s

/-- Runs a step of a query or a join at the given place. -/
def ScopeStep.run [b : Binding] (schema : Schema) :
    ScopeStep → (place : String) → QueryScope → Session → Finished QueryScope
  | .project steps, place, q, s =>
    (steps.run schema (place ++ ".") 0 q.clauses.projection s).finished fun projection =>
      { q with clauses := { q.clauses with projection } }
  | .filter steps, place, q, s =>
    (steps.run schema (place ++ ".") 0 q.clauses.filter s).finished fun filter =>
      { q with clauses := { q.clauses with filter } }
  | .having steps, place, q, s =>
    (steps.run schema (place ++ ".") 0 q.clauses.having s).finished fun having =>
      { q with clauses := { q.clauses with having } }
  | .expr steps saveAs, place, q, s =>
    q.finishExpr saveAs (steps.run schema (place ++ ".") 0 (.expression q.source) s)
  | .join kind model aliasName steps, place, q, s =>
    let (j, counters) := q.openJoin kind model (aliasName.getD model.defaultAlias) s.counters
    q.finishJoin (steps.run schema (place ++ ".") 0 j { s with counters })
  | .call before c, _, q, s =>
    Finished.ofPrepared q (before.run schema [] s) fun fragments s =>
      .ofCall q s (c.perform fragments q)

def JoinScript.run [b : Binding] (schema : Schema) :
    JoinScript → (base : String) → (number : Nat) → Join → Session → Run Join
  | .done, _, _, j, s => ⟨.ok (), j, s⟩
  | .scoped attempt step rest, base, number, j, s =>
    ((step.run schema (base ++ toString number) j.scope s).within fun scope =>
        { j with scope }).andThen
      (base ++ toString number) Join.report attempt
      fun j s => rest.run schema base (number + 1) j s
  | .on attempt steps rest, base, number, j, s =>
    ((steps.run schema (base ++ toString number ++ ".") 0 j.condition s).finished
        fun condition => { j with condition }).andThen
      (base ++ toString number) Join.report attempt
      fun j s => rest.run schema base (number + 1) j s
  | .call attempt before c rest, base, number, j, s =>
    (Finished.ofPrepared j (before.run schema [] s) fun fragments s =>
        c.perform fragments j s).andThen
      (base ++ toString number) Join.report attempt
      fun j s => rest.run schema base (number + 1) j s

def QueryScript.run [b : Binding] (schema : Schema) :
    QueryScript → (base : String) → (number : Nat) → Query → Session → Run Query
  | .done, _, _, q, s => ⟨.ok (), q, s⟩
  | .scoped attempt step rest, base, number, q, s =>
    ((step.run schema (base ++ toString number) q.scope s).within fun scope =>
        { q with scope }).andThen
      (base ++ toString number) Query.report attempt
      fun q s => rest.run schema base (number + 1) q s
  | .call attempt before c rest, base, number, q, s =>
    (Finished.ofPrepared q (before.run schema [] s) fun fragments s =>
        c.perform fragments q s).andThen
      (base ++ toString number) Query.report attempt
      fun q s => rest.run schema base (number + 1) q s

end

end SqlCompose
