import SqlCompose.Proofs.Renaming.Sessions

/-! Scripts under several histories. One script takes builders and sessions that differ only in
aliases to such again, goes on and stops at the same step, and builds the same queries on the way.
The names of all scopes are given in advance: every script is run where the queries that it builds,
and the scopes that its own query has in the end, already have their names. -/

namespace SqlCompose

/-- Scopes are only added to a query. -/
theorem QueryScope.Becomes.keeps_aliases {q r : QueryScope} (h : q.Becomes r) :
    q.tree.aliases <+: r.tree.aliases := by
  obtain ⟨calls⟩ := h
  rw [calls.aliases_eq]
  exact List.prefix_append _ _

/-- The steps after a step only add scopes. -/
theorem Finished.keeps_aliases {β : Type} {f : Finished β} (scope : β → QueryScope)
    {aliases : List String} (hf : aliases <+: (scope f.builder).tree.aliases) {place : String}
    {state : β → Report} {attempt : Bool} {next : β → Session → Run β}
    (hnext : ∀ s, (scope f.builder).Becomes (scope (next f.builder s).builder)) :
    aliases <+: (scope (f.andThen place state attempt next).builder).tree.aliases :=
  builder_andThen (fun b => aliases <+: (scope b).tree.aliases) hf fun s =>
    hf.trans (hnext s).keeps_aliases

theorem QueryScope.tree_finishJoin (q : QueryScope) (r : Run Join) :
    (q.finishJoin r).builder.tree = r.builder.scope.tree := by
  rw [finishJoin]
  split <;> rfl

namespace Naming

variable {ι : Type} {N : Naming ι}

/-! ### Steps with scripts in them -/

section

variable {x : ι → List BuiltQuery}

theorem finishScope {p : ι → Predicate} (hp : N.Predicates p) {r : ι → Run Predicate}
    (hr : N.Runs N.Predicates r x) : N.Steps N.Predicates (fun i => (p i).finishScope (r i)) x :=
  .ofCall hp hr.session
    (hr.result.bind fun _ _ => (hp.nest hr.builder).map fun _ hq => ⟨hq, .none⟩) hr.queries

theorem finishGroup {p : ι → Projection} (hp : N.Projections p) (aliasName : String)
    {r : ι → Run Projection} (hr : N.Runs N.Projections r x) :
    N.Steps N.Projections (fun i => (p i).finishGroup aliasName (r i)) x :=
  .ofCall hp hr.session
    (hr.result.map fun _ _ => ⟨hp.group aliasName hr.builder.compile, .none⟩) hr.queries

theorem finishExpr {q : ι → QueryScope} (hq : N.Scopes q) (saveAs : Option String)
    {r : ι → Run Projection} (hr : N.Runs N.Projections r x) :
    N.Steps N.Scopes (fun i => (q i).finishExpr saveAs (r i)) x := by
  rcases hr.result.cases with ⟨_, hok, -⟩ | ⟨e, herror⟩
  · have hcompile := hr.builder.compile
    simp only [QueryScope.finishExpr, hok]
    exact ⟨.ok (.some (.fragment hcompile)), hq, hr.session.save saveAs hcompile, hr.queries⟩
  · simp only [QueryScope.finishExpr, herror]
    exact ⟨.error e, hq, hr.session, hr.queries⟩

theorem finishJoin {q : ι → QueryScope} (hq : N.Scopes q) {r : ι → Run Join}
    (hr : N.Runs N.Joins r x) : N.Steps N.Scopes (fun i => (q i).finishJoin (r i)) x := by
  rcases hr.result.cases with ⟨_, hok, -⟩ | ⟨e, herror⟩
  · simp only [QueryScope.finishJoin, hok]
    exact ⟨.ok .none, hq.attach hr.builder, hr.session, hr.queries⟩
  · simp only [QueryScope.finishJoin, herror]
    exact ⟨.error e, hq.abandon hr.builder, hr.session, hr.queries⟩

end

/-! ### Runs -/

variable (schema : Schema)

mutual

theorem runPreparation : (before : Preparation) → {fs : ι → List Fragment} →
    JointList N.Templated fs → {s : ι → Session} → N.Sessions s →
    (N.Covers fun i => before.queries schema (fs i) (s i)) →
    N.Prepared (fun i => before.run schema (fs i) (s i))
      fun i => before.queries schema (fs i) (s i)
  | .done, fs, hfs, s, hs, _ => ⟨.ok hfs, hs, .nil⟩
  | .saved name rest, fs, hfs, s, hs, hcovers => by
    simp only [Preparation.run, Preparation.queries] at hcovers ⊢
    rcases (hs.saved? name).cases with hnone | ⟨f, hsome, hf⟩
    · simp only [hnone]
      exact ⟨.error _, hs, .nil⟩
    · simp only [hsome] at hcovers ⊢
      exact runPreparation rest (hfs.append (.cons hf .nil)) hs hcovers
  | .storable scalars rest, fs, hfs, s, hs, hcovers => by
    simp only [Preparation.run, Preparation.queries] at hcovers ⊢
    cases hvalues : scalars.mapM Scalar.toValue with
    | error e => exact ⟨.error e, hs, .nil⟩
    | ok _ =>
      simp only [hvalues] at hcovers
      exact runPreparation rest hfs hs hcovers
  | .query head steps rest, fs, hfs, s, hs, hcovers => by
    simp only [Preparation.run, Preparation.queries] at hcovers ⊢
    -- the scopes of the query have their names before its script is run, its own scope among them
    have hnames := hcovers.names
    have hstart : N.Names fun _ => (head.start schema).scope.tree.aliases :=
      hnames.mono fun i => (steps.becomes schema "query." 0 _ (s i)).keeps_aliases
    have hinside := hcovers.tail
    have hr := runQueryScript steps "query." 0 (.start schema head hstart) hs hinside.left hnames
    have hwidth : SameWidth fun i => .ofScript schema head steps "query." (s i) :=
      hr.builder.sameWidth
    refine Prepared.after (x := fun i => [.ofScript schema head steps "query." (s i)]) ?_
      (.cons hwidth .nil)
    exact hr.prepare hr.builder.compile hfs hinside fun hl hs hcovers =>
      runPreparation rest hl hs hcovers
  | .expression model aliasName steps rest, fs, hfs, s, hs, hcovers => by
    simp only [Preparation.run, Preparation.queries] at hcovers ⊢
    have hsource : N.Sources fun _ => { schema, model, aliasName } :=
      ⟨.rfl, .rfl, .given aliasName⟩
    have hstart : N.Projections fun _ => .expression { schema, model, aliasName } :=
      .start hsource true
    have hr := runProjectionScript steps "expr." 0 hstart hs hcovers.left
    exact hr.prepare hr.builder.compile hfs hcovers fun hl hs hcovers =>
      runPreparation rest hl hs hcovers

theorem runPredicateScript : (steps : PredicateScript) → (base : String) → (number : Nat) →
    {p : ι → Predicate} → N.Predicates p → {s : ι → Session} → N.Sessions s →
    (N.Covers fun i => steps.queries schema base number (p i) (s i)) →
    N.Runs N.Predicates (fun i => steps.run schema base number (p i) (s i))
      fun i => steps.queries schema base number (p i) (s i)
  | .done, base, number, p, hp, s, hs, _ => ⟨.ok trivial, hp, hs, .nil⟩
  | .call attempt before c rest, base, number, p, hp, s, hs, hcovers => by
    simp only [PredicateScript.run, PredicateScript.queries] at hcovers ⊢
    have hbefore := runPreparation before .nil hs hcovers.left
    have hstep := hbefore.call hp (fun fragments p => c.perform fragments p)
      fun hfs => performPredicateCall hfs c hp
    exact hstep.andThen _ (fun _ hp => .fragment hp.body) attempt hcovers (fun _ => True) trivial
      fun s hs hcovers _ => runPredicateScript rest base (number + 1) hstep.builder hs hcovers
  | .scope attempt steps rest, base, number, p, hp, s, hs, hcovers => by
    simp only [PredicateScript.run, PredicateScript.queries] at hcovers ⊢
    have hstep := finishScope hp
      (runPredicateScript steps _ 0 (.fresh hp.source) hs hcovers.left)
    exact hstep.andThen _ (fun _ hp => .fragment hp.body) attempt hcovers (fun _ => True) trivial
      fun s hs hcovers _ => runPredicateScript rest base (number + 1) hstep.builder hs hcovers

theorem runProjectionScript : (steps : ProjectionScript) → (base : String) → (number : Nat) →
    {p : ι → Projection} → N.Projections p → {s : ι → Session} → N.Sessions s →
    (N.Covers fun i => steps.queries schema base number (p i) (s i)) →
    N.Runs N.Projections (fun i => steps.run schema base number (p i) (s i))
      fun i => steps.queries schema base number (p i) (s i)
  | .done, base, number, p, hp, s, hs, _ => ⟨.ok trivial, hp, hs, .nil⟩
  | .call attempt before c rest, base, number, p, hp, s, hs, hcovers => by
    simp only [ProjectionScript.run, ProjectionScript.queries] at hcovers ⊢
    have hbefore := runPreparation before .nil hs hcovers.left
    have hstep := hbefore.call hp (fun fragments p => c.perform fragments p)
      fun hfs => performProjectionCall hfs c hp
    exact hstep.andThen _ (fun _ hp => .fragment hp.compile) attempt hcovers (fun _ => True)
      trivial fun s hs hcovers _ =>
        runProjectionScript rest base (number + 1) hstep.builder hs hcovers
  | .group attempt aliasName steps rest, base, number, p, hp, s, hs, hcovers => by
    simp only [ProjectionScript.run, ProjectionScript.queries] at hcovers ⊢
    have hstep := finishGroup hp aliasName
      (runProjectionScript steps _ 0 (.start hp.source true) hs hcovers.left)
    exact hstep.andThen _ (fun _ hp => .fragment hp.compile) attempt hcovers (fun _ => True)
      trivial fun s hs hcovers _ =>
        runProjectionScript rest base (number + 1) hstep.builder hs hcovers

theorem runScopeStep : (step : ScopeStep) → (place : String) → {q : ι → QueryScope} →
    N.Scopes q → {s : ι → Session} → N.Sessions s →
    (N.Covers fun i => step.queries schema place (q i) (s i)) →
    (N.Names fun i => (step.run schema place (q i) (s i)).builder.tree.aliases) →
    N.Steps N.Scopes (fun i => step.run schema place (q i) (s i))
      fun i => step.queries schema place (q i) (s i)
  | .project steps, place, q, hq, s, hs, hcovers, _ => by
    simp only [ScopeStep.run, ScopeStep.queries] at hcovers ⊢
    exact (runProjectionScript steps _ 0 hq.clauses.projection hs hcovers).finished _ fun _ hp =>
      { hq with clauses := { hq.clauses with projection := hp } }
  | .filter steps, place, q, hq, s, hs, hcovers, _ => by
    simp only [ScopeStep.run, ScopeStep.queries] at hcovers ⊢
    exact (runPredicateScript steps _ 0 hq.clauses.filter hs hcovers).finished _ fun _ hp =>
      { hq with clauses := { hq.clauses with filter := hp } }
  | .having steps, place, q, hq, s, hs, hcovers, _ => by
    simp only [ScopeStep.run, ScopeStep.queries] at hcovers ⊢
    exact (runPredicateScript steps _ 0 hq.clauses.having hs hcovers).finished _ fun _ hp =>
      { hq with clauses := { hq.clauses with having := hp } }
  | .expr steps saveAs, place, q, hq, s, hs, hcovers, _ => by
    simp only [ScopeStep.run, ScopeStep.queries] at hcovers ⊢
    exact finishExpr hq saveAs (runProjectionScript steps _ 0 (.start hq.source true) hs hcovers)
  | .join kind model aliasName steps, place, q, hq, s, hs, hcovers, hnames => by
    simp only [ScopeStep.run, ScopeStep.queries, QueryScope.tree_finishJoin] at hcovers hnames ⊢
    -- the scope of the join is one of those that its script leaves
    have hopen := hq.openJoin kind model (aliasName.getD model.defaultAlias)
      (fun i => (s i).counters) (hnames.mono fun i =>
        (steps.becomes schema (place ++ ".") 0 _ _).scope.keeps_aliases)
    exact finishJoin hq (runJoinScript steps (place ++ ".") 0 hopen ⟨hs.saved, hs.log⟩ hcovers
      hnames)
  | .call before c, place, q, hq, s, hs, hcovers, _ => by
    simp only [ScopeStep.run, ScopeStep.queries] at hcovers ⊢
    exact (runPreparation before .nil hs hcovers).call hq (fun fragments q => c.perform fragments q)
      fun hfs => performScopeCall hfs c hq

theorem runJoinScript : (steps : JoinScript) → (base : String) → (number : Nat) →
    {j : ι → Join} → N.Joins j → {s : ι → Session} → N.Sessions s →
    (N.Covers fun i => steps.queries schema base number (j i) (s i)) →
    (N.Names fun i => (steps.run schema base number (j i) (s i)).builder.scope.tree.aliases) →
    N.Runs N.Joins (fun i => steps.run schema base number (j i) (s i))
      fun i => steps.queries schema base number (j i) (s i)
  | .done, base, number, j, hj, s, hs, _, _ => ⟨.ok trivial, hj, hs, .nil⟩
  | .scoped attempt step rest, base, number, j, hj, s, hs, hcovers, hnames => by
    simp only [JoinScript.run, JoinScript.queries] at hcovers hnames ⊢
    have hscope : N.Names fun i =>
        (step.run schema (base ++ toString number) (j i).scope (s i)).builder.tree.aliases := by
      refine hnames.mono fun i => Finished.keeps_aliases Join.scope ?_ fun s =>
        (rest.becomes schema base (number + 1) _ s).scope
      exact List.prefix_rfl
    have hstep := (runScopeStep step _ hj.scope hs hcovers.left hscope).within
      (S := N.Joins) (fun i scope => { j i with scope }) fun _ hq => { hj with scope := hq }
    exact hstep.andThen _ (fun _ _ => .text _) attempt hcovers
      (fun j => N.Names fun i => (j i).scope.tree.aliases) hnames fun s hs hcovers hnames =>
        runJoinScript rest base (number + 1) hstep.builder hs hcovers hnames
  | .on attempt steps rest, base, number, j, hj, s, hs, hcovers, hnames => by
    simp only [JoinScript.run, JoinScript.queries] at hcovers hnames ⊢
    have hstep := (runPredicateScript steps _ 0 hj.condition hs hcovers.left).finished
      (S := N.Joins) (fun i condition => { j i with condition })
      fun _ hp => { hj with condition := hp }
    exact hstep.andThen _ (fun _ _ => .text _) attempt hcovers
      (fun j => N.Names fun i => (j i).scope.tree.aliases) hnames fun s hs hcovers hnames =>
        runJoinScript rest base (number + 1) hstep.builder hs hcovers hnames
  | .call attempt before c rest, base, number, j, hj, s, hs, hcovers, hnames => by
    simp only [JoinScript.run, JoinScript.queries] at hcovers hnames ⊢
    have hbefore := runPreparation before .nil hs hcovers.left
    have hstep : N.Steps N.Joins (fun i => Finished.ofPrepared (j i)
        (before.run schema [] (s i)) fun fragments s => c.perform fragments (j i) s)
        fun i => before.queries schema [] (s i) :=
      hbefore.step hj fun fs s hfs hs => performJoinCall hfs hs hbefore.queries c hj
    exact hstep.andThen _ (fun _ _ => .text _) attempt hcovers
      (fun j => N.Names fun i => (j i).scope.tree.aliases) hnames fun s hs hcovers hnames =>
        runJoinScript rest base (number + 1) hstep.builder hs hcovers hnames

theorem runQueryScript : (steps : QueryScript) → (base : String) → (number : Nat) →
    {q : ι → Query} → N.Queries q → {s : ι → Session} → N.Sessions s →
    (N.Covers fun i => steps.queries schema base number (q i) (s i)) →
    (N.Names fun i => (steps.run schema base number (q i) (s i)).builder.scope.tree.aliases) →
    N.Runs N.Queries (fun i => steps.run schema base number (q i) (s i))
      fun i => steps.queries schema base number (q i) (s i)
  | .done, base, number, q, hq, s, hs, _, _ => ⟨.ok trivial, hq, hs, .nil⟩
  | .scoped attempt step rest, base, number, q, hq, s, hs, hcovers, hnames => by
    simp only [QueryScript.run, QueryScript.queries] at hcovers hnames ⊢
    have hscope : N.Names fun i =>
        (step.run schema (base ++ toString number) (q i).scope (s i)).builder.tree.aliases := by
      refine hnames.mono fun i => Finished.keeps_aliases Query.scope ?_ fun s =>
        rest.becomes schema base (number + 1) _ s
      exact List.prefix_rfl
    have hstep := (runScopeStep step _ hq.scope hs hcovers.left hscope).within
      (S := N.Queries) (fun i scope => { q i with scope }) fun _ hr => { hq with scope := hr }
    exact hstep.andThen _ (fun _ hq => .fragment hq.compile) attempt hcovers
      (fun q => N.Names fun i => (q i).scope.tree.aliases) hnames fun s hs hcovers hnames =>
        runQueryScript rest base (number + 1) hstep.builder hs hcovers hnames
  | .call attempt before c rest, base, number, q, hq, s, hs, hcovers, hnames => by
    simp only [QueryScript.run, QueryScript.queries] at hcovers hnames ⊢
    have hbefore := runPreparation before .nil hs hcovers.left
    have hstep : N.Steps N.Queries (fun i => Finished.ofPrepared (q i)
        (before.run schema [] (s i)) fun fragments s => c.perform fragments (q i) s)
        fun i => before.queries schema [] (s i) :=
      hbefore.step hq fun fs s hfs hs => performQueryCall hfs hs hbefore.queries c hq
    exact hstep.andThen _ (fun _ hq => .fragment hq.compile) attempt hcovers
      (fun q => N.Names fun i => (q i).scope.tree.aliases) hnames fun s hs hcovers hnames =>
        runQueryScript rest base (number + 1) hstep.builder hs hcovers hnames

end

end Naming

end SqlCompose
