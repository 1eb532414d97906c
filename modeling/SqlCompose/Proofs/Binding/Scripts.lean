import SqlCompose.Proofs.Binding.Sessions

/-! Scripts under two bindings. Scripts of the same calls, on arguments that are alike, take
builders and sessions that are alike to such again, and fail at the same step if they fail. -/

namespace SqlCompose

namespace Likeness

variable {K : Likeness}

theorem startQuery {schema : Schema} (hschema : K.PlainSchema schema) {head : QueryHead}
    (h : K.PlainHead head) : K.Queries (head.start schema) (head.start schema) := by
  have haliased {a : String} (ha : K.plain a) :
      K.Queries (.aliased schema head.model a head.counter)
        (.aliased schema head.model a head.counter) := by
    have htree : ∀ b ∈ (AliasTree.withRoot a head.counter).aliases, K.plain b := by
      simpa using K.plain_lowercase ha
    have hsource : K.PlainSource
        { schema, model := head.model
          aliasName := (AliasTree.withRoot a head.counter).aliasName 0 } :=
      ⟨plain_aliasName htree 0, h.model, hschema⟩
    exact ⟨.start htree 0 hsource, .none, .none, .none, .nil⟩
  rw [QueryHead.start]
  split
  · next a ha => exact haliased (h.aliasName a ha)
  · exact haliased h.model.aliasName

/-! ### Steps with scripts in them -/

theorem finishScope {p p' : Predicate} (hp : K.Predicates p p') {r r' : Run Predicate}
    (hr : K.Runs K.Predicates r r') :
    K.Steps K.Predicates (p.finishScope (b := K.left) r) (p'.finishScope (b := K.right) r') :=
  .ofCall hp hr.session
    (hr.result.bind fun _ _ _ => (hp.nest hr.builder).map fun _ _ hq => ⟨hq, .none⟩)

theorem finishGroup {p p' : Projection} (hp : K.Projections p p') {aliasName : String}
    (ha : K.plain aliasName) {r r' : Run Projection} (hr : K.Runs K.Projections r r') :
    K.Steps K.Projections (p.finishGroup (b := K.left) aliasName r)
      (p'.finishGroup (b := K.right) aliasName r') :=
  .ofCall hp hr.session
    (hr.result.map fun _ _ _ => ⟨hp.group ha hr.builder.compile, .none⟩)

theorem finishExpr {q q' : QueryScope} (hq : K.Scopes q q') (saveAs : Option String)
    {r r' : Run Projection} (hr : K.Runs K.Projections r r') :
    K.Steps K.Scopes (q.finishExpr saveAs r) (q'.finishExpr saveAs r') := by
  obtain ⟨result, p, s⟩ := r
  obtain ⟨result', p', s'⟩ := r'
  obtain ⟨hresult, hp, hs⟩ := hr
  cases hresult with
  | ok _ => exact ⟨.ok (.some (.fragment hp.compile)), hq, hs.save saveAs hp.compile⟩
  | error e e' => exact ⟨.error e e', hq, hs⟩

theorem finishJoin {q q' : QueryScope} (hq : K.Scopes q q') {r r' : Run Join}
    (hr : K.Runs K.Joins r r') : K.Steps K.Scopes (q.finishJoin r) (q'.finishJoin r') := by
  obtain ⟨result, j, s⟩ := r
  obtain ⟨result', j', s'⟩ := r'
  obtain ⟨hresult, hj, hs⟩ := hr
  cases hresult with
  | ok _ => exact ⟨.ok .none, hq.attach hj, hs⟩
  | error e e' => exact ⟨.error e e', hq.abandon hj, hs⟩

/-! ### Runs -/

variable {schema : Schema}

mutual

theorem runPreparation (hS : K.PlainSchema schema) {before before' : Preparation} :
    K.Preparations before before' →
    ∀ {l l' : List Fragment}, List.Forall₂ K.alike l l' →
    ∀ {s s' : Session}, K.Sessions s s' →
      K.Prepared (before.run (b := K.left) schema l s) (before'.run (b := K.right) schema l' s')
  | .done, l, l', hl, s, s', hs => ⟨.ok hl, hs⟩
  | .saved name hrest, l, l', hl, s, s', hs => by
    have hsaved := lookup hs.saved name
    simp only [Preparation.run, Session.saved?]
    generalize s.saved.lookup name = f at hsaved
    generalize s'.saved.lookup name = f' at hsaved
    cases hsaved with
    | none => exact ⟨.error _ _, hs⟩
    | some hf => exact runPreparation hS hrest (List.rel_append hl (.cons hf .nil)) hs
  | @Vocabulary.Preparations.storable _ scalars scalars' _ _ hscalars hrest,
      l, l', hl, s, s', hs => by
    have hvalues := Outcomes.mapM hscalars fun _ _ h => h
    simp only [Preparation.run]
    generalize scalars.mapM Scalar.toValue = x at hvalues
    generalize scalars'.mapM Scalar.toValue = x' at hvalues
    cases hvalues with
    | ok _ => exact runPreparation hS hrest hl hs
    | error e e' => exact ⟨.error e e', hs⟩
  | @Vocabulary.Preparations.query _ head steps steps' _ _ hhead hsteps hrest,
      l, l', hl, s, s', hs => by
    have hr := runQueryScript hS hsteps "query." 0 (startQuery hS hhead) hs
    simp only [Preparation.run]
    generalize steps.run (b := K.left) schema "query." 0 (head.start schema) s = r at hr
    generalize steps'.run (b := K.right) schema "query." 0 (head.start schema) s' = r' at hr
    obtain ⟨result, q, t⟩ := r
    obtain ⟨result', q', t'⟩ := r'
    obtain ⟨hresult, hq, ht⟩ := hr
    cases hresult with
    | ok _ =>
      exact runPreparation hS hrest (List.rel_append hl (.cons hq.compile .nil)) ht
    | error e e' => exact ⟨.error e e', ht⟩
  | @Vocabulary.Preparations.expression _ model aliasName steps steps' _ _ hmodel halias
      hsteps hrest, l, l', hl, s, s', hs => by
    have hsource : K.PlainSource { schema, model, aliasName } := ⟨halias, hmodel, hS⟩
    have hr := runProjectionScript hS hsteps "expr." 0 (.expression hsource rfl) hs
    simp only [Preparation.run]
    generalize steps.run (b := K.left) schema "expr." 0 (.expression _) s = r at hr
    generalize steps'.run (b := K.right) schema "expr." 0 (.expression _) s' = r' at hr
    obtain ⟨result, p, t⟩ := r
    obtain ⟨result', p', t'⟩ := r'
    obtain ⟨hresult, hp, ht⟩ := hr
    cases hresult with
    | ok _ =>
      exact runPreparation hS hrest (List.rel_append hl (.cons hp.compile .nil)) ht
    | error e e' => exact ⟨.error e e', ht⟩

theorem runPredicateScript (hS : K.PlainSchema schema) {steps steps' : PredicateScript} :
    K.PredicateScripts steps steps' →
    ∀ (base : String) (number : Nat) {p p' : Predicate}, K.Predicates p p' →
    ∀ {s s' : Session}, K.Sessions s s' →
      K.Runs K.Predicates (steps.run (b := K.left) schema base number p s)
        (steps'.run (b := K.right) schema base number p' s')
  | .done, _, _, _, _, hp, _, _, hs => ⟨.ok trivial, hp, hs⟩
  | .call attempt hbefore hcall hrest, base, number, p, p', hp, s, s', hs => by
    simp only [PredicateScript.run]
    refine Steps.andThen ?_ _ (fun _ _ hq => .fragment hq.body) attempt
      fun _ _ _ _ hq hs => runPredicateScript hS hrest base (number + 1) hq hs
    refine (runPreparation hS hbefore .nil hs).step hp fun l l' s s' hl hs => ?_
    exact .ofCall hp hs (performPredicateCall hl hcall hp)
  | .scope attempt hsteps hrest, base, number, p, p', hp, s, s', hs => by
    simp only [PredicateScript.run]
    refine Steps.andThen ?_ _ (fun _ _ hq => .fragment hq.body) attempt
      fun _ _ _ _ hq hs => runPredicateScript hS hrest base (number + 1) hq hs
    exact finishScope hp (runPredicateScript hS hsteps _ 0 hp.nested hs)

theorem runProjectionScript (hS : K.PlainSchema schema) {steps steps' : ProjectionScript} :
    K.ProjectionScripts steps steps' →
    ∀ (base : String) (number : Nat) {p p' : Projection}, K.Projections p p' →
    ∀ {s s' : Session}, K.Sessions s s' →
      K.Runs K.Projections (steps.run (b := K.left) schema base number p s)
        (steps'.run (b := K.right) schema base number p' s')
  | .done, _, _, _, _, hp, _, _, hs => ⟨.ok trivial, hp, hs⟩
  | .call attempt hbefore hcall hrest, base, number, p, p', hp, s, s', hs => by
    simp only [ProjectionScript.run]
    refine Steps.andThen ?_ _ (fun _ _ hq => .fragment hq.compile) attempt
      fun _ _ _ _ hq hs => runProjectionScript hS hrest base (number + 1) hq hs
    refine (runPreparation hS hbefore .nil hs).step hp fun l l' s s' hl hs => ?_
    exact .ofCall hp hs (performProjectionCall hl hcall hp)
  | .group attempt halias hsteps hrest, base, number, p, p', hp, s, s', hs => by
    simp only [ProjectionScript.run]
    refine Steps.andThen ?_ _ (fun _ _ hq => .fragment hq.compile) attempt
      fun _ _ _ _ hq hs => runProjectionScript hS hrest base (number + 1) hq hs
    have hgroup := Projections.expression hp.source hp.source_eq
    exact finishGroup hp halias (runProjectionScript hS hsteps _ 0 hgroup hs)

theorem runScopeStep (hS : K.PlainSchema schema) {step step' : ScopeStep} :
    K.ScopeSteps step step' →
    ∀ (place : String) {q q' : QueryScope}, K.Scopes q q' →
    ∀ {s s' : Session}, K.Sessions s s' →
      K.Steps K.Scopes (step.run (b := K.left) schema place q s)
        (step'.run (b := K.right) schema place q' s')
  | .project hsteps, place, q, q', hq, s, s', hs => by
    simp only [ScopeStep.run]
    refine (runProjectionScript hS hsteps _ 0 hq.clauses.projection hs).finished fun p p' hp => ?_
    exact { hq with clauses := { hq.clauses with projection := hp } }
  | .filter hsteps, place, q, q', hq, s, s', hs => by
    simp only [ScopeStep.run]
    refine (runPredicateScript hS hsteps _ 0 hq.clauses.filter hs).finished fun p p' hp => ?_
    exact { hq with clauses := { hq.clauses with filter := hp } }
  | .having hsteps, place, q, q', hq, s, s', hs => by
    simp only [ScopeStep.run]
    refine (runPredicateScript hS hsteps _ 0 hq.clauses.having hs).finished fun p p' hp => ?_
    exact { hq with clauses := { hq.clauses with having := hp } }
  | .expr saveAs hsteps, place, q, q', hq, s, s', hs => by
    simp only [ScopeStep.run]
    have hp := Projections.expression hq.source hq.source_eq
    exact finishExpr hq saveAs (runProjectionScript hS hsteps _ 0 hp hs)
  | @Vocabulary.ScopeSteps.join _ kind model aliasName _ _ hmodel halias hsteps,
      place, q, q', hq, s, s', hs => by
    simp only [ScopeStep.run]
    have hproposal : K.plain (aliasName.getD model.defaultAlias) := by
      cases aliasName with
      | none => exact hmodel.aliasName
      | some a => exact halias a rfl
    obtain ⟨heq, hj⟩ := hq.openJoin kind hmodel hproposal s.counters
    rw [hs.counters_eq, heq]
    exact finishJoin hq (runJoinScript hS hsteps _ 0 hj { hs with counters_eq := rfl })
  | .call hbefore hcall, place, q, q', hq, s, s', hs => by
    simp only [ScopeStep.run]
    refine (runPreparation hS hbefore .nil hs).step hq fun l l' s s' hl hs => ?_
    exact .ofCall hq hs (performScopeCall hl hcall hq)

theorem runJoinScript (hS : K.PlainSchema schema) {steps steps' : JoinScript} :
    K.JoinScripts steps steps' →
    ∀ (base : String) (number : Nat) {j j' : Join}, K.Joins j j' →
    ∀ {s s' : Session}, K.Sessions s s' →
      K.Runs K.Joins (steps.run (b := K.left) schema base number j s)
        (steps'.run (b := K.right) schema base number j' s')
  | .done, _, _, _, _, hj, _, _, hs => ⟨.ok trivial, hj, hs⟩
  | .scoped attempt hstep hrest, base, number, j, j', hj, s, s', hs => by
    simp only [JoinScript.run]
    refine Steps.andThen ?_ _ (fun _ _ _ => .text _ _) attempt
      fun _ _ _ _ hj hs => runJoinScript hS hrest base (number + 1) hj hs
    exact (runScopeStep hS hstep _ hj.scope hs).within fun _ _ hq => { hj with scope := hq }
  | .on attempt hsteps hrest, base, number, j, j', hj, s, s', hs => by
    simp only [JoinScript.run]
    refine Steps.andThen ?_ _ (fun _ _ _ => .text _ _) attempt
      fun _ _ _ _ hj hs => runJoinScript hS hrest base (number + 1) hj hs
    exact (runPredicateScript hS hsteps _ 0 hj.condition hs).finished fun _ _ hp =>
      { hj with condition := hp }
  | .call attempt hbefore hcall hrest, base, number, j, j', hj, s, s', hs => by
    simp only [JoinScript.run]
    refine Steps.andThen ?_ _ (fun _ _ _ => .text _ _) attempt
      fun _ _ _ _ hj hs => runJoinScript hS hrest base (number + 1) hj hs
    exact (runPreparation hS hbefore .nil hs).step hj fun _ _ _ _ hl hs =>
      performJoinCall hl hcall hj hs

theorem runQueryScript (hS : K.PlainSchema schema) {steps steps' : QueryScript} :
    K.QueryScripts steps steps' →
    ∀ (base : String) (number : Nat) {q q' : Query}, K.Queries q q' →
    ∀ {s s' : Session}, K.Sessions s s' →
      K.Runs K.Queries (steps.run (b := K.left) schema base number q s)
        (steps'.run (b := K.right) schema base number q' s')
  | .done, _, _, _, _, hq, _, _, hs => ⟨.ok trivial, hq, hs⟩
  | .scoped attempt hstep hrest, base, number, q, q', hq, s, s', hs => by
    simp only [QueryScript.run]
    refine Steps.andThen ?_ _ (fun _ _ hr => .fragment hr.compile) attempt
      fun _ _ _ _ hr hs => runQueryScript hS hrest base (number + 1) hr hs
    exact (runScopeStep hS hstep _ hq.scope hs).within fun _ _ hr => { hq with scope := hr }
  | .call attempt hbefore hcall hrest, base, number, q, q', hq, s, s', hs => by
    simp only [QueryScript.run]
    refine Steps.andThen ?_ _ (fun _ _ hr => .fragment hr.compile) attempt
      fun _ _ _ _ hr hs => runQueryScript hS hrest base (number + 1) hr hs
    exact (runPreparation hS hbefore .nil hs).step hq fun _ _ _ _ hl hs =>
      performQueryCall hl hcall hq hs

end

end Likeness

end SqlCompose
