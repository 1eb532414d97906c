import SqlCompose.Proofs.Query.Declarations
import SqlCompose.Proofs.Script.Calls
import SqlCompose.Proofs.Script.Finding
import SqlCompose.Script.Program

/-! Programs whose accessors are used on the models that they belong to. If accessors can be
resolved there, no step of any builder reports that a property is unknown. -/

namespace SqlCompose

/-! ### Runs -/

/-- No error in a list is the report of an unknown property. -/
def KnowsAll (errors : List Error) : Prop :=
  ∀ e ∈ errors, ¬ e.IsUnknownProperty

theorem knowsAll_append {l l' : List Error} :
    KnowsAll (l ++ l') ↔ KnowsAll l ∧ KnowsAll l' :=
  List.forall_mem_append

theorem knowsAll_nil : KnowsAll [] :=
  nofun

def Report.errors : Report → List Error
  | failure e => [e]
  | _ => []

/-- The error that a computation has ended in. -/
def errorOf {α : Type} : Except Error α → List Error
  | .ok _ => []
  | .error e => [e]

/-- The errors that a step has ended in or shown. -/
def resultErrors : Except Error (Option Report) → List Error
  | .ok output => output.elim [] Report.errors
  | .error e => [e]

def Entry.errors (e : Entry) : List Error :=
  resultErrors e.result ++ e.state.errors

def Session.errors (s : Session) : List Error :=
  s.log.flatMap Entry.errors

/-- All errors of a run, with those that its builder shows at the end. -/
def Run.errors {β : Type} (report : β → Report) (r : Run β) : List Error :=
  errorOf r.result ++ (report r.builder).errors ++ r.session.errors

theorem Finds.knowsAll {α : Type} {x : Except Error α} (h : Finds x) : KnowsAll (errorOf x) := by
  cases x with
  | ok _ => exact knowsAll_nil
  | error e => exact List.forall_mem_singleton.mpr (h e rfl)

theorem Session.errors_record (s : Session) (e : Entry) :
    (s.record e).errors = e.errors ++ s.errors := rfl

theorem Session.errors_save (s : Session) (name? : Option String) (f : Fragment) :
    (s.save name? f).errors = s.errors := by
  cases name? <;> rfl

/-- A step without such a report, on a builder of which something is known. -/
structure Finished.Knows {β : Type} (P : β → Prop) (f : Finished β) : Prop where
  result : KnowsAll (resultErrors f.result)
  builder : P f.builder
  session : KnowsAll f.session.errors

structure Run.Knows {β : Type} (P : β → Prop) (r : Run β) : Prop where
  result : Finds r.result
  builder : P r.builder
  session : KnowsAll r.session.errors

section

variable {β γ : Type} {P : β → Prop} {Q : γ → Prop}

theorem Run.Knows.errors {r : Run β} (h : r.Knows P) {report : β → Report}
    (hreport : ∀ b, P b → KnowsAll (report b).errors) : KnowsAll (r.errors report) := by
  rw [Run.errors, knowsAll_append, knowsAll_append]
  exact ⟨⟨h.result.knowsAll, hreport _ h.builder⟩, h.session⟩

theorem Run.Knows.finished {r : Run β} (h : r.Knows P) {put : β → γ} (hput : ∀ b, P b → Q (put b)) :
    (r.finished put).Knows Q := by
  refine ⟨?_, hput _ h.builder, h.session⟩
  obtain ⟨result, b, s⟩ := r
  cases result with
  | ok _ => exact knowsAll_nil
  | error e => exact List.forall_mem_singleton.mpr (h.result e rfl)

namespace Finished.Knows

theorem within {f : Finished β} (h : f.Knows P) {put : β → γ} (hput : ∀ b, P b → Q (put b)) :
    (f.within put).Knows Q :=
  ⟨h.result, hput _ h.builder, h.session⟩

/-- A step and what comes after it. -/
theorem andThen {f : Finished β} (h : f.Knows P) (place : String) {state : β → Report}
    (hstate : ∀ b, P b → KnowsAll (state b).errors) (attempt : Bool) {next : β → Session → Run β}
    (hnext : ∀ b s, P b → KnowsAll s.errors → (next b s).Knows P) :
    (f.andThen place state attempt next).Knows P := by
  obtain ⟨result, b, s⟩ := f
  obtain ⟨hresult, hb, hs⟩ := h
  have hrecord : KnowsAll (s.record ⟨place, result, state b⟩).errors := by
    rw [Session.errors_record, knowsAll_append, Entry.errors, knowsAll_append]
    exact ⟨⟨hresult, hstate b hb⟩, hs⟩
  cases result with
  | ok _ => exact hnext _ _ hb hrecord
  | error e =>
    cases attempt with
    | true => exact hnext _ _ hb hrecord
    | false => exact ⟨.error (hresult e List.mem_cons_self), hb, hrecord⟩

theorem ofCall {b : β} (hb : P b) {s : Session} (hs : KnowsAll s.errors)
    {x : Except Error (β × Option Report)} (hx : Finds x)
    (hok : ∀ c out, x = .ok (c, out) → P c ∧ KnowsAll (out.elim [] Report.errors)) :
    (Finished.ofCall b s x).Knows P := by
  cases x with
  | error e => exact ⟨List.forall_mem_singleton.mpr (hx e rfl), hb, hs⟩
  | ok r => exact ⟨(hok r.1 r.2 rfl).2, (hok r.1 r.2 rfl).1, hs⟩

theorem ofPrepared {b : β} (hb : P b) {prepared : Except Error (List Fragment) × Session}
    (hprepared : Finds prepared.1 ∧ KnowsAll prepared.2.errors)
    {call : List Fragment → Session → Finished β}
    (hcall : ∀ fragments s, KnowsAll s.errors → (call fragments s).Knows P) :
    (Finished.ofPrepared b prepared call).Knows P := by
  obtain ⟨_ | fragments, s⟩ := prepared
  · exact ⟨List.forall_mem_singleton.mpr (hprepared.1 _ rfl), hb, hprepared.2⟩
  · exact hcall fragments s hprepared.2

end Finished.Knows

end

/-! ### Builders -/

def Predicate.On (schema : Schema) (m : Model) (p : Predicate) : Prop :=
  p.source.Describes schema m

def Projection.On (schema : Schema) (m : Model) (p : Projection) : Prop :=
  p.source.Describes schema m

/-- A scope all of whose clauses are about its own table. -/
structure QueryScope.On (schema : Schema) (m : Model) (q : QueryScope) : Prop where
  source : q.source.Describes schema m
  filter : q.clauses.filter.On schema m
  projection : q.clauses.projection.On schema m
  having : q.clauses.having.On schema m

structure Join.On (schema : Schema) (parent m : Model) (j : Join) : Prop where
  scope : j.scope.On schema m
  parent : j.parent.Describes schema parent
  condition : j.condition.On schema m

def Query.On (schema : Schema) (m : Model) (q : Query) : Prop :=
  q.scope.On schema m

section

variable {schema : Schema} {m : Model}

theorem QueryScope.On.start {source : Source} (h : source.Describes schema m) (tree : AliasTree)
    (number : Nat) : (QueryScope.start tree number source).On schema m :=
  ⟨h, h, h, h⟩

theorem QueryHead.start_on (schema : Schema) (head : QueryHead) :
    (head.start schema).On schema head.model := by
  have haliased (aliasName : String) :
      (Query.aliased schema head.model aliasName head.counter).On schema head.model :=
    ⟨⟨rfl, rfl⟩, ⟨rfl, rfl⟩, ⟨rfl, rfl⟩, ⟨rfl, rfl⟩⟩
  rw [start]
  split <;> exact haliased _

theorem QueryScope.On.openJoin {q : QueryScope} (h : q.On schema m) (kind : JoinKind)
    (model : Model) (proposal : String) (cs : Counters) :
    (q.openJoin kind model proposal cs).1.On schema m model :=
  have hsource : Source.Describes ⟨q.source.schema, model, _⟩ schema model :=
    ⟨h.source.schema_eq, rfl⟩
  ⟨.start hsource _ _, h.source, hsource⟩

theorem QueryScope.On.attach {q : QueryScope} (h : q.On schema m) (j : Join) :
    (q.attach j).On schema m where
  source := h.source
  filter := by
    rw [Predicate.On, clauses_attach, Clauses.merge, Predicate.source_absorb]
    exact h.filter
  projection := h.projection
  having := by
    rw [Predicate.On, clauses_attach, Clauses.merge, Predicate.source_absorb]
    exact h.having

theorem PredicateCall.on_apply {c : PredicateCall} {fragments : List Fragment}
    {p q : Predicate} (hp : p.On schema m) (h : c.apply fragments p = .ok q) : q.On schema m := by
  obtain ⟨calls⟩ := becomes h
  rw [Predicate.On, calls.source_eq]
  exact hp

theorem ProjectionCall.on_change {c : ProjectionCall} {fragments : List Fragment}
    {p q : Projection} (hp : p.On schema m) (h : c.change fragments p = .ok q) :
    q.On schema m := by
  obtain ⟨calls⟩ := becomes h
  rw [Projection.On, calls.source_eq]
  exact hp

theorem ScopeCall.on_perform {c : ScopeCall} {fragments : List Fragment} {q r : QueryScope}
    {out : Option Report} (hq : q.On schema m) (h : c.perform fragments q = .ok (r, out)) :
    r.On schema m := by
  cases c with
  | aliasName =>
    cases h
    exact hq
  | groupBy column =>
    obtain ⟨s, hg, h⟩ := map_ok h
    cases h
    obtain ⟨item, -, rfl⟩ := QueryScope.groupBy_ok hg
    exact ⟨hq.source, hq.filter, hq.projection, hq.having⟩
  | orderBy column order =>
    obtain ⟨s, hg, h⟩ := map_ok h
    cases h
    obtain ⟨item, -, rfl⟩ := QueryScope.orderBy_ok hg
    exact ⟨hq.source, hq.filter, hq.projection, hq.having⟩

end

/-! ### Scripts -/

section

variable {A : Model → PropertyPath → Prop} {schema : Schema}
  (hA : ∀ m path, A m path → ∃ name, schema.resolve m path = .ok name)

include hA

theorem PredicateCall.knows {c : PredicateCall} {m : Model} (hc : c.Suits A m)
    (fragments : List Fragment) {p : Predicate} (hp : p.On schema m) {s : Session}
    (hs : KnowsAll s.errors) :
    (Finished.ofCall p s (c.perform fragments p)).Knows (·.On schema m) := by
  refine .ofCall hp hs ((finds_apply hA hc fragments hp).bind fun _ _ => .ok _) fun q out h => ?_
  obtain ⟨q, hq, h⟩ := bind_ok h
  cases h
  refine ⟨on_apply hp hq, ?_⟩
  cases c with
  | observe o => cases o <;> exact knowsAll_nil
  | _ => exact knowsAll_nil

theorem ProjectionCall.knows {c : ProjectionCall} {m : Model} (hc : c.Suits A m)
    (fragments : List Fragment) {p : Projection} (hp : p.On schema m) {s : Session}
    (hs : KnowsAll s.errors) :
    (Finished.ofCall p s (c.perform fragments p)).Knows (·.On schema m) := by
  refine .ofCall hp hs ((finds_change hA hc fragments hp).bind fun _ _ => .ok _) fun q out h => ?_
  obtain ⟨q, hq, h⟩ := bind_ok h
  cases h
  refine ⟨on_change hp hq, ?_⟩
  cases c with
  | observe o => cases o <;> exact knowsAll_nil
  | _ => exact knowsAll_nil

theorem ScopeCall.knows {c : ScopeCall} {m : Model} (hc : c.Suits A m)
    (fragments : List Fragment) {q : QueryScope} (hq : q.On schema m) {s : Session}
    (hs : KnowsAll s.errors) :
    (Finished.ofCall q s (c.perform fragments q)).Knows (·.On schema m) := by
  refine .ofCall hq hs (finds_perform hA hc fragments hq.source) fun r out h => ?_
  refine ⟨on_perform hq h, ?_⟩
  cases c with
  | aliasName => cases h; exact knowsAll_nil
  | groupBy column | orderBy column order =>
    obtain ⟨_, -, h⟩ := map_ok h
    cases h
    exact knowsAll_nil

theorem JoinCall.knows {c : JoinCall} {parent m : Model} (hc : c.Suits A parent)
    (fragments : List Fragment) {j : Join} (hj : j.On schema parent m) {s : Session}
    (hs : KnowsAll s.errors) : (c.perform fragments j s).Knows (·.On schema parent m) := by
  cases c with
  | inspection => exact ⟨knowsAll_nil, hj, hs⟩
  | parent column saveAs =>
    have hcolumn := hj.parent.finds_qualify hA (hc.value fragments)
    simp only [perform, Join.parentColumn]
    cases hq : j.parent.qualify (column.value fragments) with
    | error e => exact ⟨List.forall_mem_singleton.mpr (hcolumn e hq), hj, hs⟩
    | ok f => exact ⟨knowsAll_nil, hj, by rwa [Session.errors_save]⟩

omit hA in
theorem QueryCall.knows (c : QueryCall) {m : Model} (fragments : List Fragment) {q : Query}
    (hq : q.On schema m) {s : Session} (hs : KnowsAll s.errors) :
    (c.perform fragments q s).Knows (·.On schema m) := by
  cases c with
  | compile saveAs =>
    refine ⟨knowsAll_nil, hq, ?_⟩
    show KnowsAll (s.save saveAs q.compile).errors
    rwa [Session.errors_save]
  | withCounter counter =>
    exact ⟨knowsAll_nil, ⟨hq.source, hq.filter, hq.projection, hq.having⟩, hs⟩
  | _ => exact ⟨knowsAll_nil, hq, hs⟩

omit hA in
theorem Predicate.knows_report {m : Model} (p : Predicate) (_ : p.On schema m) :
    KnowsAll p.report.errors :=
  knowsAll_nil

omit hA in
theorem Projection.knows_report {m : Model} (p : Projection) (_ : p.On schema m) :
    KnowsAll p.report.errors :=
  knowsAll_nil

omit hA in
theorem Join.knows_report {parent m : Model} (j : Join) (_ : j.On schema parent m) :
    KnowsAll j.report.errors :=
  knowsAll_nil

omit hA in
theorem Query.knows_report {m : Model} (q : Query) (_ : q.On schema m) :
    KnowsAll q.report.errors :=
  knowsAll_nil

theorem Predicate.knows_finishScope {m : Model} {p : Predicate} (hp : p.On schema m)
    {r : Run Predicate} (hr : r.Knows (·.On schema m)) :
    (p.finishScope r).Knows (·.On schema m) := by
  have hnest : Finds (p.nest r.builder.compile) := by
    rw [nest]
    split
    · exact .ok _
    · exact finds_test hA hp [] (List.forall_mem_singleton.mpr trivial)
  refine .ofCall hp hr.session (hr.result.bind fun _ _ => hnest.map _) fun q out h => ?_
  obtain ⟨_, -, h⟩ := bind_ok h
  obtain ⟨q, hq, h⟩ := map_ok h
  cases h
  refine ⟨?_, knowsAll_nil⟩
  rw [nest] at hq
  split at hq
  · cases hq
    exact hp
  · rw [Predicate.On, (Calls.test (.none p) _ _ hq).source_eq]
    exact hp

omit hA in
theorem Projection.knows_finishGroup {m : Model} {p : Projection} (hp : p.On schema m)
    (aliasName : String) {r : Run Projection} (hr : r.Knows (·.On schema m)) :
    (p.finishGroup aliasName r).Knows (·.On schema m) := by
  refine .ofCall hp hr.session (hr.result.map _) fun q out h => ?_
  obtain ⟨_, -, h⟩ := map_ok h
  cases h
  exact ⟨hp, knowsAll_nil⟩

omit hA in
theorem QueryScope.knows_finishExpr {m : Model} {q : QueryScope} (hq : q.On schema m)
    (saveAs : Option String) {r : Run Projection} (hr : r.Knows (·.On schema m)) :
    (q.finishExpr saveAs r).Knows (·.On schema m) := by
  rw [finishExpr]
  split
  · exact ⟨knowsAll_nil, hq, by rw [Session.errors_save]; exact hr.session⟩
  · next e he => exact ⟨List.forall_mem_singleton.mpr (hr.result e he), hq, hr.session⟩

omit hA in
theorem QueryScope.knows_finishJoin {m model : Model} {q : QueryScope} (hq : q.On schema m)
    {r : Run Join} (hr : r.Knows (·.On schema m model)) :
    (q.finishJoin r).Knows (·.On schema m) := by
  rw [finishJoin]
  split
  · exact ⟨knowsAll_nil, hq.attach r.builder, hr.session⟩
  · next e he =>
    exact ⟨List.forall_mem_singleton.mpr (hr.result e he),
      ⟨hq.source, hq.filter, hq.projection, hq.having⟩, hr.session⟩

set_option linter.unusedSectionVars false in
mutual

theorem Preparation.knows :
    (before : Preparation) → before.Suits A → (fragments : List Fragment) → (s : Session) →
      KnowsAll s.errors → Finds (before.run schema fragments s).1 ∧
        KnowsAll (before.run schema fragments s).2.errors
  | .done, _, fragments, s, hs => ⟨.ok fragments, hs⟩
  | .saved name rest, h, fragments, s, hs => by
    rw [Preparation.run]
    split
    · exact rest.knows h _ s hs
    · exact ⟨.error id, hs⟩
  | .storable scalars rest, h, fragments, s, hs => by
    rw [Preparation.run]
    split
    · exact rest.knows h fragments s hs
    · next e he => exact ⟨.error (Finds.mapM (fun s _ => s.finds_toValue) e he), hs⟩
  | .query head steps rest, h, fragments, s, hs => by
    have hrun := steps.knows head.model h.1 "query." 0 (head.start schema)
      (QueryHead.start_on schema head) s hs
    rw [Preparation.run]
    split
    · exact rest.knows h.2 _ _ hrun.session
    · next e he => exact ⟨.error (hrun.result e he), hrun.session⟩
  | .expression model aliasName steps rest, h, fragments, s, hs => by
    have hrun := steps.knows model h.1 "expr." 0 (.expression { schema, model, aliasName })
      ⟨rfl, rfl⟩ s hs
    rw [Preparation.run]
    split
    · exact rest.knows h.2 _ _ hrun.session
    · next e he => exact ⟨.error (hrun.result e he), hrun.session⟩

theorem PredicateScript.knows :
    (steps : PredicateScript) → (m : Model) → steps.Suits A m → (base : String) →
      (number : Nat) → (p : Predicate) → p.On schema m → (s : Session) → KnowsAll s.errors →
        (steps.run schema base number p s).Knows (·.On schema m)
  | .done, m, _, base, number, p, hp, s, hs => ⟨.ok _, hp, hs⟩
  | .call attempt before c rest, m, ⟨hbefore, hc, hrest⟩, base, number, p, hp, s, hs => by
    rw [PredicateScript.run]
    have hprepared := before.knows hbefore [] s hs
    refine (Finished.Knows.ofPrepared hp hprepared fun fragments s hs =>
      PredicateCall.knows hA hc fragments hp hs).andThen _ Predicate.knows_report _ ?_
    exact fun p s hp hs => rest.knows m hrest base (number + 1) p hp s hs
  | .scope attempt steps rest, m, ⟨hsteps, hrest⟩, base, number, p, hp, s, hs => by
    rw [PredicateScript.run]
    have hrun := steps.knows m hsteps (base ++ toString number ++ ".") 0 p.nested hp s hs
    refine (Predicate.knows_finishScope hA hp hrun).andThen _ Predicate.knows_report _ ?_
    exact fun p s hp hs => rest.knows m hrest base (number + 1) p hp s hs

theorem ProjectionScript.knows :
    (steps : ProjectionScript) → (m : Model) → steps.Suits A m → (base : String) →
      (number : Nat) → (p : Projection) → p.On schema m → (s : Session) → KnowsAll s.errors →
        (steps.run schema base number p s).Knows (·.On schema m)
  | .done, m, _, base, number, p, hp, s, hs => ⟨.ok _, hp, hs⟩
  | .call attempt before c rest, m, ⟨hbefore, hc, hrest⟩, base, number, p, hp, s, hs => by
    rw [ProjectionScript.run]
    have hprepared := before.knows hbefore [] s hs
    refine (Finished.Knows.ofPrepared hp hprepared fun fragments s hs =>
      ProjectionCall.knows hA hc fragments hp hs).andThen _ Projection.knows_report _ ?_
    exact fun p s hp hs => rest.knows m hrest base (number + 1) p hp s hs
  | .group attempt aliasName steps rest, m, ⟨hsteps, hrest⟩, base, number, p, hp, s, hs => by
    rw [ProjectionScript.run]
    have hrun := steps.knows m hsteps (base ++ toString number ++ ".") 0 (.expression p.source)
      hp s hs
    refine (Projection.knows_finishGroup hp aliasName hrun).andThen _ Projection.knows_report _ ?_
    exact fun p s hp hs => rest.knows m hrest base (number + 1) p hp s hs

theorem ScopeStep.knows :
    (step : ScopeStep) → (m : Model) → step.Suits A m → (place : String) → (q : QueryScope) →
      q.On schema m → (s : Session) → KnowsAll s.errors →
        (step.run schema place q s).Knows (·.On schema m)
  | .project steps, m, h, place, q, hq, s, hs => by
    rw [ScopeStep.run]
    have hrun := steps.knows m h (place ++ ".") 0 q.clauses.projection hq.projection s hs
    exact hrun.finished fun p hp => ⟨hq.source, hq.filter, hp, hq.having⟩
  | .filter steps, m, h, place, q, hq, s, hs => by
    rw [ScopeStep.run]
    have hrun := steps.knows m h (place ++ ".") 0 q.clauses.filter hq.filter s hs
    exact hrun.finished fun p hp => ⟨hq.source, hp, hq.projection, hq.having⟩
  | .having steps, m, h, place, q, hq, s, hs => by
    rw [ScopeStep.run]
    have hrun := steps.knows m h (place ++ ".") 0 q.clauses.having hq.having s hs
    exact hrun.finished fun p hp => ⟨hq.source, hq.filter, hq.projection, hp⟩
  | .expr steps saveAs, m, h, place, q, hq, s, hs => by
    rw [ScopeStep.run]
    have hrun := steps.knows m h (place ++ ".") 0 (.expression q.source) hq.source s hs
    exact QueryScope.knows_finishExpr hq saveAs hrun
  | .join kind model aliasName steps, m, h, place, q, hq, s, hs => by
    rw [ScopeStep.run]
    have hopen := hq.openJoin kind model (aliasName.getD model.defaultAlias) s.counters
    exact QueryScope.knows_finishJoin hq (steps.knows m model h (place ++ ".") 0 _ hopen _ hs)
  | .call before c, m, h, place, q, hq, s, hs => by
    rw [ScopeStep.run]
    exact .ofPrepared hq (before.knows h.1 [] s hs) fun fragments s hs =>
      ScopeCall.knows hA h.2 fragments hq hs

theorem JoinScript.knows :
    (steps : JoinScript) → (parent m : Model) → steps.Suits A parent m → (base : String) →
      (number : Nat) → (j : Join) → j.On schema parent m → (s : Session) → KnowsAll s.errors →
        (steps.run schema base number j s).Knows (·.On schema parent m)
  | .done, parent, m, _, base, number, j, hj, s, hs => ⟨.ok _, hj, hs⟩
  | .scoped attempt step rest, parent, m, ⟨hstep, hrest⟩, base, number, j, hj, s, hs => by
    rw [JoinScript.run]
    have hscope := step.knows m hstep (base ++ toString number) j.scope hj.scope s hs
    refine Finished.Knows.andThen ?_ _ Join.knows_report _ fun j s hj hs =>
      rest.knows parent m hrest base (number + 1) j hj s hs
    exact hscope.within fun q hq => ⟨hq, hj.parent, hj.condition⟩
  | .on attempt steps rest, parent, m, ⟨hsteps, hrest⟩, base, number, j, hj, s, hs => by
    rw [JoinScript.run]
    have hrun := steps.knows m hsteps (base ++ toString number ++ ".") 0 j.condition hj.condition
      s hs
    refine Finished.Knows.andThen ?_ _ Join.knows_report _ fun j s hj hs =>
      rest.knows parent m hrest base (number + 1) j hj s hs
    exact hrun.finished fun p hp => ⟨hj.scope, hj.parent, hp⟩
  | .call attempt before c rest, parent, m, ⟨hbefore, hc, hrest⟩, base, number, j, hj, s, hs => by
    rw [JoinScript.run]
    have hprepared := before.knows hbefore [] s hs
    refine (Finished.Knows.ofPrepared hj hprepared fun fragments s hs =>
      JoinCall.knows hA hc fragments hj hs).andThen _ Join.knows_report _ ?_
    exact fun j s hj hs => rest.knows parent m hrest base (number + 1) j hj s hs

theorem QueryScript.knows :
    (steps : QueryScript) → (m : Model) → steps.Suits A m → (base : String) →
      (number : Nat) → (q : Query) → q.On schema m → (s : Session) → KnowsAll s.errors →
        (steps.run schema base number q s).Knows (·.On schema m)
  | .done, m, _, base, number, q, hq, s, hs => ⟨.ok _, hq, hs⟩
  | .scoped attempt step rest, m, ⟨hstep, hrest⟩, base, number, q, hq, s, hs => by
    rw [QueryScript.run]
    have hscope := step.knows m hstep (base ++ toString number) q.scope hq s hs
    refine Finished.Knows.andThen ?_ _ Query.knows_report _ fun q s hq hs =>
      rest.knows m hrest base (number + 1) q hq s hs
    exact hscope.within fun scope hscope => hscope
  | .call attempt before c rest, m, ⟨hbefore, hrest⟩, base, number, q, hq, s, hs => by
    rw [QueryScript.run]
    have hprepared := before.knows hbefore [] s hs
    refine (Finished.Knows.ofPrepared hq hprepared fun fragments s hs =>
      c.knows fragments hq hs).andThen _ Query.knows_report _ ?_
    exact fun q s hq hs => rest.knows m hrest base (number + 1) q hq s hs

end

/-! ### Programs -/

omit hA in
theorem FragmentCall.finds_change (c : FragmentCall) (fragments : List Fragment) (f : Fragment) :
    Finds (c.change fragments f) := by
  cases c with
  | wrap w => exact w.finds_value.bind fun _ _ => .ok _
  | _ => exact Finds.ok (α := Fragment) _

omit hA in
theorem FragmentCall.knows (c : FragmentCall) (fragments : List Fragment) (f : Fragment)
    {s : Session} (hs : KnowsAll s.errors) :
    (c.perform fragments f s).Knows fun _ => True := by
  have hcall : (Finished.ofCall f s ((c.change fragments f).map fun g =>
      (g, c.output fragments g))).Knows fun _ => True := by
    refine .ofCall trivial hs ((c.finds_change fragments f).map _) fun g out h => ⟨trivial, ?_⟩
    obtain ⟨_, -, h⟩ := map_ok h
    cases h
    cases c <;> exact knowsAll_nil
  cases c with
  | save name =>
    refine ⟨knowsAll_nil, trivial, ?_⟩
    show KnowsAll (s.save name f).errors
    rwa [Session.errors_save]
  | _ => exact hcall

theorem Fragment.knows {steps : List FragmentStep}
    (h : ∀ step ∈ steps, step.before.Suits A) (number : Nat) (f : Fragment) {s : Session}
    (hs : KnowsAll s.errors) : (run schema number steps f s).Knows fun _ => True := by
  induction steps generalizing number f s with
  | nil => exact ⟨.ok _, trivial, hs⟩
  | cons step rest ih =>
    rw [List.forall_mem_cons] at h
    have hstep := Finished.Knows.ofPrepared (b := f) (P := fun _ => True) trivial
      (step.before.knows hA h.1 [] s hs) fun fragments s hs =>
        step.call.knows fragments f hs
    have hreport (f : Fragment) (_ : True) : KnowsAll (Report.fragment f).errors := knowsAll_nil
    exact hstep.andThen _ hreport true fun f s _ hs => ih h.2 (number + 1) f hs

end

/-! ### Rows -/

section

variable (A : Model → PropertyPath → Prop) (m : Model)

def UpdateStep.Suits : UpdateStep → Prop
  | .set before column _ => before.Suits A ∧ column.Suits A m
  | .filter steps => steps.Suits A m
  | .inspection => True

def DeleteStep.Suits : DeleteStep → Prop
  | .filter steps => steps.Suits A m
  | .inspection => True

end

def RowUpdate.On (schema : Schema) (m : Model) (u : RowUpdate) : Prop :=
  u.filter.On schema m

def RowDelete.On (schema : Schema) (m : Model) (d : RowDelete) : Prop :=
  d.filter.On schema m

section

variable {A : Model → PropertyPath → Prop} {schema : Schema}
  (hA : ∀ m path, A m path → ∃ name, schema.resolve m path = .ok name) {m : Model}

theorem RowDelete.knows_report (d : RowDelete) : KnowsAll d.report.errors :=
  knowsAll_nil

theorem RowUpdate.finds_compile (u : RowUpdate) : Finds u.compile := by
  rw [compile]
  split
  · exact .error id
  · exact .ok _

theorem RowUpdate.knows_report (u : RowUpdate) : KnowsAll u.report.errors := by
  rw [report]
  cases h : u.compile with
  | ok f => exact knowsAll_nil
  | error e => exact List.forall_mem_singleton.mpr (u.finds_compile e h)

include hA

theorem RowUpdate.finds_set {u : RowUpdate} (hu : u.On schema m) {c : ColumnRef}
    (hc : c.Suits A m) (value : Scalar) :
    Finds (u.set c value) ∧ ∀ u', u.set c value = .ok u' → u'.On schema m := by
  refine ⟨(Source.Describes.finds_unqualified hA hu hc).bind fun _ _ =>
    value.finds_toValue.bind fun _ _ => .ok _, fun u' h => ?_⟩
  obtain ⟨target, -, h⟩ := bind_ok h
  obtain ⟨v, -, h⟩ := bind_ok h
  cases h
  exact hu

theorem RowUpdate.knows_step {step : UpdateStep} (h : step.Suits A m) (place : String)
    {u : RowUpdate} (hu : u.On schema m) {s : Session} (hs : KnowsAll s.errors) :
    (u.step schema place s step).Knows (·.On schema m) := by
  cases step with
  | inspection => exact ⟨knowsAll_nil, hu, hs⟩
  | filter steps =>
    exact (steps.knows hA m h (place ++ ".") 0 u.filter hu s hs).finished fun p hp => hp
  | set before column value =>
    refine .ofPrepared hu (before.knows hA h.1 [] s hs) fun fragments s hs => ?_
    obtain ⟨hset, hon⟩ := finds_set hA hu (h.2.value fragments) value
    refine .ofCall hu hs (hset.map _) fun u' out h => ?_
    obtain ⟨u', hu', h⟩ := map_ok h
    cases h
    exact ⟨hon u' hu', knowsAll_nil⟩

theorem RowUpdate.knows {steps : List UpdateStep} (h : ∀ step ∈ steps, step.Suits A m)
    (number : Nat) {u : RowUpdate} (hu : u.On schema m) {s : Session} (hs : KnowsAll s.errors) :
    (run schema number steps u s).Knows (·.On schema m) := by
  induction steps generalizing number u s with
  | nil => exact ⟨.ok _, hu, hs⟩
  | cons step rest ih =>
    rw [List.forall_mem_cons] at h
    exact (knows_step hA h.1 (toString number) hu hs).andThen _ (fun u _ => u.knows_report) true
      fun u s hu hs => ih h.2 (number + 1) hu hs

theorem RowDelete.knows {steps : List DeleteStep} (h : ∀ step ∈ steps, step.Suits A m)
    (number : Nat) {d : RowDelete} (hd : d.On schema m) {s : Session} (hs : KnowsAll s.errors) :
    (run schema number steps d s).Knows (·.On schema m) := by
  induction steps generalizing number d s with
  | nil => exact ⟨.ok _, hd, hs⟩
  | cons step rest ih =>
    rw [List.forall_mem_cons] at h
    have hstep : (d.step schema (toString number) s step).Knows (·.On schema m) := by
      cases step with
      | inspection => exact ⟨knowsAll_nil, hd, hs⟩
      | filter steps =>
        exact (steps.knows hA m h.1 (toString number ++ ".") 0 d.filter hd s hs).finished
          fun p hp => hp
    exact hstep.andThen _ (fun d _ => d.knows_report) true fun d s hd hs =>
      ih h.2 (number + 1) hd hs

omit hA in
theorem Model.finds_requirePrimaryKey (m : Model) : Finds m.requirePrimaryKey := by
  rw [requirePrimaryKey]
  split
  · exact .ok _
  · exact .error id

theorem RowDelete.finds_ofKeys (m : Model) (keys : List Scalar) :
    Finds (ofKeys schema m keys) ∧ ∀ d, ofKeys schema m keys = .ok d → d.On schema m := by
  have hon : (ofModel schema m).filter.source.Describes schema m := ⟨rfl, rfl⟩
  constructor
  · refine m.finds_requirePrimaryKey.bind fun key _ => Finds.bind ?_ fun _ _ => .ok _
    exact (Finds.mapM fun s _ => s.finds_toValue).bind fun vs _ =>
      Predicate.finds_test hA hon _ (List.forall_mem_cons.mpr
        ⟨trivial, List.forall_mem_singleton.mpr trivial⟩)
  · intro d h
    obtain ⟨key, -, h⟩ := bind_ok h
    obtain ⟨filter, hfilter, h⟩ := bind_ok h
    cases h
    obtain ⟨vs, -, htest⟩ := bind_ok hfilter
    rw [RowDelete.On, Predicate.On, (Predicate.Calls.test (.none _) _ _ htest).source_eq]
    exact hon

omit hA in
theorem Insertion.finds_rowsPerStatement (i : Insertion) : Finds i.rowsPerStatement := by
  rw [rowsPerStatement]
  split
  · exact .error id
  · split
    · exact .error id
    · exact .ok _

omit hA in
theorem Insertion.finds_compile (i : Insertion) (rows : List (List Value)) :
    Finds (i.compile rows) := by
  rw [compile]
  split
  · exact .error id
  · split
    · exact .error id
    · exact i.finds_rowsPerStatement.bind fun _ _ => .ok _

end

/-- The columns of a record's row are given by their names, and so cannot be unknown. -/
theorem RowUpdate.finds_compileRecord {ρ : Type} {T : RecordType ρ} {r : ρ}
    (hvalues : Finds (T.values r)) (hkey : Finds (T.key r)) : Finds (compileRecord T r) := by
  have hnone (m : Model) (path : PropertyPath) (h : False) :
      ∃ name, T.schema.resolve m path = .ok name := h.elim
  have hraw (name : String) : (ColumnRef.raw name).Suits (fun _ _ => False) T.model := trivial
  have hset (u : RowUpdate) (hu : u.On T.schema T.model) (p : Column × Value) :
      Finds (u.set (.raw p.1.name) (.stored p.2)) ∧
        ∀ u', u.set (.raw p.1.name) (.stored p.2) = .ok u' → u'.On T.schema T.model :=
    finds_set hnone hu (hraw p.1.name) _
  have hstart : (ofModel T.schema T.model).On T.schema T.model := ⟨rfl, rfl⟩
  refine Finds.bind ?_ fun u _ => u.finds_compile
  refine T.model.finds_requirePrimaryKey.bind fun key _ => hvalues.bind fun values _ => ?_
  refine (Finds.foldlM (fun u hu p _ => hset u hu p) hstart).bind fun u hu => ?_
  have hon : u.On T.schema T.model := foldlM_keeps (fun u hu p _ => (hset u hu p).2) hstart hu
  refine hkey.bind fun v _ => Finds.bind ?_ fun _ _ => .ok _
  exact Predicate.finds_compare hnone hon _ (hraw key.name) trivial

theorem RowDelete.finds_compileRecord {ρ : Type} {T : RecordType ρ} {r : ρ}
    (hkey : Finds (T.key r)) : Finds (compileRecord T r) := by
  refine Finds.bind (hkey.bind fun v _ => ?_) fun _ _ => .ok _
  exact (finds_ofKeys (A := fun _ _ => False) (fun _ _ h => h.elim) T.model _).1

/-- A program whose accessors are used on the models that they belong to. What records are
converted to is no matter of accessors, and must be free of unknown properties by itself. -/
def Program.Suits (A : Model → PropertyPath → Prop) : Program → Prop
  | condition model _ steps => steps.Suits A model
  | selection model _ _ steps => steps.Suits A model
  | query head steps => steps.Suits A head.model
  | composition steps => ∀ step ∈ steps, step.before.Suits A
  | update model steps => ∀ step ∈ steps, step.Suits A model
  | delete model steps | deleteKeys model _ steps => ∀ step ∈ steps, step.Suits A model
  | insert _ _ => True
  | insertRecords _ T records => ∀ r ∈ records, Finds (T.values r)
  | updateRecord T r => Finds (T.values r) ∧ Finds (T.key r)
  | deleteRecord T r => Finds (T.key r)

/-- All errors that a program meets, in its steps and at its end. -/
def Program.errors (schema : Schema) (counters : Counters) : Program → List Error
  | condition model aliasName steps =>
    (steps.run schema "" 0 { source := { schema, model, aliasName } } { counters }).errors
      Predicate.report
  | selection model aliasName isExpression steps =>
    (steps.run schema "" 0 { source := { schema, model, aliasName }, isExpression }
      { counters }).errors Projection.report
  | query head steps =>
    (steps.run schema "" 0 (head.start schema) { counters }).errors Query.report
  | composition steps => (Fragment.run schema 0 steps .empty { counters }).errors .fragment
  | update model steps =>
    (RowUpdate.run schema 0 steps (.ofModel schema model) { counters }).errors RowUpdate.report
  | delete model steps =>
    (RowDelete.run schema 0 steps (.ofModel schema model) { counters }).errors RowDelete.report
  | deleteKeys model keys steps =>
    match RowDelete.ofKeys schema model keys with
    | .ok d => (RowDelete.run schema 0 steps d { counters }).errors RowDelete.report
    | .error e => [e]
  | insert i rows => errorOf (i.compile rows)
  | insertRecords i T records => errorOf (i.compileRecords T records)
  | updateRecord T r => errorOf (RowUpdate.compileRecord T r)
  | deleteRecord T r => errorOf (RowDelete.compileRecord T r)

/-- No program reports an unknown property if the accessors in it can be resolved. -/
theorem Program.knowsAll_errors {A : Model → PropertyPath → Prop} {schema : Schema}
    (hA : ∀ m path, A m path → ∃ name, schema.resolve m path = .ok name) (counters : Counters)
    {P : Program} (h : P.Suits A) : KnowsAll (P.errors schema counters) := by
  have hfresh : KnowsAll (Session.errors { counters }) := knowsAll_nil
  cases P with
  | condition model aliasName steps =>
    exact (steps.knows hA model h "" 0 _ ⟨rfl, rfl⟩ _ hfresh).errors Predicate.knows_report
  | selection model aliasName isExpression steps =>
    exact (steps.knows hA model h "" 0 _ ⟨rfl, rfl⟩ _ hfresh).errors Projection.knows_report
  | query head steps =>
    have hstart := QueryHead.start_on schema head
    exact (steps.knows hA head.model h "" 0 _ hstart _ hfresh).errors Query.knows_report
  | composition steps =>
    exact (Fragment.knows hA h 0 .empty hfresh).errors fun _ _ => knowsAll_nil
  | update model steps =>
    exact (RowUpdate.knows hA h 0 ⟨rfl, rfl⟩ hfresh).errors fun u _ => u.knows_report
  | delete model steps =>
    exact (RowDelete.knows hA h 0 ⟨rfl, rfl⟩ hfresh).errors fun d _ => d.knows_report
  | deleteKeys model keys steps =>
    obtain ⟨hfinds, hon⟩ := RowDelete.finds_ofKeys hA model keys
    rw [errors]
    split
    · next d hd => exact (RowDelete.knows hA h 0 (hon d hd) hfresh).errors fun d _ => d.knows_report
    · next e he => exact List.forall_mem_singleton.mpr (hfinds e he)
  | insert i rows => exact (i.finds_compile rows).knowsAll
  | insertRecords i T records =>
    exact ((Finds.mapM h).bind fun rows _ => i.finds_compile rows).knowsAll
  | updateRecord T r => exact (RowUpdate.finds_compileRecord h.1 h.2).knowsAll
  | deleteRecord T r => exact (RowDelete.finds_compileRecord h).knowsAll

end SqlCompose
