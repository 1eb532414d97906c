import SqlCompose.Proofs.Script.Steps

/-! What a failure leaves behind. The calls of a script that succeeded, made again one after the
other, give the builder that the script has left, whether its other calls failed and were passed
over or ended it. A join that fails leaves nothing but its scopes in the tree of aliases. -/

namespace SqlCompose

/-! ### Calls that succeeded -/

/-- Calls on a builder, each with the fragments that were built for it. The calls on a nested
builder come before the call that adds it. -/
inductive Made (κ ν : Type) where
  | done
  | call (fragments : List Fragment) (c : κ) (rest : Made κ ν)
  | nested (name : ν) (inside rest : Made κ ν)

/-- Makes the calls again, one after the other. All of them have to succeed. -/
def Made.replay {κ ν β : Type} (call : List Fragment → β → κ → Except Error β) (start : β → β)
    (add : β → ν → β → Except Error β) : Made κ ν → β → Except Error β
  | done, b => .ok b
  | .call fragments c rest, b => do rest.replay call start add (← call fragments b c)
  | nested name inside rest, b => do
    let n ← inside.replay call start add (start b)
    rest.replay call start add (← add b name n)

/-- The calls on a condition, and on the conditions nested in it. -/
abbrev Predicate.Made := SqlCompose.Made PredicateCall Unit

def Predicate.Made.replay (made : Predicate.Made) (p : Predicate) : Except Error Predicate :=
  SqlCompose.Made.replay PredicateCall.apply nested (fun p _ n => p.nest n.compile) made p

/-- The calls on a projection, and on the groups in it, which have names. -/
abbrev Projection.Made := SqlCompose.Made ProjectionCall String

def Projection.Made.replay (made : Projection.Made) (p : Projection) : Except Error Projection :=
  SqlCompose.Made.replay ProjectionCall.change (fun p => .expression p.source)
    (fun p name n => .ok (p.group name n.compile)) made p

/-- The calls of a script that succeed when it is run, in order. -/
def PredicateScript.made (schema : Schema) :
    PredicateScript → (base : String) → (number : Nat) → Predicate → Session → Predicate.Made
  | .done, _, _, _, _ => .done
  | .call attempt before c rest, base, number, p, s =>
    let prepared := before.run schema [] s
    let f := Finished.ofPrepared p prepared fun fragments s => .ofCall p s (c.perform fragments p)
    f.keep (.call (prepared.1.toOption.getD []) c) <|
      f.follow (base ++ toString number) Predicate.report attempt .done
        fun p s => rest.made schema base (number + 1) p s
  | .scope attempt steps rest, base, number, p, s =>
    let place := base ++ toString number
    let f := p.finishScope (steps.run schema (place ++ ".") 0 p.nested s)
    f.keep (.nested () (steps.made schema (place ++ ".") 0 p.nested s)) <|
      f.follow place Predicate.report attempt .done
        fun p s => rest.made schema base (number + 1) p s

def ProjectionScript.made (schema : Schema) :
    ProjectionScript → (base : String) → (number : Nat) → Projection → Session → Projection.Made
  | .done, _, _, _, _ => .done
  | .call attempt before c rest, base, number, p, s =>
    let prepared := before.run schema [] s
    let f := Finished.ofPrepared p prepared fun fragments s => .ofCall p s (c.perform fragments p)
    f.keep (.call (prepared.1.toOption.getD []) c) <|
      f.follow (base ++ toString number) Projection.report attempt .done
        fun p s => rest.made schema base (number + 1) p s
  | .group attempt aliasName steps rest, base, number, p, s =>
    let place := base ++ toString number
    let f := p.finishGroup aliasName (steps.run schema (place ++ ".") 0 (.expression p.source) s)
    f.keep (.nested aliasName (steps.made schema (place ++ ".") 0 (.expression p.source) s)) <|
      f.follow place Projection.report attempt .done
        fun p s => rest.made schema base (number + 1) p s

/-! ### Replays -/

theorem Predicate.Made.replay_call {fragments : List Fragment} {c : PredicateCall} {p q : Predicate}
    (h : c.apply fragments p = .ok q) (rest : Predicate.Made) :
    Predicate.Made.replay (.call fragments c rest) p = rest.replay q := by
  show (c.apply fragments p >>= rest.replay) = _
  rw [h]
  rfl

theorem Predicate.Made.replay_nested {inside : Predicate.Made} {p n q : Predicate}
    (hn : inside.replay p.nested = .ok n) (h : p.nest n.compile = .ok q) (rest : Predicate.Made) :
    Predicate.Made.replay (.nested () inside rest) p = rest.replay q := by
  show (inside.replay p.nested >>= fun n => p.nest n.compile >>= rest.replay) = _
  rw [hn]
  show (p.nest n.compile >>= rest.replay) = _
  rw [h]
  rfl

theorem Projection.Made.replay_call {fragments : List Fragment} {c : ProjectionCall}
    {p q : Projection} (h : c.change fragments p = .ok q) (rest : Projection.Made) :
    Projection.Made.replay (.call fragments c rest) p = rest.replay q := by
  show (c.change fragments p >>= rest.replay) = _
  rw [h]
  rfl

theorem Projection.Made.replay_nested {inside : Projection.Made} {p n : Projection}
    (hn : inside.replay (.expression p.source) = .ok n) (name : String) (rest : Projection.Made) :
    Projection.Made.replay (.nested name inside rest) p = rest.replay (p.group name n.compile) := by
  show (inside.replay (.expression p.source) >>= fun n => rest.replay (p.group name n.compile)) = _
  rw [hn]
  rfl

/-- If a step is made again in the same way and leaves the same builder, and so do the steps after
it, then all of them together do. -/
theorem Finished.replay_keep {μ β : Type} {replay : μ → β → Except Error β} {b : β} {f : Finished β}
    {put : μ → μ} {place : String} {state : β → Report} {attempt : Bool} {stop : μ}
    {next : β → Session → μ} {run : β → Session → Run β}
    (hf : (∃ out, f.result = .ok out ∧ ∀ rest, replay (put rest) b = replay rest f.builder) ∨
      ((∃ e, f.result = .error e) ∧ f.builder = b))
    (hstop : replay stop f.builder = .ok f.builder)
    (hnext : ∀ s, replay (next f.builder s) f.builder = .ok (run f.builder s).builder) :
    replay (f.keep put (f.follow place state attempt stop next)) b =
      .ok (f.andThen place state attempt run).builder := by
  have hrest : replay (f.follow place state attempt stop next) f.builder =
      .ok (f.andThen place state attempt run).builder :=
    andThen_follow (R := fun made c => replay made f.builder = .ok c) hstop hnext
  rcases hf with ⟨out, hresult, hput⟩ | ⟨⟨e, hresult⟩, hsame⟩
  · rw [keep_ok hresult, hput, hrest]
  · rw [keep_error hresult, ← hsame, hrest]

theorem PredicateScript.replay_made (schema : Schema) :
    (steps : PredicateScript) → (base : String) → (number : Nat) → (p : Predicate) →
      (s : Session) →
      (steps.made schema base number p s).replay p = .ok (steps.run schema base number p s).builder
  | .done, _, _, _, _ => rfl
  | .call attempt before c rest, base, number, p, s => by
    rw [PredicateScript.made, PredicateScript.run]
    refine Finished.replay_keep ?_ rfl fun s => rest.replay_made schema base (number + 1) _ s
    refine (Finished.ofPrepared_cases p (before.run schema [] s) (c.perform · p)).imp_left ?_
    rintro ⟨out, hresult, hcall⟩
    obtain ⟨q, hq, h⟩ := bind_ok hcall
    cases h
    exact ⟨_, hresult, Predicate.Made.replay_call hq⟩
  | .scope attempt steps rest, base, number, p, s => by
    rw [PredicateScript.made, PredicateScript.run]
    refine Finished.replay_keep ?_ rfl fun s => rest.replay_made schema base (number + 1) _ s
    have hinside := steps.replay_made schema (base ++ toString number ++ ".") 0 p.nested s
    refine (Predicate.finishScope_cases p _).imp_left ?_
    rintro ⟨out, hresult, hnest⟩
    exact ⟨out, hresult, Predicate.Made.replay_nested hinside hnest⟩

theorem ProjectionScript.replay_made (schema : Schema) :
    (steps : ProjectionScript) → (base : String) → (number : Nat) → (p : Projection) →
      (s : Session) →
      (steps.made schema base number p s).replay p = .ok (steps.run schema base number p s).builder
  | .done, _, _, _, _ => rfl
  | .call attempt before c rest, base, number, p, s => by
    rw [ProjectionScript.made, ProjectionScript.run]
    refine Finished.replay_keep ?_ rfl fun s => rest.replay_made schema base (number + 1) _ s
    refine (Finished.ofPrepared_cases p (before.run schema [] s) (c.perform · p)).imp_left ?_
    rintro ⟨out, hresult, hcall⟩
    obtain ⟨q, hq, h⟩ := bind_ok hcall
    cases h
    exact ⟨_, hresult, Projection.Made.replay_call hq⟩
  | .group attempt aliasName steps rest, base, number, p, s => by
    rw [ProjectionScript.made, ProjectionScript.run]
    refine Finished.replay_keep ?_ rfl fun s => rest.replay_made schema base (number + 1) _ s
    have hinside := steps.replay_made schema (base ++ toString number ++ ".") 0
      (.expression p.source) s
    refine (Projection.finishGroup_cases p aliasName _).imp_left ?_
    rintro ⟨out, hresult, hgroup⟩
    exact ⟨out, hresult, fun rest => hgroup ▸ Projection.Made.replay_nested hinside aliasName rest⟩

/-! ### Failures -/

/-- A join that fails leaves its scopes in the tree, behind all that were there before. -/
theorem ScopeStep.builder_join_error {schema : Schema} {place : String} {q : QueryScope}
    {s : Session} {kind : JoinKind} {model : Model} {aliasName : Option String}
    {steps : JoinScript} {e : Error}
    (h : ((join kind model aliasName steps).run schema place q s).result = .error e) :
    ∃ tree, ((join kind model aliasName steps).run schema place q s).builder = { q with tree } ∧
      q.tree.aliases <+: tree.aliases := by
  obtain ⟨r, hjoin, hrun⟩ : ∃ r : Run Join,
      (q.openJoin kind model (aliasName.getD model.defaultAlias) s.counters).1.Becomes r.builder ∧
      (join kind model aliasName steps).run schema place q s = q.finishJoin r :=
    ⟨_, steps.becomes schema (place ++ ".") 0 _ _, by rw [run]⟩
  rw [hrun] at h ⊢
  obtain ⟨result, j, s⟩ := r
  cases result with
  | ok _ => cases h
  | error e => exact ⟨j.scope.tree, rfl, hjoin.scope.elim fun calls => calls.aliases_prefix⟩

/-- A join that fails, at whatever depth and after whatever was attached in it, changes nothing of
the query or join it was to be part of but the tree of aliases, where its scopes stay taken. After
calls on a projection or a condition of which some failed, the builder is what the calls that
succeeded make of it when they are made alone, and everything else is as it was. -/
theorem Query.builder_of_failure (schema : Schema) (place : String) (s : Session) :
    (∀ (q : Query) (kind : JoinKind) (model : Model) (aliasName : Option String)
      (steps : JoinScript) (e : Error),
      let f := ((ScopeStep.join kind model aliasName steps).run schema place q.scope s).within
        fun scope => { q with scope }
      f.result = .error e →
        ∃ tree, f.builder = { q with scope := { q.scope with tree } } ∧
          f.builder.compile = q.compile ∧ q.scope.tree.aliases <+: tree.aliases) ∧
    (∀ (j : Join) (kind : JoinKind) (model : Model) (aliasName : Option String)
      (steps : JoinScript) (e : Error),
      let f := ((ScopeStep.join kind model aliasName steps).run schema place j.scope s).within
        fun scope => { j with scope }
      f.result = .error e →
        ∃ tree, f.builder = { j with scope := { j.scope with tree } } ∧
          QueryScope.joinItem f.builder = QueryScope.joinItem j ∧
          j.scope.tree.aliases <+: tree.aliases) ∧
    (∀ (q : QueryScope) (steps : ProjectionScript), ∃ projection,
      (steps.made schema (place ++ ".") 0 q.clauses.projection s).replay q.clauses.projection =
        .ok projection ∧
      ((ScopeStep.project steps).run schema place q s).builder =
        { q with clauses := { q.clauses with projection } }) ∧
    (∀ (q : QueryScope) (steps : PredicateScript), ∃ filter,
      (steps.made schema (place ++ ".") 0 q.clauses.filter s).replay q.clauses.filter =
        .ok filter ∧
      ((ScopeStep.filter steps).run schema place q s).builder =
        { q with clauses := { q.clauses with filter } }) ∧
    (∀ (q : QueryScope) (steps : PredicateScript), ∃ having,
      (steps.made schema (place ++ ".") 0 q.clauses.having s).replay q.clauses.having =
        .ok having ∧
      ((ScopeStep.having steps).run schema place q s).builder =
        { q with clauses := { q.clauses with having } }) ∧
    (∀ (j : Join) (steps : PredicateScript), ∃ condition,
      (steps.made schema (place ++ ".") 0 j.condition s).replay j.condition = .ok condition ∧
      ((steps.run schema (place ++ ".") 0 j.condition s).finished
        fun condition => { j with condition }).builder = { j with condition }) := by
  refine ⟨?_, ?_, fun q steps => ?_, fun q steps => ?_, fun q steps => ?_,
    fun j steps => ⟨_, steps.replay_made .., rfl⟩⟩
  · intro q kind model aliasName steps e f h
    obtain ⟨tree, hbuilder, hprefix⟩ := ScopeStep.builder_join_error h
    have hf : f.builder = { q with scope := { q.scope with tree } } :=
      congrArg (fun scope => { q with scope }) hbuilder
    exact ⟨tree, hf, hf ▸ rfl, hprefix⟩
  · intro j kind model aliasName steps e f h
    obtain ⟨tree, hbuilder, hprefix⟩ := ScopeStep.builder_join_error h
    have hf : f.builder = { j with scope := { j.scope with tree } } :=
      congrArg (fun scope => { j with scope }) hbuilder
    exact ⟨tree, hf, hf ▸ rfl, hprefix⟩
  · rw [ScopeStep.run]
    exact ⟨_, steps.replay_made .., rfl⟩
  · rw [ScopeStep.run]
    exact ⟨_, steps.replay_made .., rfl⟩
  · rw [ScopeStep.run]
    exact ⟨_, steps.replay_made .., rfl⟩

/-- A join in which another join was attached before it failed. Both of its aliases stay taken; the
negation that was pending for the next test still is. -/
theorem Query.builder_of_failure_after_join :
    let employee : Model := { typeName := "Employee", table := "employee" }
    let department : Model := { typeName := "Department", table := "department" }
    let start := Query.aliased ⟨[]⟩ employee "E" .shared
    let q : Query := { start with
      scope := { start.scope with
        clauses := { start.scope.clauses with filter := start.scope.clauses.filter.negateNext } } }
    let unknown : PredicateScript :=
      .call false .done (.isNull (.given (.field ["salary"]))) .done
    let steps : JoinScript :=
      .scoped false (.join .left employee (some "E") .done) (.scoped false (.filter unknown) .done)
    let f := ((ScopeStep.join .inner department none steps).run ⟨[]⟩ "0" q.scope {}).within
      fun scope => { q with scope }
    f.result = .error (.unknownProperty "Department" "salary") ∧
    f.builder.scope.tree.aliases = ["e", "dep", "e1"] ∧
    ∃ tree, f.builder = { q with scope := { q.scope with tree } } ∧
      f.builder.compile = q.compile ∧ q.scope.tree.aliases <+: tree.aliases := by
  intro employee department start q unknown steps f
  have h : f.result = .error (.unknownProperty "Department" "salary") := by decide +kernel
  exact ⟨h, by decide +kernel,
    (builder_of_failure ⟨[]⟩ "0" {}).1 q .inner department none steps _ h⟩

end SqlCompose
