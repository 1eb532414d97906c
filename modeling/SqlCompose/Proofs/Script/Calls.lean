import SqlCompose.Proofs.Query.Aliases
import SqlCompose.Script.Run

/-! Scripts as histories. Whatever a script does to its builder, with steps that fail and
are passed over or end the script, is a sequence of calls that succeed. -/

namespace SqlCompose

/-! ### Histories as relations -/

/-- One condition can become another by calls. -/
def Predicate.Becomes (p q : Predicate) : Prop :=
  Nonempty (p.Calls q)

theorem Predicate.Becomes.trans {p q r : Predicate} (h : p.Becomes q) (hr : q.Becomes r) :
    p.Becomes r :=
  h.elim fun h => hr.elim fun hr => ⟨h.trans hr⟩

def Projection.Becomes (p q : Projection) : Prop :=
  Nonempty (p.Calls q)

theorem Projection.Becomes.trans {p q r : Projection} (h : p.Becomes q) (hr : q.Becomes r) :
    p.Becomes r :=
  h.elim fun h => hr.elim fun hr => ⟨h.trans hr⟩

def QueryScope.Becomes (p q : QueryScope) : Prop :=
  Nonempty (p.Calls q)

theorem QueryScope.Becomes.trans {p q r : QueryScope} (h : p.Becomes q) (hr : q.Becomes r) :
    p.Becomes r :=
  h.elim fun h => hr.elim fun hr => ⟨h.trans hr⟩

/-- A join can become another by calls on its scope and on its condition. -/
structure Join.Becomes (j k : Join) : Prop where
  scope : j.scope.Becomes k.scope
  condition : j.condition.Becomes k.condition
  parent_eq : k.parent = j.parent
  kind_eq : k.kind = j.kind

theorem Join.Becomes.rfl (j : Join) : j.Becomes j :=
  ⟨⟨.none _⟩, ⟨.none _⟩, Eq.refl _, Eq.refl _⟩

theorem Join.Becomes.trans {i j k : Join} (h : i.Becomes j) (hk : j.Becomes k) : i.Becomes k :=
  ⟨h.scope.trans hk.scope, h.condition.trans hk.condition, hk.parent_eq.trans h.parent_eq,
    hk.kind_eq.trans h.kind_eq⟩

/-! ### Single calls -/

/-- Searches in one column after the other. -/
theorem Predicate.becomes_searches {p q r : Predicate} {columns : List ColumnRef} {text : String}
    (hq : p.Calls q)
    (h : columns.foldlM (fun q c => (q.joinNext .or).search .anywhere c text) q = .ok r) :
    p.Becomes r := by
  induction columns generalizing q with
  | nil => cases h; exact ⟨hq⟩
  | cons c rest ih =>
    obtain ⟨next, hnext, h⟩ := bind_ok h
    obtain ⟨operand, -, htest⟩ := bind_ok hnext
    exact ih (.test (.join hq .or) _ _ htest) h

theorem PredicateCall.becomes {c : PredicateCall} {fragments : List Fragment} {p q : Predicate}
    (h : c.apply fragments p = .ok q) : p.Becomes q := by
  cases c with
  | not => cases h; exact ⟨.negate (.none p)⟩
  | join c => cases h; exact ⟨.join (.none p) c⟩
  | compare op left right | search anchor column text =>
    obtain ⟨operand, -, h⟩ := bind_ok h
    exact ⟨.test (.none p) _ _ h⟩
  | between column low high =>
    obtain ⟨low, -, h⟩ := bind_ok h
    obtain ⟨high, -, h⟩ := bind_ok h
    exact ⟨.test (.none p) _ _ h⟩
  | isIn column values =>
    obtain ⟨values, -, h⟩ := bind_ok h
    exact ⟨.test (.none p) _ _ h⟩
  | inQuery column query | isNull column | expr condition => exact ⟨.test (.none p) _ _ h⟩
  | searchAny columns text =>
    obtain ⟨any, hany, h⟩ := bind_ok h
    obtain ⟨inner⟩ := Predicate.becomes_searches (.none p.nested) hany
    exact ⟨.scope (.none p) inner h⟩
  | test operators operands =>
    obtain ⟨operands, -, h⟩ := bind_ok h
    exact ⟨.test (.none p) _ _ h⟩
  | observe o => cases h; exact ⟨.none p⟩

theorem ProjectionCall.becomes {c : ProjectionCall} {fragments : List Fragment} {p q : Projection}
    (h : c.change fragments p = .ok q) : p.Becomes q := by
  cases c with
  | wrap w =>
    obtain ⟨w, -, h⟩ := bind_ok h
    cases h
    exact ⟨.wrap (.none p) w⟩
  | apply ws column alias? | applyWith f arguments column alias? =>
    obtain ⟨ws, -, h⟩ := bind_ok h
    exact ⟨.column (.none p) _ _ _ h⟩
  | raw sql => cases h; exact ⟨.raw (.none p) sql⟩
  | value s alias? => exact ⟨.value (.none p) s alias? h⟩
  | observe o => cases h; exact ⟨.none p⟩

theorem ScopeCall.becomes {c : ScopeCall} {fragments : List Fragment} {q r : QueryScope}
    {out : Option Report} (h : c.perform fragments q = .ok (r, out)) : q.Becomes r := by
  cases c with
  | groupBy column =>
    simp only [perform] at h
    cases hg : q.groupBy (column.value fragments) with
    | error e => rw [hg] at h; cases h
    | ok s => rw [hg] at h; cases h; exact ⟨.groupBy (.none q) _ hg⟩
  | orderBy column order =>
    simp only [perform] at h
    cases hg : q.orderBy (column.value fragments) order with
    | error e => rw [hg] at h; cases h
    | ok s => rw [hg] at h; cases h; exact ⟨.orderBy (.none q) _ _ hg⟩
  | aliasName => cases h; exact ⟨.none q⟩

/-! ### Steps -/

namespace Finished

variable {β : Type} (P : β → Prop)

/-- A step after which the script goes on, or ends. -/
theorem builder_andThen {f : Finished β} {place : String} {state : β → Report} {attempt : Bool}
    {next : β → Session → Run β} (hf : P f.builder)
    (hnext : ∀ s, P (next f.builder s).builder) :
    P (f.andThen place state attempt next).builder := by
  simp only [andThen]
  cases f.result with
  | ok _ => exact hnext _
  | error e => cases attempt with
    | true => exact hnext _
    | false => exact hf

/-- A call that fails leaves the builder as it was. -/
theorem builder_ofCall {b : β} {s : Session} {r : Except Error (β × Option Report)} (hb : P b)
    (hr : ∀ c out, r = .ok (c, out) → P c) : P (ofCall b s r).builder := by
  cases r with
  | ok r => exact hr r.1 r.2 rfl
  | error e => exact hb

theorem builder_ofPrepared {b : β} {prepared : Except Error (List Fragment) × Session}
    {call : List Fragment → Session → Finished β} (hb : P b)
    (hcall : ∀ fragments s, P (call fragments s).builder) :
    P (ofPrepared b prepared call).builder := by
  obtain ⟨_ | fragments, s⟩ := prepared
  · exact hb
  · exact hcall fragments s

end Finished

/-! ### Scripts -/

theorem PredicateScript.becomes (schema : Schema) :
    (steps : PredicateScript) → (base : String) → (number : Nat) → (p : Predicate) →
      (s : Session) → p.Becomes (steps.run schema base number p s).builder
  | .done, _, _, p, _ => ⟨.none p⟩
  | .call attempt before c rest, base, number, p, s => by
    rw [PredicateScript.run]
    have hcall : p.Becomes (Finished.ofPrepared p (before.run schema [] s)
        fun fragments s => .ofCall p s (c.perform fragments p)).builder := by
      refine Finished.builder_ofPrepared p.Becomes ⟨.none p⟩ fun fragments s => ?_
      refine Finished.builder_ofCall p.Becomes ⟨.none p⟩ fun q out h => ?_
      obtain ⟨q, hq, h⟩ := bind_ok h
      cases h
      exact PredicateCall.becomes hq
    exact Finished.builder_andThen p.Becomes hcall fun s =>
      hcall.trans (rest.becomes schema base (number + 1) _ s)
  | .scope attempt steps rest, base, number, p, s => by
    rw [PredicateScript.run]
    have hscope : p.Becomes
        (p.finishScope (steps.run schema (base ++ toString number ++ ".") 0 p.nested
          s)).builder := by
      refine Finished.builder_ofCall p.Becomes ⟨.none p⟩ fun q out h => ?_
      obtain ⟨_, -, h⟩ := bind_ok h
      obtain ⟨inner⟩ := steps.becomes schema (base ++ toString number ++ ".") 0 p.nested s
      cases hn : p.nest (steps.run schema (base ++ toString number ++ ".") 0 p.nested
          s).builder.compile with
      | error e => rw [hn] at h; cases h
      | ok r => rw [hn] at h; cases h; exact ⟨.scope (.none p) inner hn⟩
    exact Finished.builder_andThen p.Becomes hscope fun s =>
      hscope.trans (rest.becomes schema base (number + 1) _ s)

theorem ProjectionScript.becomes (schema : Schema) :
    (steps : ProjectionScript) → (base : String) → (number : Nat) → (p : Projection) →
      (s : Session) → p.Becomes (steps.run schema base number p s).builder
  | .done, _, _, p, _ => ⟨.none p⟩
  | .call attempt before c rest, base, number, p, s => by
    rw [ProjectionScript.run]
    have hcall : p.Becomes (Finished.ofPrepared p (before.run schema [] s)
        fun fragments s => .ofCall p s (c.perform fragments p)).builder := by
      refine Finished.builder_ofPrepared p.Becomes ⟨.none p⟩ fun fragments s => ?_
      refine Finished.builder_ofCall p.Becomes ⟨.none p⟩ fun q out h => ?_
      obtain ⟨q, hq, h⟩ := bind_ok h
      cases h
      exact ProjectionCall.becomes hq
    exact Finished.builder_andThen p.Becomes hcall fun s =>
      hcall.trans (rest.becomes schema base (number + 1) _ s)
  | .group attempt aliasName steps rest, base, number, p, s => by
    rw [ProjectionScript.run]
    have hgroup : p.Becomes (p.finishGroup aliasName
        (steps.run schema (base ++ toString number ++ ".") 0 (.expression p.source)
          s)).builder := by
      refine Finished.builder_ofCall p.Becomes ⟨.none p⟩ fun q out h => ?_
      obtain ⟨inner⟩ := steps.becomes schema (base ++ toString number ++ ".") 0
        (.expression p.source) s
      cases hr : (steps.run schema (base ++ toString number ++ ".") 0
          (.expression p.source) s).result with
      | error e => rw [hr] at h; cases h
      | ok _ => rw [hr] at h; cases h; exact ⟨.group (.none p) aliasName inner⟩
    exact Finished.builder_andThen p.Becomes hgroup fun s =>
      hgroup.trans (rest.becomes schema base (number + 1) _ s)

/-- A join that was opened and has run is attached or abandoned. -/
theorem QueryScope.becomes_finishJoin {q : QueryScope} {kind : JoinKind} {model : Model}
    {proposal : String} {cs : Counters} {r : Run Join}
    (h : (q.openJoin kind model proposal cs).1.Becomes r.builder) :
    q.Becomes (q.finishJoin r).builder := by
  obtain ⟨result, ⟨scope, parent, kind', condition⟩, s⟩ := r
  obtain ⟨⟨inner⟩, ⟨on⟩, hparent, hkind⟩ := h
  obtain rfl : parent = q.source := hparent
  obtain rfl : kind' = kind := hkind
  cases result with
  | ok _ => exact ⟨.attach (.none q) kind' model proposal cs inner on⟩
  | error e => exact ⟨.abandon (.none q) kind' model proposal cs inner on⟩

mutual

theorem ScopeStep.becomes (schema : Schema) :
    (step : ScopeStep) → (place : String) → (q : QueryScope) → (s : Session) →
      q.Becomes (step.run schema place q s).builder
  | .project steps, place, q, s => by
    obtain ⟨h⟩ := steps.becomes schema (place ++ ".") 0 q.clauses.projection s
    rw [ScopeStep.run]
    exact ⟨.project (.none q) h⟩
  | .filter steps, place, q, s => by
    obtain ⟨h⟩ := steps.becomes schema (place ++ ".") 0 q.clauses.filter s
    rw [ScopeStep.run]
    exact ⟨.filter (.none q) h⟩
  | .having steps, place, q, s => by
    obtain ⟨h⟩ := steps.becomes schema (place ++ ".") 0 q.clauses.having s
    rw [ScopeStep.run]
    exact ⟨.having (.none q) h⟩
  | .expr steps saveAs, place, q, s => by
    rw [ScopeStep.run, QueryScope.finishExpr]
    split <;> exact ⟨.none q⟩
  | .join kind model aliasName steps, place, q, s => by
    rw [ScopeStep.run]
    exact QueryScope.becomes_finishJoin (steps.becomes schema (place ++ ".") 0 _ _)
  | .call before c, place, q, s => by
    rw [ScopeStep.run]
    refine Finished.builder_ofPrepared q.Becomes ⟨.none q⟩ fun fragments s => ?_
    exact Finished.builder_ofCall q.Becomes ⟨.none q⟩ fun r out h => ScopeCall.becomes h

theorem JoinScript.becomes (schema : Schema) :
    (steps : JoinScript) → (base : String) → (number : Nat) → (j : Join) → (s : Session) →
      j.Becomes (steps.run schema base number j s).builder
  | .done, _, _, j, _ => .rfl j
  | .scoped attempt step rest, base, number, j, s => by
    rw [JoinScript.run]
    have hstep : j.Becomes ((step.run schema (base ++ toString number) j.scope s).within
        fun scope => { j with scope }).builder :=
      ⟨step.becomes schema (base ++ toString number) j.scope s, ⟨.none _⟩, rfl, rfl⟩
    exact Finished.builder_andThen j.Becomes hstep fun s =>
      hstep.trans (rest.becomes schema base (number + 1) _ s)
  | .on attempt steps rest, base, number, j, s => by
    rw [JoinScript.run]
    have hon : j.Becomes ((steps.run schema (base ++ toString number ++ ".") 0 j.condition
        s).finished fun condition => { j with condition }).builder :=
      ⟨⟨.none _⟩, steps.becomes schema (base ++ toString number ++ ".") 0 j.condition s, rfl, rfl⟩
    exact Finished.builder_andThen j.Becomes hon fun s =>
      hon.trans (rest.becomes schema base (number + 1) _ s)
  | .call attempt before c rest, base, number, j, s => by
    rw [JoinScript.run]
    have hcall : j.Becomes (Finished.ofPrepared j (before.run schema [] s)
        fun fragments s => c.perform fragments j s).builder := by
      refine Finished.builder_ofPrepared j.Becomes (.rfl j) fun fragments s => ?_
      cases c with
      | parent column saveAs =>
        simp only [JoinCall.perform]
        split <;> exact .rfl j
      | inspection => exact .rfl j
    exact Finished.builder_andThen j.Becomes hcall fun s =>
      hcall.trans (rest.becomes schema base (number + 1) _ s)

end

theorem QueryCall.becomes (fragments : List Fragment) (c : QueryCall) (q : Query) (s : Session) :
    q.scope.Becomes (c.perform fragments q s).builder.scope := by
  cases c with
  | withCounter counter => exact ⟨.withCounter (.none _) counter⟩
  | _ => exact ⟨.none _⟩

theorem QueryScript.becomes (schema : Schema) :
    (steps : QueryScript) → (base : String) → (number : Nat) → (q : Query) → (s : Session) →
      q.scope.Becomes (steps.run schema base number q s).builder.scope
  | .done, _, _, q, _ => ⟨.none q.scope⟩
  | .scoped attempt step rest, base, number, q, s => by
    rw [QueryScript.run]
    have hstep : q.scope.Becomes ((step.run schema (base ++ toString number) q.scope s).within
        fun scope => { q with scope }).builder.scope :=
      step.becomes schema (base ++ toString number) q.scope s
    exact Finished.builder_andThen (fun r : Query => q.scope.Becomes r.scope) hstep fun s =>
      hstep.trans (rest.becomes schema base (number + 1) _ s)
  | .call attempt before c rest, base, number, q, s => by
    rw [QueryScript.run]
    have hcall : q.scope.Becomes (Finished.ofPrepared q (before.run schema [] s)
        fun fragments s => c.perform fragments q s).builder.scope :=
      Finished.builder_ofPrepared (fun r : Query => q.scope.Becomes r.scope) ⟨.none q.scope⟩
        fun fragments s => c.becomes fragments q s
    exact Finished.builder_andThen (fun r : Query => q.scope.Becomes r.scope) hcall fun s =>
      hcall.trans (rest.becomes schema base (number + 1) _ s)

/-- The scope of a query stays reachable in every script, from any state of the session. -/
theorem QueryScript.reachable (schema : Schema) (head : QueryHead) (steps : QueryScript)
    (base : String) (number : Nat) (s : Session) :
    (steps.run schema base number (head.start schema) s).builder.scope.Reachable := by
  obtain ⟨h⟩ := steps.becomes schema base number (head.start schema) s
  refine .calls ?_ h
  rw [QueryHead.start]
  split <;> exact .start _ _ _ _

/-- No script gives two scopes of its query the same alias. -/
theorem QueryScript.nodup_aliases (schema : Schema) (head : QueryHead) (steps : QueryScript)
    (base : String) (number : Nat) (s : Session) :
    let q := (steps.run schema base number (head.start schema) s).builder
    q.scope.tree.scopes.length ≤ UInt64.size → q.scope.tree.aliases.Nodup :=
  fun hw => ((steps.reachable schema head base number s).registered hw).nodup

end SqlCompose
