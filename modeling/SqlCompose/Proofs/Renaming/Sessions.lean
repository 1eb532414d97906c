import SqlCompose.Proofs.Renaming.Queries
import SqlCompose.Proofs.Renaming.Subqueries
import SqlCompose.Script.Program

/-! Sessions, single calls and steps under several histories. The counters of the sessions may
differ in any way, and so may texts that are only shown; the fragments come from templates. -/

namespace SqlCompose

namespace Naming

variable {ι : Type} (N : Naming ι)

/-! ### What a session leaves behind -/

/-- Reports of the same sort. Only the fragments in them come from templates. -/
inductive Reports : (ι → Report) → Prop
  | flag (b : ι → Bool) : Reports fun i => .flag (b i)
  | text (s : ι → String) : Reports fun i => .text (s i)
  | fragment {f : ι → Fragment} (h : N.Templated f) : Reports fun i => .fragment (f i)

structure Entries (e : ι → Entry) : Prop where
  place : Same fun i => (e i).place
  result : JointOutcome (JointOption N.Reports) fun i => (e i).result
  state : N.Reports fun i => (e i).state

/-- One name for fragments that come from one template. -/
structure Saved (p : ι → String × Fragment) : Prop where
  name : Same fun i => (p i).1
  fragment : N.Templated fun i => (p i).2

structure Sessions (s : ι → Session) : Prop where
  saved : JointList N.Saved fun i => (s i).saved
  log : JointList N.Entries fun i => (s i).log

/-- The queries are some of those that have names, and follow each other there. -/
def Covers (queries : ι → List BuiltQuery) : Prop :=
  ∃ k, ∀ i, (queries i).map BuiltQuery.aliases <+: (N i).drop k

/-- One query, with equally many scopes under all histories. -/
def SameWidth (q : ι → BuiltQuery) : Prop :=
  Same fun i => (q i).aliases.length

variable {β γ : Type} (R : (ι → β) → Prop) (S : (ι → γ) → Prop)

/-- Steps that all succeed or all fail, and build the same queries on the way. -/
structure Steps (f : ι → Finished β) (queries : ι → List BuiltQuery) : Prop where
  result : JointOutcome (JointOption N.Reports) fun i => (f i).result
  builder : R fun i => (f i).builder
  session : N.Sessions fun i => (f i).session
  queries : JointList SameWidth queries

structure Runs (r : ι → Run β) (queries : ι → List BuiltQuery) : Prop where
  result : JointOutcome (fun _ => True) fun i => (r i).result
  builder : R fun i => (r i).builder
  session : N.Sessions fun i => (r i).session
  queries : JointList SameWidth queries

/-- What has been built for a call, with the session afterwards. -/
structure Prepared (x : ι → Except Error (List Fragment) × Session)
    (queries : ι → List BuiltQuery) : Prop where
  result : JointOutcome (JointList N.Templated) fun i => (x i).1
  session : N.Sessions fun i => (x i).2
  queries : JointList SameWidth queries

variable {N R S}

theorem Queries.sameWidth {q : ι → BuiltQuery} (h : N.Queries fun i => (q i).query) :
    SameWidth q := by
  simp only [SameWidth, BuiltQuery.aliases, AliasTree.length_aliases]
  exact h.scope.length

/-! ### Names -/

namespace Covers

variable {x y : ι → List BuiltQuery}

theorem left (h : N.Covers fun i => x i ++ y i) : N.Covers x := by
  obtain ⟨k, hk⟩ := h
  refine ⟨k, fun i => ?_⟩
  have hi := hk i
  rw [List.map_append] at hi
  exact (List.prefix_append _ _).trans hi

/-- The queries after others, of which there are equally many. -/
theorem right (h : N.Covers fun i => x i ++ y i) (hx : JointList SameWidth x) : N.Covers y := by
  obtain ⟨k, hk⟩ := h
  obtain ⟨n, hn⟩ := hx.length
  refine ⟨k + n, fun i => ?_⟩
  obtain ⟨rest, hrest⟩ := hk i
  refine ⟨rest, ?_⟩
  rw [← List.drop_drop, ← hrest, List.map_append, List.append_assoc]
  exact (List.drop_left' ((List.length_map _).trans (hn i))).symm

/-- The first of the queries has its own names. -/
theorem names {q : ι → BuiltQuery} (h : N.Covers fun i => q i :: x i) :
    N.Names fun i => (q i).aliases := by
  obtain ⟨k, hk⟩ := h
  refine ⟨k, fun i => ⟨_, ?_, List.prefix_rfl⟩⟩
  obtain ⟨rest, hrest⟩ := hk i
  have hfirst : ((N i).drop k)[0]? = some (q i).aliases := by
    rw [← hrest]
    rfl
  simpa using hfirst

/-- The queries after the first. -/
theorem tail {q : ι → BuiltQuery} (h : N.Covers fun i => q i :: x i) : N.Covers x := by
  obtain ⟨k, hk⟩ := h
  refine ⟨k + 1, fun i => ?_⟩
  obtain ⟨rest, hrest⟩ := hk i
  refine ⟨rest, ?_⟩
  rw [← List.drop_drop, ← hrest]
  rfl

end Covers

/-! ### Sessions -/

theorem Sessions.saved? {s : ι → Session} (h : N.Sessions s) (name : String) :
    JointOption N.Templated fun i => (s i).saved? name := by
  have hlookup {l : ι → List (String × Fragment)} (hl : JointList N.Saved l) :
      JointOption N.Templated fun i => (l i).lookup name := by
    induction hl with
    | nil => exact .none
    | @cons p l hp _ ih =>
      obtain ⟨key, hkey⟩ := hp.name
      have hcons (i : ι) : (p i :: l i).lookup name =
          if name == key then some (p i).2 else (l i).lookup name := by
        rw [← hkey i, List.lookup_cons]
        split <;> simp_all
      simp only [hcons]
      split
      · exact .some hp.fragment
      · exact ih
  exact hlookup h.saved

theorem Sessions.record {s : ι → Session} (h : N.Sessions s) {e : ι → Entry} (he : N.Entries e) :
    N.Sessions fun i => (s i).record (e i) :=
  { h with log := .cons he h.log }

theorem Sessions.save {s : ι → Session} (h : N.Sessions s) (name? : Option String)
    {f : ι → Fragment} (hf : N.Templated f) : N.Sessions fun i => (s i).save name? (f i) := by
  cases name? with
  | none => exact h
  | some name => exact { h with saved := .cons ⟨.rfl, hf⟩ h.saved }

/-! ### Steps -/

variable {x : ι → List BuiltQuery}

theorem Steps.ofCall {b : ι → β} (hb : R b) {s : ι → Session} (hs : N.Sessions s)
    {c : ι → Except Error (β × Option Report)}
    (h : JointOutcome (fun r => R (fun i => (r i).1) ∧ JointOption N.Reports fun i => (r i).2) c)
    (hx : JointList SameWidth x) : N.Steps R (fun i => .ofCall (b i) (s i) (c i)) x := by
  cases h with
  | ok h => exact ⟨.ok h.2, h.1, hs, hx⟩
  | error e => exact ⟨.error e, hb, hs, hx⟩

theorem Steps.within {f : ι → Finished β} (h : N.Steps R f x) (put : ι → β → γ)
    (hput : ∀ b, R b → S fun i => put i (b i)) : N.Steps S (fun i => (f i).within (put i)) x :=
  ⟨h.result, hput _ h.builder, h.session, h.queries⟩

theorem Runs.finished {r : ι → Run β} (h : N.Runs R r x) (put : ι → β → γ)
    (hput : ∀ b, R b → S fun i => put i (b i)) : N.Steps S (fun i => (r i).finished (put i)) x :=
  ⟨h.result.map fun _ _ => .none, hput _ h.builder, h.session, h.queries⟩

/-- A run after other queries have been built. -/
theorem Runs.after {r : ι → Run β} {y : ι → List BuiltQuery} (h : N.Runs R r y)
    (hx : JointList SameWidth x) : N.Runs R r fun i => x i ++ y i where
  result := h.result
  builder := h.builder
  session := h.session
  queries := hx.append h.queries

theorem Prepared.after {prepared : ι → Except Error (List Fragment) × Session}
    {y : ι → List BuiltQuery} (h : N.Prepared prepared y) (hx : JointList SameWidth x) :
    N.Prepared prepared fun i => x i ++ y i where
  result := h.result
  session := h.session
  queries := hx.append h.queries

/-- A step and what comes after it. What is known of the builder at the end, as the names of its
scopes, is known of the builder that the steps after this one leave. -/
theorem Steps.andThen {f : ι → Finished β} (h : N.Steps R f x) (place : String)
    {state : β → Report} (hstate : ∀ b, R b → N.Reports fun i => state (b i)) (attempt : Bool)
    {next : β → Session → Run β} {queries : β → Session → List BuiltQuery}
    (hcovers : N.Covers fun i =>
      x i ++ (f i).follow place state attempt [] queries) (P : (ι → β) → Prop)
    (hend : P fun i => ((f i).andThen place state attempt next).builder)
    (hnext : ∀ s, N.Sessions s → (N.Covers fun i => queries (f i).builder (s i)) →
      (P fun i => (next (f i).builder (s i)).builder) →
      N.Runs R (fun i => next (f i).builder (s i)) fun i => queries (f i).builder (s i)) :
    N.Runs R (fun i => (f i).andThen place state attempt next) fun i =>
      x i ++ (f i).follow place state attempt [] queries := by
  have hlog : N.Sessions fun i =>
      (f i).session.record ⟨place, (f i).result, state (f i).builder⟩ :=
    h.session.record ⟨.rfl, h.result, hstate _ h.builder⟩
  have hfollow := hcovers.right h.queries
  refine Runs.after ?_ h.queries
  -- either all steps succeeded or all failed, and so all runs go on or none does
  rcases h.result.cases with ⟨out, hok, -⟩ | ⟨e, herror⟩
  · simp only [Finished.andThen, Finished.follow, hok] at hend hfollow hlog ⊢
    exact hnext _ hlog hfollow hend
  · simp only [Finished.andThen, Finished.follow, herror] at hend hfollow hlog ⊢
    cases attempt with
    | true => exact hnext _ hlog hfollow hend
    | false => exact ⟨.error e, h.builder, hlog, .nil⟩

/-- A step for which something has to be built first. -/
theorem Prepared.step {prepared : ι → Except Error (List Fragment) × Session}
    (h : N.Prepared prepared x) {b : ι → β} (hb : R b)
    {call : ι → List Fragment → Session → Finished β}
    (hcall : ∀ l s, JointList N.Templated l → N.Sessions s →
      N.Steps R (fun i => call i (l i) (s i)) x) :
    N.Steps R (fun i => .ofPrepared (b i) (prepared i) (call i)) x := by
  have hpair (i : ι) : prepared i = ((prepared i).1, (prepared i).2) := rfl
  rcases h.result.cases with ⟨l, hok, hl⟩ | ⟨e, herror⟩
  · have hstep (i : ι) : Finished.ofPrepared (b i) (prepared i) (call i) =
        call i (l i) (prepared i).2 := by
      rw [hpair i, hok i]
      rfl
    simp only [hstep]
    exact hcall l _ hl h.session
  · have hstep (i : ι) : Finished.ofPrepared (b i) (prepared i) (call i) =
        ⟨.error e, b i, (prepared i).2⟩ := by
      rw [hpair i, herror i]
      rfl
    simp only [hstep]
    exact ⟨.error e, hb, h.session, h.queries⟩

/-- A call with what has been built for it. -/
theorem Prepared.call {prepared : ι → Except Error (List Fragment) × Session}
    (h : N.Prepared prepared x) {b : ι → β} (hb : R b)
    (perform : List Fragment → β → Except Error (β × Option Report))
    (hperform : ∀ {l : ι → List Fragment}, JointList N.Templated l →
      JointOutcome (fun r => R (fun i => (r i).1) ∧ JointOption N.Reports fun i => (r i).2)
        fun i => perform (l i) (b i)) :
    N.Steps R (fun i => .ofPrepared (b i) (prepared i) fun fragments s =>
      .ofCall (b i) s (perform fragments (b i))) x :=
  h.step hb fun _ _ hl hs => .ofCall hb hs (hperform hl) h.queries

/-- A fragment that is built by a script, and what is built after it. -/
theorem Runs.prepare {r : ι → Run β} (h : N.Runs R r x) {f : ι → Fragment} (hf : N.Templated f)
    {fs : ι → List Fragment} (hfs : JointList N.Templated fs)
    {next : List Fragment → Session → Except Error (List Fragment) × Session}
    {queries : List Fragment → Session → List BuiltQuery}
    (hcovers : N.Covers fun i => x i ++ match (r i).result with
      | .ok () => queries (fs i ++ [f i]) (r i).session
      | .error _ => [])
    (hnext : ∀ {l : ι → List Fragment} {s : ι → Session}, JointList N.Templated l →
      N.Sessions s → (N.Covers fun i => queries (l i) (s i)) →
      N.Prepared (fun i => next (l i) (s i)) fun i => queries (l i) (s i)) :
    N.Prepared
      (fun i => match (r i).result with
        | .ok () => next (fs i ++ [f i]) (r i).session
        | .error e => (.error e, (r i).session))
      fun i => x i ++ match (r i).result with
        | .ok () => queries (fs i ++ [f i]) (r i).session
        | .error _ => [] := by
  have hlater := hcovers.right h.queries
  refine Prepared.after ?_ h.queries
  rcases h.result.cases with ⟨_, hok, -⟩ | ⟨e, herror⟩
  · simp only [hok] at hlater ⊢
    exact hnext (hfs.append (.cons hf .nil)) h.session hlater
  · simp only [herror]
    exact ⟨.error e, h.session, .nil⟩

/-! ### Arguments -/

section

variable {fs : ι → List Fragment} (hfs : JointList N.Templated fs)

include hfs

theorem fragmentArg (f : FragmentArg) : N.Templated fun i => f.value (fs i) := by
  induction f with
  | given f => exact .same _
  | built index =>
    rcases (hfs.getElem? index).cases with hnone | ⟨f, hsome, hf⟩
    · simp only [FragmentArg.value, hnone]
      exact .same _
    · simp only [FragmentArg.value, hsome]
      exact hf
  | nested f ih => exact ih.parenthesized

theorem columnArg (c : ColumnArg) : N.Columns fun i => c.value (fs i) := by
  cases c with
  | given c => exact .same _
  | fragment f => exact .fragment (fragmentArg hfs f)

theorem operandArg (o : OperandArg) : N.Arguments fun i => o.value (fs i) := by
  cases o with
  | given a => exact .same _
  | column c => exact .operand (.column (columnArg hfs c))

/-! ### Calls -/

theorem applyPredicateCall (c : PredicateCall) {p : ι → Predicate} (hp : N.Predicates p) :
    JointOutcome N.Predicates fun i => c.apply (fs i) (p i) := by
  cases c with
  | not => exact .ok hp.negateNext
  | join c => exact .ok (hp.joinNext c)
  | compare op c o => exact hp.compare op (columnArg hfs c) (operandArg hfs o)
  | between c low high =>
    exact hp.between (columnArg hfs c) (operandArg hfs low) (operandArg hfs high)
  | isIn c values => exact hp.isIn (columnArg hfs c) values
  | inQuery c q =>
    exact hp.test [.isIn] (.cons (.column (columnArg hfs c))
      (.cons (.column (.fragment (fragmentArg hfs q))) .nil))
  | isNull c => exact hp.test [.isNull] (.cons (.column (columnArg hfs c)) .nil)
  | search anchor c text => exact hp.search anchor (columnArg hfs c) text
  | searchAny columns text => exact hp.searchAny (.mapSame columns (columnArg hfs)) text
  | expr f => exact hp.expr (fragmentArg hfs f)
  | test ops operands =>
    have hoperands : JointOutcome (JointList N.Operands) fun i =>
        operands.mapM fun o => (o.value (fs i)).toOperand :=
      JointList.mapMSame operands fun o => toOperand (operandArg hfs o)
    exact hoperands.bind fun _ hl => hp.test ops hl
  | observe o => exact .ok hp

theorem applyProjectionCall (c : ProjectionCall) {p : ι → Projection} (hp : N.Projections p) :
    JointOutcome N.Projections fun i => c.change (fs i) (p i) := by
  cases c with
  | wrap w =>
    simp only [ProjectionCall.change]
    cases w.value with
    | error e => exact .error e
    | ok w => exact .ok (hp.enqueue w)
  | apply ws c alias? =>
    simp only [ProjectionCall.change]
    cases ws.mapM WrapperArg.value with
    | error e => exact .error e
    | ok ws => exact hp.apply ws (columnArg hfs c) alias?
  | applyWith f arguments c alias? =>
    simp only [ProjectionCall.change, Projection.applyWith]
    cases Wrapper.withArguments f arguments with
    | error e => exact .error e
    | ok w => exact hp.apply [w] (columnArg hfs c) alias?
  | raw sql => exact .ok (hp.push [] (.same _) none)
  | value s alias? => exact hp.value s alias?
  | observe o => exact .ok hp

theorem performPredicateCall (c : PredicateCall) {p : ι → Predicate} (hp : N.Predicates p) :
    JointOutcome (fun r => N.Predicates (fun i => (r i).1) ∧
      JointOption N.Reports fun i => (r i).2) fun i => c.perform (fs i) (p i) := by
  refine (applyPredicateCall hfs c hp).bind fun q hq => .ok ⟨hq, ?_⟩
  cases c with
  | observe o =>
    cases o with
    | isEmpty => exact .some (.flag _)
    | aliasName | inspection => exact .some (.text _)
  | _ => exact .none

theorem performProjectionCall (c : ProjectionCall) {p : ι → Projection}
    (hp : N.Projections p) : JointOutcome (fun r => N.Projections (fun i => (r i).1) ∧
      JointOption N.Reports fun i => (r i).2) fun i => c.perform (fs i) (p i) := by
  refine (applyProjectionCall hfs c hp).bind fun q hq => .ok ⟨hq, ?_⟩
  cases c with
  | observe o =>
    cases o with
    | isEmpty => exact .some (.flag _)
    | aliasName | inspection => exact .some (.text _)
  | _ => exact .none

theorem performScopeCall (c : ScopeCall) {q : ι → QueryScope} (hq : N.Scopes q) :
    JointOutcome (fun r => N.Scopes (fun i => (r i).1) ∧
      JointOption N.Reports fun i => (r i).2) fun i => c.perform (fs i) (q i) := by
  cases c with
  | groupBy c => exact (hq.groupBy (columnArg hfs c)).map fun _ hr => ⟨hr, .none⟩
  | orderBy c order => exact (hq.orderBy (columnArg hfs c) order).map fun _ hr => ⟨hr, .none⟩
  | aliasName => exact .ok ⟨hq, .some (.text _)⟩

variable {s : ι → Session} (hs : N.Sessions s) (hx : JointList SameWidth x)

include hs hx

theorem performJoinCall (c : JoinCall) {j : ι → Join} (hj : N.Joins j) :
    N.Steps N.Joins (fun i => c.perform (fs i) (j i) (s i)) x := by
  cases c with
  | parent c saveAs =>
    have hparent : JointOutcome N.Templated fun i => (j i).parentColumn (c.value (fs i)) :=
      hj.parent.qualify (columnArg hfs c)
    rcases hparent.cases with ⟨f, hok, hf⟩ | ⟨e, herror⟩
    · simp only [JoinCall.perform, hok]
      exact ⟨.ok (.some (.fragment hf)), hj, hs.save saveAs hf, hx⟩
    · simp only [JoinCall.perform, herror]
      exact ⟨.error e, hj, hs, hx⟩
  | inspection => exact ⟨.ok (.some (.text _)), hj, hs, hx⟩

theorem performQueryCall (c : QueryCall) {q : ι → Query} (hq : N.Queries q) :
    N.Steps N.Queries (fun i => c.perform (fs i) (q i) (s i)) x := by
  cases c with
  | limit n => exact ⟨.ok .none, { hq with limit := .rfl }, hs, hx⟩
  | offset n => exact ⟨.ok .none, { hq with offset := .rfl }, hs, hx⟩
  | union op query =>
    have hunions := hq.unions.append
      (.cons (a := fun i => (op, query.value (fs i))) ⟨.rfl, fragmentArg hfs query⟩ .nil)
    exact ⟨.ok .none, { hq with unions := hunions }, hs, hx⟩
  | fromQuery query =>
    exact ⟨.ok .none, { hq with fromQuery := .some (fragmentArg hfs query) }, hs, hx⟩
  | withCounter counter => exact ⟨.ok .none, hq.withCounter counter, hs, hx⟩
  | compile saveAs =>
    exact ⟨.ok (.some (.fragment hq.compile)), hq, hs.save saveAs hq.compile, hx⟩
  | inspection => exact ⟨.ok (.some (.text _)), hq, hs, hx⟩

end

end Naming

end SqlCompose
