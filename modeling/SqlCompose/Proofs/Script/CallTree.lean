import SqlCompose.Proofs.Fragment
import SqlCompose.Proofs.Script.Steps

/-! The calls of a query as a tree, and what becomes of them in its statement. The tables of the
FROM clause are those of the joins that were attached, each before the joins in it, and the lists of
the other clauses are the entries of the calls in order, those of a join standing where it was
attached. A join is attached if its script and those around it come to their ends. -/

namespace SqlCompose

/-! ### Trees -/

/-- The lists of a statement to which calls add one entry after the other. -/
inductive ListClause where
  | selection
  | groupBy
  | orderBy
deriving DecidableEq

/-- The list of a clause. -/
def ListClause.of (k : ListClause) (c : Clauses) : List Fragment :=
  match k with
  | selection => c.projection.items
  | groupBy => c.groupBy
  | orderBy => c.orderBy

@[simp] theorem ListClause.of_merge (k : ListClause) (outer inner : Clauses) :
    k.of (outer.merge inner) = k.of outer ++ k.of inner := by
  cases k <;> rfl

/-- The calls on a scope that add something to its query, in order: entries of lists, and joins
with the calls inside them. -/
inductive CallTree where
  | done
  | entry (k : ListClause) (f : Fragment) (rest : CallTree)
  | join (completed : Bool) (table : Fragment) (inside rest : CallTree)

namespace CallTree

/-- The tables of the joins that were completed, inside joins that were completed. Each comes
before those inside it. -/
def tables : CallTree → List Fragment
  | done => []
  | entry _ _ rest => rest.tables
  | join completed table inside rest =>
    (if completed then table :: inside.tables else []) ++ rest.tables

/-- The entries of a list, without those inside joins that were not completed. -/
def entries (k : ListClause) : CallTree → List Fragment
  | done => []
  | entry k' f rest => if k' = k then f :: rest.entries k else rest.entries k
  | join completed _ inside rest =>
    (if completed then inside.entries k else []) ++ rest.entries k

/-- The calls of two trees one after the other. -/
def append : CallTree → CallTree → CallTree
  | done, u => u
  | entry k f rest, u => .entry k f (rest.append u)
  | join completed table inside rest, u => .join completed table inside (rest.append u)

/-- Entries of one list. -/
def ofEntries (k : ListClause) (l : List Fragment) : CallTree :=
  l.foldr (entry k) done

@[simp] theorem tables_append (t u : CallTree) : (t.append u).tables = t.tables ++ u.tables := by
  induction t with
  | done => rfl
  | entry k f rest ih => exact ih
  | join completed table inside rest _ ih => simp [append, tables, ih]

@[simp] theorem entries_append (k : ListClause) (t u : CallTree) :
    (t.append u).entries k = t.entries k ++ u.entries k := by
  induction t with
  | done => rfl
  | entry k' f rest ih =>
    rw [append, entries, entries, ih]
    split <;> rfl
  | join completed table inside rest _ ih => simp [append, entries, ih]

@[simp] theorem tables_ofEntries (k : ListClause) (l : List Fragment) :
    (ofEntries k l).tables = [] := by
  induction l with
  | nil => rfl
  | cons f l ih => exact ih

@[simp] theorem entries_ofEntries (k k' : ListClause) (l : List Fragment) :
    (ofEntries k' l).entries k = if k' = k then l else [] := by
  induction l with
  | nil => simp [ofEntries, entries]
  | cons f l ih =>
    show (if k' = k then f :: (ofEntries k' l).entries k else (ofEntries k' l).entries k) = _
    rw [ih]
    split <;> rfl

end CallTree

/-! ### The trees of scripts -/

/-- Whether a call adds an item. The others queue a function, or look at the projection. -/
def ProjectionCall.addsItem : ProjectionCall → Bool
  | wrap _ | observe _ => false
  | _ => true

/-- The items that the calls of a script add. One that succeeds adds a single item, at the end. -/
def ProjectionScript.items (schema : Schema) :
    ProjectionScript → (base : String) → (number : Nat) → Projection → Session → List Fragment
  | .done, _, _, _, _ => []
  | .call attempt before c rest, base, number, p, s =>
    let f := Finished.ofPrepared p (before.run schema [] s) fun fragments s =>
      .ofCall p s (c.perform fragments p)
    f.keep ((if c.addsItem then f.builder.items.getLast?.toList else []) ++ ·) <|
      f.follow (base ++ toString number) Projection.report attempt []
        fun p s => rest.items schema base (number + 1) p s
  | .group attempt aliasName steps rest, base, number, p, s =>
    let f := p.finishGroup aliasName
      (steps.run schema (base ++ toString number ++ ".") 0 (.expression p.source) s)
    f.keep (f.builder.items.getLast?.toList ++ ·) <|
      f.follow (base ++ toString number) Projection.report attempt []
        fun p s => rest.items schema base (number + 1) p s

/-- The entry that a call adds, if it succeeds. -/
def ScopeCall.tree (fragments : List Fragment) (q : QueryScope) : ScopeCall → CallTree
  | groupBy column =>
    .ofEntries .groupBy (q.source.qualify (column.value fragments)).toOption.toList
  | orderBy column order =>
    .ofEntries .orderBy <| (q.source.qualify (column.value fragments)).toOption.toList.map
      (·.appendText (" " ++ order.text))
  | aliasName => .done

/-- The table of a join under its alias, with the condition that the join got, if any. -/
def QueryScope.joinTable (kind : JoinKind) (table aliasName : String) (condition : Predicate) :
    Fragment :=
  .verbatim (kind.text ++ " JOIN " ++ table ++ " AS " ++ aliasName) ++
    if condition.isEmpty then .empty else .verbatim " ON " ++ condition.compile.parenthesized

mutual

def ScopeStep.tree (schema : Schema) :
    ScopeStep → (place : String) → QueryScope → Session → CallTree
  | .project steps, place, q, s =>
    .ofEntries .selection (steps.items schema (place ++ ".") 0 q.clauses.projection s)
  | .filter _, _, _, _ => .done
  | .having _, _, _, _ => .done
  | .expr _ _, _, _, _ => .done
  | .join kind model aliasName steps, place, q, s =>
    let (j, counters) := q.openJoin kind model (aliasName.getD model.defaultAlias) s.counters
    let r := steps.run schema (place ++ ".") 0 j { s with counters }
    .join r.result.isOk
      (QueryScope.joinTable kind model.table j.scope.aliasName r.builder.condition)
      (steps.tree schema (place ++ ".") 0 j { s with counters }) .done
  | .call before c, _, q, s =>
    match (before.run schema [] s).1 with
    | .ok fragments => c.tree fragments q
    | .error _ => .done

def JoinScript.tree (schema : Schema) :
    JoinScript → (base : String) → (number : Nat) → Join → Session → CallTree
  | .done, _, _, _, _ => .done
  | .scoped attempt step rest, base, number, j, s =>
    let f := (step.run schema (base ++ toString number) j.scope s).within fun scope =>
      { j with scope }
    (step.tree schema (base ++ toString number) j.scope s).append <|
      f.follow (base ++ toString number) Join.report attempt .done
        fun j s => rest.tree schema base (number + 1) j s
  | .on attempt steps rest, base, number, j, s =>
    let f := (steps.run schema (base ++ toString number ++ ".") 0 j.condition s).finished
      fun condition => { j with condition }
    f.follow (base ++ toString number) Join.report attempt .done
      fun j s => rest.tree schema base (number + 1) j s
  | .call attempt before c rest, base, number, j, s =>
    let f := Finished.ofPrepared j (before.run schema [] s) fun fragments s =>
      c.perform fragments j s
    f.follow (base ++ toString number) Join.report attempt .done
      fun j s => rest.tree schema base (number + 1) j s

end

def QueryScript.tree (schema : Schema) :
    QueryScript → (base : String) → (number : Nat) → Query → Session → CallTree
  | .done, _, _, _, _ => .done
  | .scoped attempt step rest, base, number, q, s =>
    let f := (step.run schema (base ++ toString number) q.scope s).within fun scope =>
      { q with scope }
    (step.tree schema (base ++ toString number) q.scope s).append <|
      f.follow (base ++ toString number) Query.report attempt .done
        fun q s => rest.tree schema base (number + 1) q s
  | .call attempt before c rest, base, number, q, s =>
    let f := Finished.ofPrepared q (before.run schema [] s) fun fragments s =>
      c.perform fragments q s
    f.follow (base ++ toString number) Query.report attempt .done
      fun q s => rest.tree schema base (number + 1) q s

/-! ### Items -/

/-- The list of items has one more, at its end. -/
def Projection.OneMore (p q : Projection) : Prop :=
  q.items = p.items ++ q.items.getLast?.toList

theorem Projection.oneMore_push (p : Projection) (wrappers : List Wrapper) (item : Fragment)
    (alias? : Option String) : p.OneMore (p.push wrappers item alias?) := by
  simp [OneMore, push]

theorem Projection.oneMore_apply {p q : Projection} {wrappers : List Wrapper} {column : ColumnRef}
    {alias? : Option String} (h : p.apply wrappers column alias? = .ok q) : p.OneMore q := by
  obtain ⟨item, -, rfl⟩ := apply_ok h
  exact p.oneMore_push wrappers item _

theorem ProjectionCall.items_change {c : ProjectionCall} {fragments : List Fragment}
    {p q : Projection} (h : c.change fragments p = .ok q) :
    q.items = p.items ++ if c.addsItem then q.items.getLast?.toList else [] := by
  cases c with
  | wrap w =>
    obtain ⟨w, -, h⟩ := bind_ok h
    cases h
    exact (List.append_nil _).symm
  | apply ws column alias? | applyWith f arguments column alias? =>
    obtain ⟨ws, -, h⟩ := bind_ok h
    exact Projection.oneMore_apply h
  | raw sql =>
    cases h
    exact p.oneMore_push [] _ none
  | value s alias? =>
    obtain ⟨v, -, rfl⟩ := Projection.value_ok h
    exact p.oneMore_push [] _ alias?
  | observe o =>
    cases h
    exact (List.append_nil _).symm

/-- A step whose items come after those already there, before the items of the steps after it. -/
theorem Finished.items_keep {p : Projection} {f : Finished Projection} {added : List Fragment}
    {place : String} {attempt : Bool} {next : Projection → Session → List Fragment}
    {run : Projection → Session → Run Projection}
    (hf : (∃ out, f.result = .ok out ∧ f.builder.items = p.items ++ added) ∨
      ((∃ e, f.result = .error e) ∧ f.builder = p))
    (hnext : ∀ s, (run f.builder s).builder.items = f.builder.items ++ next f.builder s) :
    (f.andThen place Projection.report attempt run).builder.items =
      p.items ++ f.keep (added ++ ·) (f.follow place Projection.report attempt [] next) := by
  have hrest : (f.andThen place Projection.report attempt run).builder.items =
      f.builder.items ++ f.follow place Projection.report attempt [] next :=
    andThen_follow (R := fun items (q : Projection) => q.items = f.builder.items ++ items)
      (List.append_nil _).symm hnext
  rcases hf with ⟨out, hresult, hadded⟩ | ⟨⟨e, hresult⟩, hsame⟩
  · rw [keep_ok hresult, hrest, hadded, List.append_assoc]
  · rw [keep_error hresult, hrest, hsame]

theorem ProjectionScript.items_run (schema : Schema) :
    (steps : ProjectionScript) → (base : String) → (number : Nat) → (p : Projection) →
      (s : Session) → (steps.run schema base number p s).builder.items =
        p.items ++ steps.items schema base number p s
  | .done, _, _, _, _ => (List.append_nil _).symm
  | .call attempt before c rest, base, number, p, s => by
    rw [ProjectionScript.items, ProjectionScript.run]
    refine Finished.items_keep ?_ fun s => rest.items_run schema base (number + 1) _ s
    refine (Finished.ofPrepared_cases p (before.run schema [] s) (c.perform · p)).imp_left ?_
    rintro ⟨out, hresult, hcall⟩
    obtain ⟨q, hq, h⟩ := bind_ok hcall
    cases h
    exact ⟨_, hresult, ProjectionCall.items_change hq⟩
  | .group attempt aliasName steps rest, base, number, p, s => by
    rw [ProjectionScript.items, ProjectionScript.run]
    refine Finished.items_keep ?_ fun s => rest.items_run schema base (number + 1) _ s
    refine (Projection.finishGroup_cases p aliasName _).imp_left ?_
    rintro ⟨out, hresult, hgroup⟩
    exact ⟨out, hresult, hgroup ▸ p.oneMore_push _ _ _⟩

/-! ### Scopes -/

/-- The lists of a scope after calls: what was there before, then what the calls of the tree add.
-/
structure QueryScope.Extends (t : CallTree) (q r : QueryScope) : Prop where
  joins : Fragment.spaced r.joins = Fragment.spaced q.joins ++ Fragment.spaced t.tables
  entries : ∀ k : ListClause, k.of r.clauses = k.of q.clauses ++ t.entries k

namespace QueryScope.Extends

variable {q r : QueryScope}

theorem done (q : QueryScope) : Extends .done q q :=
  ⟨(Fragment.append_empty _).symm, fun _ => (List.append_nil _).symm⟩

theorem append {t u : CallTree} {r' : QueryScope} (h : Extends t q r) (h' : Extends u r r') :
    Extends (t.append u) q r' where
  joins := by
    rw [h'.joins, h.joins, CallTree.tables_append, Fragment.spaced_append, Fragment.append_assoc]
  entries k := by
    rw [h'.entries, h.entries, CallTree.entries_append, List.append_assoc]

/-- Entries of one list are added, and nothing else. -/
theorem ofEntries {k : ListClause} {l : List Fragment} (hjoins : r.joins = q.joins)
    (h : ∀ k' : ListClause, k'.of r.clauses = k'.of q.clauses ++ if k = k' then l else []) :
    Extends (.ofEntries k l) q r where
  joins := by
    rw [hjoins, CallTree.tables_ofEntries]
    exact (Fragment.append_empty _).symm
  entries k' := by rw [h, CallTree.entries_ofEntries]

/-- A join that is attached comes with all that was added inside it. -/
theorem attach {t : CallTree} {j : Join} {tree : AliasTree} {number : Nat} {source : Source}
    (h : Extends t (start tree number source) j.scope) (q : QueryScope) :
    Extends (.join true (joinTable j.kind j.scope.source.model.table j.scope.aliasName j.condition)
      t .done) q (q.attach j) where
  joins := by
    have hnested : joinItem j =
        joinTable j.kind j.scope.source.model.table j.scope.aliasName j.condition ++
          Fragment.spaced j.scope.joins := rfl
    have hjoins : Fragment.spaced j.scope.joins = Fragment.spaced t.tables :=
      h.joins.trans (Fragment.empty_append _)
    show Fragment.spaced (q.joins ++ [joinItem j]) = _
    rw [Fragment.spaced_append, hnested, hjoins]
    simp [CallTree.tables, Fragment.spaced, Fragment.append_assoc]
  entries k := by
    have hk : k.of j.scope.clauses = t.entries k := by
      rw [h.entries]
      cases k <;> rfl
    rw [clauses_attach, ListClause.of_merge, hk]
    exact congrArg _ (List.append_nil _).symm

/-- A join that fails is not attached, and neither is anything inside it. -/
theorem abandon (table : Fragment) (t : CallTree) (q : QueryScope) (j : Join) :
    Extends (.join false table t .done) q (q.abandon j) :=
  ⟨(done q).joins, (done q).entries⟩

end QueryScope.Extends

/-! ### Runs -/

open QueryScope (Extends)

theorem QueryScope.extends_finishJoin {q : QueryScope} {kind : JoinKind} {model : Model}
    {proposal : String} {cs : Counters} {r : Run Join} {t : CallTree}
    (hr : (q.openJoin kind model proposal cs).1.Becomes r.builder)
    (h : Extends t (q.openJoin kind model proposal cs).1.scope r.builder.scope) :
    Extends (.join r.result.isOk (joinTable kind model.table
      (q.openJoin kind model proposal cs).1.scope.aliasName r.builder.condition) t .done)
      q (q.finishJoin r).builder := by
  obtain ⟨result, ⟨scope, parent, kind', condition⟩, s⟩ := r
  obtain rfl : kind' = kind := hr.kind_eq
  have hsource : scope.source = (q.openJoin kind' model proposal cs).1.scope.source :=
    hr.scope.elim fun calls => calls.frame.2
  cases result with
  | ok _ =>
    have hattach := h.attach (j := ⟨scope, parent, kind', condition⟩) q
    rw [aliasName, hsource] at hattach
    exact hattach
  | error e => exact .abandon _ t q _

theorem ScopeCall.extends_perform (fragments : List Fragment) (c : ScopeCall) (q : QueryScope)
    (s : Session) :
    Extends (c.tree fragments q) q (Finished.ofCall q s (c.perform fragments q)).builder := by
  cases c with
  | groupBy column =>
    simp only [perform, QueryScope.groupBy, tree]
    cases q.source.qualify (column.value fragments) with
    | error e => exact .done q
    | ok item => exact .ofEntries rfl fun k => by cases k <;> simp <;> rfl
  | orderBy column order =>
    simp only [perform, QueryScope.orderBy, tree]
    cases q.source.qualify (column.value fragments) with
    | error e => exact .done q
    | ok item => exact .ofEntries rfl fun k => by cases k <;> simp <;> rfl
  | aliasName => exact .done q

theorem JoinCall.scope_perform (fragments : List Fragment) (c : JoinCall) (j : Join)
    (s : Session) : (c.perform fragments j s).builder.scope = j.scope := by
  cases c with
  | parent column saveAs =>
    rw [perform]
    split <;> rfl
  | inspection => rfl

/-- A step of a builder that scopes are a part of, and the steps after it. -/
theorem QueryScope.extends_andThen {β : Type} (scope : β → QueryScope) {b : β} {f : Finished β}
    {t : CallTree} (hf : Extends t (scope b) (scope f.builder)) {place : String}
    {state : β → Report} {attempt : Bool} {next : β → Session → CallTree}
    {run : β → Session → Run β}
    (hnext : ∀ s, Extends (next f.builder s) (scope f.builder) (scope (run f.builder s).builder)) :
    Extends (t.append (f.follow place state attempt .done next)) (scope b)
      (scope (f.andThen place state attempt run).builder) :=
  hf.append <| Finished.andThen_follow (R := fun t c => Extends t (scope f.builder) (scope c))
    (.done _) hnext

theorem QueryCall.extends_perform (fragments : List Fragment) (c : QueryCall) (q : Query)
    (s : Session) : Extends .done q.scope (c.perform fragments q s).builder.scope := by
  have h (counter : CounterId) : Extends .done q.scope (q.withCounter counter).scope :=
    ⟨(QueryScope.Extends.done q.scope).joins, (QueryScope.Extends.done q.scope).entries⟩
  cases c with
  | withCounter counter => exact h counter
  | _ => exact .done q.scope

mutual

theorem ScopeStep.extends (schema : Schema) :
    (step : ScopeStep) → (place : String) → (q : QueryScope) → (s : Session) →
      Extends (step.tree schema place q s) q (step.run schema place q s).builder
  | .project steps, place, q, s => by
    rw [ScopeStep.tree, ScopeStep.run]
    refine .ofEntries rfl fun k => ?_
    cases k with
    | selection => exact steps.items_run schema (place ++ ".") 0 q.clauses.projection s
    | groupBy | orderBy => exact (List.append_nil _).symm
  | .filter steps, place, q, s | .having steps, place, q, s => by
    rw [ScopeStep.tree, ScopeStep.run]
    exact ⟨(Fragment.append_empty _).symm, fun k => by cases k <;> exact (List.append_nil _).symm⟩
  | .expr steps saveAs, place, q, s => by
    rw [ScopeStep.tree, ScopeStep.run, QueryScope.finishExpr]
    split <;> exact .done q
  | .join kind model aliasName steps, place, q, s => by
    rw [ScopeStep.tree, ScopeStep.run]
    exact QueryScope.extends_finishJoin (steps.becomes schema (place ++ ".") 0 _ _)
      (steps.extends schema (place ++ ".") 0 _ _)
  | .call before c, place, q, s => by
    rw [ScopeStep.tree, ScopeStep.run]
    obtain ⟨_ | fragments, s⟩ := before.run schema [] s
    · exact .done q
    · exact c.extends_perform fragments q s

theorem JoinScript.extends (schema : Schema) :
    (steps : JoinScript) → (base : String) → (number : Nat) → (j : Join) → (s : Session) →
      Extends (steps.tree schema base number j s) j.scope
        (steps.run schema base number j s).builder.scope
  | .done, _, _, j, _ => .done j.scope
  | .scoped attempt step rest, base, number, j, s => by
    rw [JoinScript.tree, JoinScript.run]
    exact QueryScope.extends_andThen Join.scope (step.extends schema _ j.scope s)
      fun s => rest.extends schema base (number + 1) _ s
  | .on attempt steps rest, base, number, j, s => by
    rw [JoinScript.tree, JoinScript.run]
    exact QueryScope.extends_andThen Join.scope (t := .done) (.done j.scope)
      fun s => rest.extends schema base (number + 1) _ s
  | .call attempt before c rest, base, number, j, s => by
    rw [JoinScript.tree, JoinScript.run]
    have hcall : (Finished.ofPrepared j (before.run schema [] s) fun fragments s =>
        c.perform fragments j s).builder.scope = j.scope :=
      Finished.builder_ofPrepared (fun k : Join => k.scope = j.scope) rfl
        fun fragments s => c.scope_perform fragments j s
    exact QueryScope.extends_andThen Join.scope (t := .done) (hcall ▸ .done j.scope)
      fun s => rest.extends schema base (number + 1) _ s

end

theorem QueryScript.extends (schema : Schema) :
    (steps : QueryScript) → (base : String) → (number : Nat) → (q : Query) → (s : Session) →
      Extends (steps.tree schema base number q s) q.scope
        (steps.run schema base number q s).builder.scope
  | .done, _, _, q, _ => .done q.scope
  | .scoped attempt step rest, base, number, q, s => by
    rw [QueryScript.tree, QueryScript.run]
    exact QueryScope.extends_andThen Query.scope (step.extends schema _ q.scope s)
      fun s => rest.extends schema base (number + 1) _ s
  | .call attempt before c rest, base, number, q, s => by
    rw [QueryScript.tree, QueryScript.run]
    have hcall : Extends .done q.scope (Finished.ofPrepared q (before.run schema [] s)
        fun fragments s => c.perform fragments q s).builder.scope :=
      Finished.builder_ofPrepared (fun r : Query => Extends .done q.scope r.scope) (.done q.scope)
        fun fragments s => c.extends_perform fragments q s
    exact QueryScope.extends_andThen Query.scope (t := .done) hcall
      fun s => rest.extends schema base (number + 1) _ s

/-! ### Statements -/

end SqlCompose
