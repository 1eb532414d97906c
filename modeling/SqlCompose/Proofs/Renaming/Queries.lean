import SqlCompose.Proofs.Query.Aliases
import SqlCompose.Proofs.Renaming.Clauses
import SqlCompose.Script.Basic

/-! Queries under several histories. Which alias a new scope gets depends on the counters, and so
does what is taken from them; the number of the scope does not, and a join is opened, attached or
abandoned in the same way. -/

namespace SqlCompose

namespace Naming

variable {ι : Type} (N : Naming ι)

/-! ### Scopes -/

/-- The scopes of one query, or the first of them, have these aliases. -/
def Names (aliases : ι → List String) : Prop :=
  ∃ k : Nat, ∀ i, ∃ l, (N i)[k]? = some l ∧ aliases i <+: l

structure ClauseLists (c : ι → Clauses) : Prop where
  filter : N.Predicates fun i => (c i).filter
  projection : N.Projections fun i => (c i).projection
  groupBy : JointList N.Templated fun i => (c i).groupBy
  having : N.Predicates fun i => (c i).having
  orderBy : JointList N.Templated fun i => (c i).orderBy

/-- Scopes of queries that have equally many scopes. -/
structure Scopes (q : ι → QueryScope) : Prop where
  length : Same fun i => (q i).tree.scopes.length
  source : N.Sources fun i => (q i).source
  joins : JointList N.Templated fun i => (q i).joins
  clauses : N.ClauseLists fun i => (q i).clauses

structure Joins (j : ι → Join) : Prop where
  scope : N.Scopes fun i => (j i).scope
  parent : N.Sources fun i => (j i).parent
  kind : Same fun i => (j i).kind
  condition : N.Predicates fun i => (j i).condition

variable {N}

theorem Names.mono {l l' : ι → List String} (h : N.Names l') (hl : ∀ i, l i <+: l' i) :
    N.Names l := by
  obtain ⟨k, hk⟩ := h
  refine ⟨k, fun i => ?_⟩
  obtain ⟨names, hnames, hprefix⟩ := hk i
  exact ⟨names, hnames, (hl i).trans hprefix⟩

/-- The alias of one scope. -/
theorem Names.alias {l : ι → List String} (h : N.Names l) {n : Nat} {a : ι → String}
    (ha : ∀ i, (l i)[n]? = some (a i)) : N.Alias a := by
  obtain ⟨k, hk⟩ := h
  refine ⟨.scope k n, fun i => ?_⟩
  obtain ⟨names, hnames, rest, hrest⟩ := hk i
  have hlt : n < (l i).length := (List.getElem?_eq_some_iff.mp (ha i)).1
  rw [TemplatePiece.text?, hnames, Option.bind_some, ← hrest, List.getElem?_append_left hlt]
  exact ha i

theorem ClauseLists.start {source : ι → Source} (h : N.Sources source) :
    N.ClauseLists fun i => .on (source i) :=
  ⟨.fresh h, .start h false, .nil, .fresh h, .nil⟩

theorem ClauseLists.merge {c d : ι → Clauses} (h : N.ClauseLists c) (hd : N.ClauseLists d) :
    N.ClauseLists fun i => (c i).merge (d i) where
  filter := h.filter.absorb hd.filter.body
  projection := { h.projection with items := h.projection.items.append hd.projection.items }
  groupBy := h.groupBy.append hd.groupBy
  having := h.having.absorb hd.having.body
  orderBy := h.orderBy.append hd.orderBy

namespace Scopes

variable {q : ι → QueryScope}

theorem start {tree : ι → AliasTree} (hlength : Same fun i => (tree i).scopes.length)
    (number : ι → Nat) {source : ι → Source} (hs : N.Sources source) :
    N.Scopes fun i => .start (tree i) (number i) (source i) :=
  ⟨hlength, hs, .nil, .start hs⟩

theorem groupBy (h : N.Scopes q) {c : ι → ColumnRef} (hc : N.Columns c) :
    JointOutcome N.Scopes fun i => (q i).groupBy (c i) := by
  refine (h.source.qualify hc).bind fun f hf => .ok { h with clauses := ?_ }
  exact { h.clauses with groupBy := h.clauses.groupBy.append (.cons hf .nil) }

theorem orderBy (h : N.Scopes q) {c : ι → ColumnRef} (hc : N.Columns c) (order : Order) :
    JointOutcome N.Scopes fun i => (q i).orderBy (c i) order := by
  refine (h.source.qualify hc).bind fun f hf => .ok { h with clauses := ?_ }
  exact { h.clauses with orderBy := h.clauses.orderBy.append (.cons (hf.appendText _) .nil) }

/-! ### Joins -/

/-- A new scope has the same number under every history, whatever alias it gets. -/
theorem openJoin (h : N.Scopes q) (kind : JoinKind) (model : Model) (proposal : String)
    (cs : ι → Counters)
    (hnames : N.Names fun i =>
      ((q i).openJoin kind model proposal (cs i)).1.scope.tree.aliases) :
    N.Joins fun i => ((q i).openJoin kind model proposal (cs i)).1 := by
  obtain ⟨n, hn⟩ := h.length
  have halias : N.Alias fun i =>
      ((q i).openJoin kind model proposal (cs i)).1.scope.aliasName := by
    -- the new scope is the last one of its tree, after `n` others
    refine hnames.alias (n := n) fun i => ?_
    have hlength : (q i).tree.aliases.length = n := (AliasTree.length_aliases _).trans (hn i)
    rw [QueryScope.aliases_openJoin, List.getElem?_append_right (Nat.le_of_eq hlength), hlength,
      Nat.sub_self]
    rfl
  have hlength : Same fun i =>
      ((q i).openJoin kind model proposal (cs i)).1.scope.tree.scopes.length := by
    simp only [QueryScope.length_openJoin]
    exact h.length.map (· + 1)
  have hsource : N.Sources fun i =>
      ((q i).openJoin kind model proposal (cs i)).1.scope.source :=
    ⟨h.source.schema, .rfl, halias⟩
  exact ⟨⟨hlength, hsource, .nil, .start hsource⟩, h.source, .rfl, .fresh hsource⟩

theorem joinItem {j : ι → Join} (h : N.Joins j) :
    N.Templated fun i => QueryScope.joinItem (j i) := by
  obtain ⟨kind, hkind⟩ := h.kind
  obtain ⟨model, hmodel⟩ := h.scope.source.model
  obtain ⟨e, he⟩ := h.condition.body.isEmpty
  have htable : N.Templated fun i => .verbatim
      (kind.text ++ " JOIN " ++ model.table ++ " AS " ++ (j i).scope.aliasName) :=
    .toAlias h.scope.source.aliasName (by simp)
  simp only [QueryScope.joinItem, Predicate.isEmpty, hkind, hmodel, he]
  refine (htable.append ?_).append (.items h.scope.joins)
  cases e with
  | true => exact .same .empty
  | false => exact (Templated.same _).append h.condition.body.parenthesized

theorem abandon (h : N.Scopes q) {j : ι → Join} (hj : N.Joins j) :
    N.Scopes fun i => (q i).abandon (j i) :=
  { h with length := hj.scope.length }

theorem attach (h : N.Scopes q) {j : ι → Join} (hj : N.Joins j) :
    N.Scopes fun i => (q i).attach (j i) where
  length := hj.scope.length
  source := h.source
  joins := h.joins.append (.cons (joinItem hj) .nil)
  clauses := h.clauses.merge hj.scope.clauses

end Scopes

/-! ### Queries -/

variable (N)

structure Queries (q : ι → Query) : Prop where
  scope : N.Scopes fun i => (q i).scope
  fromQuery : JointOption N.Templated fun i => (q i).fromQuery
  limit : Same fun i => (q i).limit
  offset : Same fun i => (q i).offset
  unions : JointList (fun u => Same (fun i => (u i).1) ∧ N.Templated fun i => (u i).2)
    fun i => (q i).unions

variable {N}

theorem conditionPart (keyword : String) {p : ι → Predicate} (h : N.Predicates p) :
    N.Templated fun i => Query.conditionPart keyword (p i) := by
  obtain ⟨e, he⟩ := h.body.isEmpty
  simp only [Query.conditionPart, Predicate.isEmpty, he]
  cases e with
  | true => exact .same .empty
  | false => exact (Templated.same _).append h.body

theorem listPart (keyword : String) {l : ι → List Fragment} (h : JointList N.Templated l) :
    N.Templated fun i => Query.listPart keyword (l i) := by
  obtain ⟨e, he⟩ := h.isEmpty
  simp only [Query.listPart, he]
  cases e with
  | true => exact .same .empty
  | false => exact (Templated.same _).append (.join ", " h)

namespace Queries

variable {q : ι → Query}

/-- The query that a head starts, with its own alias. -/
theorem start (schema : Schema) (head : QueryHead)
    (hnames : N.Names fun _ => (head.start schema).scope.tree.aliases) :
    N.Queries fun _ => head.start schema := by
  have haliased (aliasName : String)
      (hnames : N.Names fun _ =>
        (Query.aliased schema head.model aliasName head.counter).scope.tree.aliases) :
      N.Queries fun _ => Query.aliased schema head.model aliasName head.counter := by
    have hsource : N.Sources fun _ =>
        (Query.aliased schema head.model aliasName head.counter).scope.source :=
      ⟨.rfl, .rfl, hnames.alias (n := 0) fun i => rfl⟩
    exact ⟨.start .rfl _ hsource, .none, .rfl, .rfl, .nil⟩
  simp only [QueryHead.start] at hnames ⊢
  split at hnames <;> exact haliased _ hnames

theorem selectPart (h : N.Queries q) : N.Templated fun i => (q i).selectPart := by
  obtain ⟨e, he⟩ := h.scope.clauses.projection.items.isEmpty
  simp only [Query.selectPart, Projection.isEmpty, he]
  refine (Templated.same _).append ?_
  cases e with
  | true => exact .ofAlias h.scope.source.aliasName (by decide)
  | false => exact h.scope.clauses.projection.compile

theorem fromPart (h : N.Queries q) : N.Templated fun i => (q i).fromPart := by
  obtain ⟨model, hmodel⟩ := h.scope.source.model
  have halias : N.Templated fun i => .verbatim (" AS " ++ (q i).scope.aliasName) :=
    .toAlias h.scope.source.aliasName (by decide)
  simp only [Query.fromPart, hmodel]
  refine (((Templated.same _).append ?_).append halias).append (.items h.scope.joins)
  rcases h.fromQuery.cases with hnone | ⟨f, hsome, hf⟩
  · simp only [hnone]
    exact .same _
  · simp only [hsome]
    exact hf.parenthesized

theorem unionPart (h : N.Queries q) : N.Templated fun i => (q i).unionPart := by
  refine h.unions.foldr (S := N.Templated) (fun u rest hu hrest => ?_) (.same .empty)
  obtain ⟨⟨op, hop⟩, hf⟩ := hu
  simp only [hop]
  exact ((Templated.same _).append hf).append hrest

theorem compile (h : N.Queries q) : N.Templated fun i => (q i).compile := by
  have hc := h.scope.clauses
  have hlimit : N.Templated fun i => (q i).limitPart := by
    obtain ⟨limit, hlimit⟩ := h.limit
    obtain ⟨offset, hoffset⟩ := h.offset
    simp only [Query.limitPart, hlimit, hoffset]
    exact .same _
  have hbody := (((h.selectPart.append h.fromPart).append (conditionPart "WHERE" hc.filter)).append
    (listPart "GROUP BY" hc.groupBy)).append (conditionPart "HAVING" hc.having)
  exact ((hbody.append (listPart "ORDER BY" hc.orderBy)).append hlimit).append h.unionPart

theorem withCounter (h : N.Queries q) (counter : CounterId) :
    N.Queries fun i => (q i).withCounter counter :=
  { h with scope := { h.scope with } }

end Queries

end Naming

end SqlCompose
