import SqlCompose.Proofs.Alias.Tree
import SqlCompose.Proofs.Binding.Clauses
import SqlCompose.Query.Basic

/-! Queries under two bindings. The tree of aliases and the counters do not depend on values,
and so both queries have the same scopes with the same aliases. -/

namespace SqlCompose

namespace Likeness

variable (K : Likeness)

/-! ### Scopes -/

structure Clauses (c c' : SqlCompose.Clauses) : Prop where
  filter : K.Predicates c.filter c'.filter
  projection : K.Projections c.projection c'.projection
  groupBy : List.Forall₂ K.alike c.groupBy c'.groupBy
  having : K.Predicates c.having c'.having
  orderBy : List.Forall₂ K.alike c.orderBy c'.orderBy

/-- Scopes with the same number in the same tree, in which all aliases are plain. -/
structure Scopes (q q' : QueryScope) : Prop where
  tree_eq : q'.tree = q.tree
  tree : ∀ a ∈ q.tree.aliases, K.plain a
  number_eq : q'.number = q.number
  source : K.PlainSource q.source
  source_eq : q'.source = q.source
  joins : List.Forall₂ K.alike q.joins q'.joins
  clauses : K.Clauses q.clauses q'.clauses

structure Joins (j j' : Join) : Prop where
  scope : K.Scopes j.scope j'.scope
  parent : K.PlainSource j.parent
  parent_eq : j'.parent = j.parent
  kind_eq : j'.kind = j.kind
  condition : K.Predicates j.condition j'.condition

variable {K}

theorem Clauses.merge {c c' d d' : SqlCompose.Clauses} (h : K.Clauses c c')
    (hd : K.Clauses d d') : K.Clauses (c.merge d) (c'.merge d') where
  filter := h.filter.absorb hd.filter.body hd.filter.isEmpty_eq
  projection :=
    { h.projection with items := List.rel_append h.projection.items hd.projection.items }
  groupBy := List.rel_append h.groupBy hd.groupBy
  having := h.having.absorb hd.having.body hd.having.isEmpty_eq
  orderBy := List.rel_append h.orderBy hd.orderBy

/-- The items of a FROM clause, with a blank before each. -/
theorem items {l l' : List Fragment} (h : List.Forall₂ K.alike l l') :
    K.alike (l.foldr (fun item rest => .verbatim " " ++ item ++ rest) .empty)
      (l'.foldr (fun item rest => .verbatim " " ++ item ++ rest) .empty) := by
  exact List.rel_foldr (R := K.alike) (P := K.alike)
    (fun _ _ hf _ _ hxy => K.append (K.append (fixed (by decide)) hf) hxy) empty h

theorem plain_number (n : Nat) : K.plain (toString n) := by
  refine K.plain_of_not_mem fun h => ?_
  have hdigit := Nat.isDigit_of_mem_toDigits (by decide) (by decide)
    (Nat.toList_repr ▸ h : '?' ∈ Nat.toDigits 10 n)
  exact absurd hdigit (by decide)

theorem plain_firstFree (t : AliasTree) {base : String} (hbase : K.plain base) (tries : Nat)
    {candidate : String} (h : K.plain candidate) (cs : Counters) :
    K.plain (t.firstFree base tries candidate cs).1 := by
  induction tries generalizing candidate cs with
  | zero => exact h
  | succ tries ih =>
    rw [AliasTree.firstFree]
    split
    · exact ih (K.plain_append hbase (plain_number _)) _
    · exact h

theorem plain_aliasName {t : AliasTree} (h : ∀ a ∈ t.aliases, K.plain a)
    (number : Nat) : K.plain (t.aliasName number) := by
  rw [AliasTree.aliasName]
  cases hscope : t.scopes[number]? with
  | none => exact K.plain_of_not_mem (by decide)
  | some scope => exact h _ (List.mem_map_of_mem (List.mem_of_getElem? hscope))

namespace Scopes

variable {q q' : QueryScope}

theorem start {t : AliasTree} (ht : ∀ a ∈ t.aliases, K.plain a) (number : Nat)
    {source : Source} (hs : K.PlainSource source) :
    K.Scopes (.start t number source) (.start t number source) :=
  ⟨rfl, ht, rfl, hs, rfl, .nil, .fresh hs, .start hs false, .nil, .fresh hs, .nil⟩

theorem qualify (h : K.Scopes q q') {c c' : ColumnRef} (hc : K.Columns c c') :
    Outcomes K.alike (q.source.qualify c) (q'.source.qualify c') := by
  rw [h.source_eq]
  exact Likeness.qualify h.source hc

theorem groupBy (h : K.Scopes q q') {c c' : ColumnRef} (hc : K.Columns c c') :
    Outcomes K.Scopes (q.groupBy c) (q'.groupBy c') := by
  refine (h.qualify hc).bind fun f f' hf => .ok { h with clauses := ?_ }
  exact { h.clauses with groupBy := List.rel_append h.clauses.groupBy (.cons hf .nil) }

theorem orderBy (h : K.Scopes q q') {c c' : ColumnRef} (hc : K.Columns c c') (order : Order) :
    Outcomes K.Scopes (q.orderBy c order) (q'.orderBy c' order) := by
  have horder : '?' ∉ (" " ++ order.text).toList := by
    cases order <;> decide
  refine (h.qualify hc).bind fun f f' hf => .ok { h with clauses := ?_ }
  have hitem := appendText hf (K.plain_of_not_mem horder)
  exact { h.clauses with orderBy := List.rel_append h.clauses.orderBy (.cons hitem .nil) }

/-- A join is opened in the same way, whatever values are in the query. -/
theorem openJoin (h : K.Scopes q q') (kind : JoinKind) {model : Model} (hm : K.PlainModel model)
    {proposal : String} (hp : K.plain proposal) (cs : Counters) :
    q'.openJoin kind model proposal cs = q.openJoin kind model proposal cs ∧
      K.Joins (q.openJoin kind model proposal cs).1 (q.openJoin kind model proposal cs).1 := by
  constructor
  · simp only [QueryScope.openJoin, h.tree_eq, h.number_eq, h.source_eq]
  · have hbase : K.plain (Text.lowercase proposal) := K.plain_lowercase hp
    have htree : ∀ a ∈ (q.tree.allocate q.number proposal cs).1.aliases, K.plain a := by
      have hfree := plain_firstFree q.tree hbase q.tree.scopes.length hbase cs
      have hallocate : (q.tree.allocate q.number proposal cs).1 = q.tree.addScope q.number
          (q.tree.firstFree (Text.lowercase proposal) q.tree.scopes.length
            (Text.lowercase proposal) cs).1 := rfl
      rw [hallocate, AliasTree.aliases_addScope, List.forall_mem_append,
        List.forall_mem_singleton]
      exact ⟨h.tree, hfree⟩
    have hsource : K.PlainSource
        { schema := q.source.schema, model
          aliasName := (q.tree.allocate q.number proposal cs).1.aliasName q.tree.nextScope } :=
      ⟨plain_aliasName htree _, hm, h.source.schema⟩
    exact ⟨start htree _ hsource, h.source, rfl, rfl, .fresh hsource⟩

theorem joinItem {j j' : Join} (h : K.Joins j j') :
    K.alike (QueryScope.joinItem j) (QueryScope.joinItem j') := by
  have hkind : '?' ∉ (j.kind.text ++ " JOIN ").toList := by
    cases j.kind <;> decide
  have htable : K.plain (j.kind.text ++ " JOIN " ++ j.scope.source.model.table ++ " AS " ++
      j.scope.source.aliasName) :=
    K.plain_append (K.plain_append (K.plain_append (K.plain_of_not_mem hkind)
      h.scope.source.model.table) (K.plain_of_not_mem (by decide))) h.scope.source.aliasName
  have hempty : j'.condition.isEmpty = j.condition.isEmpty := h.condition.isEmpty_eq
  simp only [QueryScope.joinItem, QueryScope.aliasName, h.kind_eq, h.scope.source_eq, hempty]
  refine K.append (K.append (K.verbatim htable) ?_) (items h.scope.joins)
  split
  · exact empty
  · exact K.append (fixed (by decide)) (parenthesized h.condition.body)

theorem abandon (h : K.Scopes q q') {j j' : Join} (hj : K.Joins j j') :
    K.Scopes (q.abandon j) (q'.abandon j') :=
  { h with tree_eq := hj.scope.tree_eq, tree := hj.scope.tree }

theorem attach (h : K.Scopes q q') {j j' : Join} (hj : K.Joins j j') :
    K.Scopes (q.attach j) (q'.attach j') :=
  { h with
    tree_eq := hj.scope.tree_eq
    tree := hj.scope.tree
    joins := List.rel_append h.joins (.cons (joinItem hj) .nil)
    clauses := h.clauses.merge hj.scope.clauses }

theorem withCounter (h : K.Scopes q q') (counter : CounterId) :
    K.Scopes { q with tree := q.tree.withCounter counter }
      { q' with tree := q'.tree.withCounter counter } :=
  { h with
    tree_eq := by rw [h.tree_eq]
    tree := by simpa using h.tree }

end Scopes

theorem Joins.parentColumn {j j' : Join} (h : K.Joins j j') {c c' : ColumnRef}
    (hc : K.Columns c c') : Outcomes K.alike (j.parentColumn c) (j'.parentColumn c') := by
  rw [Join.parentColumn, Join.parentColumn, h.parent_eq]
  exact qualify h.parent hc

/-! ### Queries -/

variable (K)

/-- The numbers of LIMIT and OFFSET, if they are given. -/
def Limits : Option Int64 → Option Int64 → Prop :=
  Option.Rel fun m n => K.values (.integer m) (.integer n)

structure Queries (q q' : Query) : Prop where
  scope : K.Scopes q.scope q'.scope
  fromQuery : Option.Rel K.alike q.fromQuery q'.fromQuery
  limit : K.Limits q.limit q'.limit
  offset : K.Limits q.offset q'.offset
  unions : List.Forall₂ (fun u u' => u'.1 = u.1 ∧ K.alike u.2 u'.2) q.unions q'.unions

variable {K}

/-- A clause after its keyword. -/
theorem conditionPart (keyword : String) (hk : '?' ∉ (" " ++ keyword ++ " ").toList)
    {p p' : Predicate} (h : K.Predicates p p') :
    K.alike (Query.conditionPart keyword p) (Query.conditionPart keyword p') := by
  have hempty : p'.isEmpty = p.isEmpty := h.isEmpty_eq
  rw [Query.conditionPart, Query.conditionPart, hempty]
  split
  · exact empty
  · exact K.append (fixed hk) h.body

theorem listPart (keyword : String) (hk : '?' ∉ (" " ++ keyword ++ " ").toList)
    {l l' : List Fragment} (h : List.Forall₂ K.alike l l') :
    K.alike (Query.listPart keyword l) (Query.listPart keyword l') := by
  rw [Query.listPart, Query.listPart, isEmpty_of_forall₂ h]
  split
  · exact empty
  · exact K.append (fixed hk) (join (K.plain_of_not_mem (by decide)) h)

namespace Queries

variable {q q' : Query}

theorem selectPart (h : K.Queries q q') : K.alike q.selectPart q'.selectPart := by
  have hstar : K.plain (q.scope.aliasName ++ ".*") :=
    K.plain_append h.scope.source.aliasName (K.plain_of_not_mem (by decide))
  have halias : q'.scope.aliasName = q.scope.aliasName :=
    congrArg Source.aliasName h.scope.source_eq
  simp only [Query.selectPart, h.scope.clauses.projection.isEmpty_eq, halias]
  refine K.append (fixed (by decide)) ?_
  split
  · exact K.verbatim hstar
  · exact h.scope.clauses.projection.compile

theorem fromPart (h : K.Queries q q') : K.alike q.fromPart q'.fromPart := by
  have halias : K.plain (" AS " ++ q.scope.source.aliasName) :=
    K.plain_append (K.plain_of_not_mem (by decide)) h.scope.source.aliasName
  simp only [Query.fromPart, QueryScope.aliasName, h.scope.source_eq]
  refine K.append (K.append (K.append (fixed (by decide)) ?_) (K.verbatim halias))
    (items h.scope.joins)
  have hquery := h.fromQuery
  generalize q.fromQuery = f at hquery
  generalize q'.fromQuery = f' at hquery
  cases hquery with
  | none => exact K.verbatim h.scope.source.model.table
  | some hf => exact parenthesized hf

theorem limitPart (h : K.Queries q q') :
    K.alike (q.limitPart (b := K.left)) (q'.limitPart (b := K.right)) := by
  have hlimit := h.limit
  have hoffset := h.offset
  unfold Query.limitPart
  generalize q.limit = limit at hlimit
  generalize q'.limit = limit' at hlimit
  generalize q.offset = offset at hoffset
  generalize q'.offset = offset' at hoffset
  cases hlimit with
  | none =>
    cases hoffset with
    | none => exact empty
    | some hn =>
      have hnone := K.bound (K.values_refl (.integer (-1)))
      exact K.append (K.append (K.append (fixed (by decide)) hnone) (fixed (by decide)))
        (K.bound hn)
  | some hm =>
    have hword : K.alike (.verbatim " LIMIT ") (.verbatim " LIMIT ") := fixed (by decide)
    have hlimit := K.append hword (K.bound hm)
    cases hoffset with
    | none => exact hlimit
    | some hn => exact K.append (K.append hlimit (fixed (by decide))) (K.bound hn)

theorem unionPart (h : K.Queries q q') : K.alike q.unionPart q'.unionPart := by
  refine List.rel_foldr (P := K.alike) (fun u u' hu x y hxy => ?_) empty h.unions
  have hop : '?' ∉ (" " ++ u.1.text ++ " ").toList := by
    cases u.1 <;> decide
  rw [hu.1]
  exact K.append (K.append (fixed hop) hu.2) hxy

/-- The complete statements. -/
theorem compile (h : K.Queries q q') :
    K.alike (q.compile (b := K.left)) (q'.compile (b := K.right)) := by
  have hc := h.scope.clauses
  have hbody := K.append (K.append (K.append (K.append h.selectPart h.fromPart)
    (conditionPart "WHERE" (by decide) hc.filter))
    (listPart "GROUP BY" (by decide) hc.groupBy))
    (conditionPart "HAVING" (by decide) hc.having)
  exact K.append (K.append (K.append hbody
    (listPart "ORDER BY" (by decide) hc.orderBy)) h.limitPart) h.unionPart

theorem withCounter (h : K.Queries q q') (counter : CounterId) :
    K.Queries (q.withCounter counter) (q'.withCounter counter) :=
  { h with scope := h.scope.withCounter counter }

end Queries

end Likeness

end SqlCompose
