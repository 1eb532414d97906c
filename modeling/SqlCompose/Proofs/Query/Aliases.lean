import SqlCompose.Proofs.Alias.Allocation
import SqlCompose.Proofs.Query.Calls

/-! The aliases of the scopes of a query. The tree of aliases passes from a query through
its joins and back, whether they succeed or fail, and on the way scopes are only added to
it, each with an alias that no other has. -/

namespace SqlCompose.QueryScope

/-- The tree behind a scope is in order, and the scope is one of its scopes. -/
structure Registered (q : QueryScope) : Prop where
  wellFormed : q.tree.WellFormed
  number_lt : q.number < q.tree.scopes.length
  aliasName_eq : q.tree.aliasName q.number = q.aliasName
  nodup : q.tree.aliases.Nodup

theorem registered_aliased (schema : Schema) (model : Model) (aliasName : String)
    (counter : CounterId) : (Query.aliased schema model aliasName counter).scope.Registered where
  wellFormed := AliasTree.wellFormed_withRoot aliasName counter
  number_lt := Nat.one_pos
  aliasName_eq := rfl
  nodup := List.nodup_singleton _

/-! ### Opening a join -/

theorem aliases_openJoin (q : QueryScope) (kind : JoinKind) (model : Model) (proposal : String)
    (cs : Counters) :
    (q.openJoin kind model proposal cs).1.scope.tree.aliases =
      q.tree.aliases ++ [(q.openJoin kind model proposal cs).1.scope.aliasName] := by
  obtain ⟨name, hname⟩ : ∃ name, (q.tree.allocate q.number proposal cs).1 =
      q.tree.addScope q.number name := ⟨_, rfl⟩
  have htree : (q.openJoin kind model proposal cs).1.scope.tree =
      q.tree.addScope q.number name := hname
  have halias : (q.openJoin kind model proposal cs).1.scope.aliasName =
      (q.tree.addScope q.number name).aliasName q.tree.scopes.length := by
    rw [← hname]
    rfl
  rw [halias, htree, AliasTree.aliasName_eq, AliasTree.aliases_addScope,
    List.getElem?_append_right (by simp)]
  simp

/-- A join is opened in a scope of its own, with an alias that is new to the query. -/
theorem Registered.openJoin {q : QueryScope} (h : q.Registered)
    (hw : q.tree.scopes.length ≤ UInt64.size) (kind : JoinKind) (model : Model) (proposal : String)
    (cs : Counters) : (q.openJoin kind model proposal cs).1.scope.Registered := by
  obtain ⟨name, hnew, hname⟩ := AliasTree.allocate_eq h.wellFormed hw q.number proposal cs
  have htree : (q.openJoin kind model proposal cs).1.scope.tree =
      q.tree.addScope q.number name := hname
  constructor
  · rw [htree]
    exact h.wellFormed.addScope h.number_lt name
  · rw [htree, AliasTree.length_addScope]
    exact Nat.lt_succ_self _
  · rfl
  · rw [htree, AliasTree.aliases_addScope, List.nodup_append]
    refine ⟨h.nodup, List.nodup_singleton _, ?_⟩
    rintro a ha b hb rfl
    exact hnew (List.mem_singleton.mp hb ▸ ha)

theorem length_openJoin (q : QueryScope) (kind : JoinKind) (model : Model) (proposal : String)
    (cs : Counters) :
    (q.openJoin kind model proposal cs).1.scope.tree.scopes.length = q.tree.scopes.length + 1 := by
  simpa using congrArg List.length (q.aliases_openJoin kind model proposal cs)

/-! ### Histories -/

/-- The aliases of the scopes that are opened in the course of some calls, in order. -/
def Calls.opened : {q r : QueryScope} → q.Calls r → List String
  | _, _, .none _ => []
  | _, _, .project before _ => before.opened
  | _, _, .filter before _ => before.opened
  | _, _, .having before _ => before.opened
  | _, _, .groupBy before _ _ => before.opened
  | _, _, .orderBy before _ _ _ => before.opened
  | _, _, .withCounter before _ => before.opened
  | _, _, .attach (r := r) before kind model proposal cs inner _ =>
    before.opened ++ (r.openJoin kind model proposal cs).1.scope.aliasName :: inner.opened
  | _, _, .abandon (r := r) before kind model proposal cs inner _ =>
    before.opened ++ (r.openJoin kind model proposal cs).1.scope.aliasName :: inner.opened

/-- Scopes are only added, in the order in which they are opened, and none changes its
alias. -/
theorem Calls.aliases_eq {q r : QueryScope} (h : q.Calls r) :
    r.tree.aliases = q.tree.aliases ++ h.opened := by
  induction h with
  | none => exact (List.append_nil _).symm
  | project _ _ ih | filter _ _ ih | having _ _ ih | withCounter _ _ ih => exact ih
  | groupBy _ _ h ih => obtain ⟨_, -, rfl⟩ := groupBy_ok h; exact ih
  | orderBy _ _ _ h ih => obtain ⟨_, -, rfl⟩ := orderBy_ok h; exact ih
  | attach _ kind model proposal cs _ _ ih inner | abandon _ kind model proposal cs _ _ ih inner =>
    rw [aliases_openJoin, ih] at inner
    simpa [opened] using inner

/-- The tree that a join hands back has all scopes that it took over. -/
theorem Calls.aliases_prefix {q r : QueryScope} {kind : JoinKind} {model : Model}
    {proposal : String} {cs : Counters} (h : (q.openJoin kind model proposal cs).1.scope.Calls r) :
    q.tree.aliases <+: r.tree.aliases := by
  rw [h.aliases_eq, aliases_openJoin, List.append_assoc]
  exact List.prefix_append _ _

theorem Calls.length_le {q r : QueryScope} (h : q.Calls r) :
    q.tree.scopes.length ≤ r.tree.scopes.length := by
  have := congrArg List.length h.aliases_eq
  simp only [AliasTree.length_aliases, List.length_append] at this
  omega

/-- A scope stays registered in a tree that extends its own. -/
theorem Registered.extend {q : QueryScope} (hq : q.Registered) {tree : AliasTree}
    (hwf : tree.WellFormed) (hnodup : tree.aliases.Nodup)
    (hp : q.tree.aliases <+: tree.aliases) : { q with tree := tree }.Registered := by
  have hlen : q.number < q.tree.aliases.length := by simpa using hq.number_lt
  have hsame : tree.aliases[q.number]? = q.tree.aliases[q.number]? := by
    obtain ⟨rest, hrest⟩ := hp
    rw [← hrest, List.getElem?_append_left hlen]
  refine ⟨hwf, ?_, ?_, hnodup⟩
  · simpa using Nat.lt_of_lt_of_le hlen hp.length_le
  · rw [AliasTree.aliasName_eq, hsame, ← AliasTree.aliasName_eq]
    exact hq.aliasName_eq

/-- Whatever is called, the scope stays registered: a join hands back the tree that its
own last call left, and that tree extends the one it took over. -/
theorem Registered.calls {q r : QueryScope} (hq : q.Registered) (h : q.Calls r)
    (hw : r.tree.scopes.length ≤ UInt64.size) : r.Registered := by
  induction h with
  | none => exact hq
  | project _ _ ih | filter _ _ ih | having _ _ ih => exact { ih hq hw with }
  | groupBy _ _ h ih => obtain ⟨_, -, rfl⟩ := groupBy_ok h; exact { ih hq hw with }
  | orderBy _ _ _ h ih => obtain ⟨_, -, rfl⟩ := orderBy_ok h; exact { ih hq hw with }
  | withCounter _ counter ih =>
    have h := ih hq hw
    exact ⟨h.wellFormed.withCounter counter, h.number_lt, h.aliasName_eq, h.nodup⟩
  | @attach q r s _ kind model proposal cs inner _ _ ih ihInner
  | @abandon q r s _ kind model proposal cs inner _ _ ih ihInner =>
    have hopen := r.length_openJoin kind model proposal cs
    have hr_le : r.tree.scopes.length ≤ UInt64.size := by
      have hs_le : s.tree.scopes.length ≤ UInt64.size := hw
      have := inner.length_le
      omega
    have hr : r.Registered := ih hq hr_le
    have hs : s.Registered := ihInner (hr.openJoin hr_le kind model proposal cs) hw
    exact { hr.extend hs.wellFormed hs.nodup inner.aliases_prefix with }

/-- Every scope that is met while a query is built is registered. -/
theorem Reachable.registered {q : QueryScope} (h : q.Reachable)
    (hw : q.tree.scopes.length ≤ UInt64.size) : q.Registered := by
  induction h with
  | start schema model aliasName counter =>
    exact registered_aliased schema model aliasName counter
  | calls _ h ih => exact (ih (Nat.le_trans h.length_le hw)).calls h hw
  | @openJoin q _ kind model proposal cs ih =>
    rw [length_openJoin] at hw
    exact (ih (by omega)).openJoin (by omega) kind model proposal cs

/-- However a query and its joins are built, with joins that succeed and joins that fail
and with counters in any state, the aliases of all scopes ever opened are distinct. A scope
keeps its alias and its number, which is that of a scope of the tree whenever a join is
opened below it. A join hands back all scopes from before, its own, and those opened in it.
No list in memory has more scopes than a counter of one machine word has numbers. -/
theorem aliases_distinct {q r : QueryScope} (hq : q.Reachable) (h : q.Calls r)
    (hw : r.tree.scopes.length ≤ UInt64.size) :
    r.tree.aliases.Nodup ∧
    r.tree.aliases = q.tree.aliases ++ h.opened ∧
    (r.number = q.number ∧ r.aliasName = q.aliasName ∧
      r.tree.aliases[r.number]? = some r.aliasName) ∧
    r.number < r.tree.scopes.length ∧
    (∀ (i : Nat) (node : AliasScope), r.tree.scopes[i]? = some node →
      ∀ k ∈ node.children, i < k ∧ k < r.tree.scopes.length) ∧
    ∀ (kind : JoinKind) (model : Model) (proposal : String) (cs : Counters) (s : QueryScope)
      (condition : Predicate) (inner : (r.openJoin kind model proposal cs).1.scope.Calls s),
      let join : Join := { scope := s, parent := r.source, kind, condition }
      let scopes := r.tree.aliases ++
        (r.openJoin kind model proposal cs).1.scope.aliasName :: inner.opened
      (r.attach join).tree.aliases = scopes ∧ (r.abandon join).tree.aliases = scopes := by
  have hr : r.Registered := (Reachable.calls hq h).registered hw
  have hsource : r.aliasName = q.aliasName := congrArg Source.aliasName h.frame.2
  refine ⟨hr.nodup, h.aliases_eq, ⟨h.frame.1, hsource, ?_⟩, hr.number_lt,
    hr.wellFormed.ordered, ?_⟩
  · have hlt : r.number < r.tree.aliases.length := by simpa using hr.number_lt
    have hname := hr.aliasName_eq
    rw [AliasTree.aliasName_eq, List.getElem?_eq_getElem hlt] at hname
    rw [List.getElem?_eq_getElem hlt]
    exact congrArg some hname
  · intro kind model proposal cs s condition inner
    have hs := inner.aliases_eq
    rw [aliases_openJoin, List.append_assoc] at hs
    exact ⟨hs, hs⟩

/-- A join that fails keeps its alias taken: the next join under the same name has another. -/
theorem aliases_distinct_after_failure :
    let q := (Query.aliased ⟨[]⟩ { typeName := "Employee", table := "employee" } "E" .shared).scope
    let failed := (q.openJoin .left q.source.model "e" ⟨[]⟩).1
    let next := ((q.abandon failed).openJoin .inner q.source.model "E" ⟨[]⟩).1
    ((q.abandon failed).attach next).tree.scopes.length ≤ UInt64.size ∧
    ((q.abandon failed).attach next).tree.aliases.Nodup ∧
    ((q.abandon failed).attach next).tree.aliases = ["e", "e1", "e2"] := by
  intro q failed next
  have hw : ((q.abandon failed).attach next).tree.scopes.length ≤ UInt64.size := by decide +kernel
  have calls : q.Calls ((q.abandon failed).attach next) :=
    .attach (.abandon (.none q) .left q.source.model "e" ⟨[]⟩ (.none _) (.none _))
      .inner q.source.model "E" ⟨[]⟩ (.none _) (.none _)
  exact ⟨hw, (aliases_distinct (.start _ _ _ _) calls hw).1, by decide +kernel⟩

end SqlCompose.QueryScope
