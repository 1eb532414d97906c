import SqlCompose.Proofs.Query.Aliases
import SqlCompose.Proofs.Query.Pieces

/-! Where aliases are declared in a statement. The FROM clause declares the alias of the query's own
table and then those of the joins that were attached, each before the joins in it, and no alias
twice. All columns that a scope names are those of its own table under the alias declared for it,
and a condition comes after the declarations of all tables that its join, or one around it, is
joined to. -/

namespace SqlCompose

/-! ### Declarations in order -/

namespace Pieces

/-- The tables that are declared, in order. -/
def tables (l : Pieces) : List ScopeTable :=
  l.filterMap fun
    | .table t => some t
    | _ => none

/-- Columns are those of `all` tables, and where a condition begins, its table and those that it may
name besides are among the `known` ones or have been declared since. -/
def InOrder (all : List ScopeTable) : (known : List ScopeTable) → Pieces → Prop
  | _, [] => True
  | known, .text _ :: rest => InOrder all known rest
  | known, .table t :: rest => InOrder all (known ++ [t]) rest
  | known, .column t _ :: rest => t ∈ all ∧ InOrder all known rest
  | known, .on t parents :: rest => t :: parents ⊆ known ∧ InOrder all known rest

@[simp] theorem tables_append (l l' : Pieces) : tables (l ++ l') = tables l ++ tables l' :=
  List.filterMap_append

theorem IsWithin.tables_eq {ts : List ScopeTable} {l : Pieces} (h : l.IsWithin ts) :
    l.tables = [] := by
  refine List.filterMap_eq_nil_iff.mpr fun p hp => ?_
  have hp := h p hp
  cases p with
  | table t => exact hp.elim
  | _ => rfl

variable {all known : List ScopeTable}

theorem inOrder_append {l l' : Pieces} :
    InOrder all known (l ++ l') ↔ InOrder all known l ∧ InOrder all (known ++ l.tables) l' := by
  induction l generalizing known with
  | nil => simp [InOrder, tables]
  | cons p l ih =>
    cases p with
    | text f => exact ih
    | table t =>
      have htables : known ++ tables (.table t :: l) = known ++ [t] ++ tables l :=
        (List.append_assoc known [t] (tables l)).symm
      rw [htables]
      exact ih
    | column t name | on t parents =>
      simp only [List.cons_append, InOrder, and_assoc]
      exact and_congr_right fun _ => ih

theorem IsWithin.own {t : ScopeTable} {l : Pieces} (h : l.IsWithin [t]) {ts : List ScopeTable} :
    l.IsWithin (t :: ts) :=
  h.mono (List.cons_subset_cons t (List.nil_subset ts))

theorem IsWithin.inOrder {ts : List ScopeTable} {l : Pieces} (h : l.IsWithin ts) (hts : ts ⊆ all) :
    InOrder all known l := by
  induction l with
  | nil => trivial
  | cons p l ih =>
    rw [isWithin_cons] at h
    cases p with
    | text f => exact ih h.2
    | column t name => exact ⟨hts h.1, ih h.2⟩
    | table t | on t parents => exact h.1.elim

theorem InOrder.mem_all {l : Pieces} (h : InOrder all known l) {t : ScopeTable} {name : String}
    (ht : .column t name ∈ l) : t ∈ all := by
  obtain ⟨before, after, rfl⟩ := List.append_of_mem ht
  exact (inOrder_append.mp h).2.1

theorem InOrder.mem_known {before after : Pieces} {t : ScopeTable} {parents : List ScopeTable}
    (h : InOrder all known (before ++ .on t parents :: after)) :
    t :: parents ⊆ known ++ before.tables :=
  (inOrder_append.mp h).2.1

/-! ### Joins and conditions -/

/-- The items of a FROM clause, with a blank before each. -/
def spaced (l : List Pieces) : Pieces :=
  l.flatMap fun item => ofText " " ++ item

@[simp] theorem spaced_append (l l' : List Pieces) : spaced (l ++ l') = spaced l ++ spaced l' :=
  List.flatMap_append

theorem spaced_singleton (item : Pieces) : spaced [item] = ofText " " ++ item :=
  List.append_nil _

theorem written_spaced (l : List Pieces) : (spaced l).written = .spaced (l.map written) := by
  induction l with
  | nil => rfl
  | cons item l ih =>
    show written (ofText " " ++ item ++ spaced l) = _
    rw [written_append, written_append, written_ofText, ih]
    rfl

/-- The condition of a join that has been attached is taken over in parentheses. -/
def absorb (l condition : Pieces) : Pieces :=
  if condition.written.isEmpty then l else l.glue (.and, condition.parenthesized)

/-- The table of a join with its condition, if it has one. -/
def joinTable (kind : JoinKind) (t : ScopeTable) (parents : List ScopeTable) (condition : Pieces) :
    Pieces :=
  [.text (.verbatim (kind.text ++ " JOIN " ++ t.source.model.table)), .table t] ++
    if condition.written.isEmpty then [] else .on t parents :: condition.parenthesized

theorem tables_joinTable (kind : JoinKind) (t : ScopeTable) (parents : List ScopeTable)
    {condition : Pieces} (hcondition : condition.IsWithin [t]) :
    (joinTable kind t parents condition).tables = [t] := by
  have hon : tables (if condition.written.isEmpty then [] else
      .on t parents :: condition.parenthesized) = [] := by
    split
    · rfl
    · exact (isWithin_parenthesized.mpr hcondition).tables_eq
  rw [joinTable, tables_append, hon]
  rfl

theorem inOrder_joinTable (kind : JoinKind) {t : ScopeTable} {parents : List ScopeTable}
    {condition : Pieces} (hcondition : condition.IsWithin [t]) (ht : t ∈ all)
    (hparents : parents ⊆ known) : InOrder all known (joinTable kind t parents condition) := by
  rw [joinTable, inOrder_append]
  refine ⟨trivial, ?_⟩
  split
  · trivial
  · refine ⟨List.cons_subset.mpr ⟨by simp [tables], fun p hp => ?_⟩, ?_⟩
    · exact List.mem_append_left _ (hparents hp)
    · exact (isWithin_parenthesized.mpr hcondition).inOrder
        (List.cons_subset.mpr ⟨ht, List.nil_subset all⟩)

theorem body_absorb {p : Predicate} {l : Pieces} (hp : p.body = l.written) (condition : Pieces) :
    (p.absorb condition.written).body = (l.absorb condition).written := by
  rw [Predicate.absorb, absorb]
  split
  · exact hp
  · rw [written_glue, written_parenthesized, ← hp]
    rfl

theorem IsWithin.absorb {ts : List ScopeTable} {l condition : Pieces} (hl : l.IsWithin ts)
    (hcondition : condition.IsWithin ts) : (l.absorb condition).IsWithin ts := by
  rw [Pieces.absorb]
  split
  · exact hl
  · exact isWithin_glue hl (isWithin_parenthesized.mpr hcondition)

end Pieces

open Pieces (written spaced ofText)

/-! ### Scopes -/

/-- The joins and clauses of a scope in pieces. -/
structure ScopePieces where
  joins : List Pieces := []
  filter : Pieces := []
  selection : List Pieces := []
  groupBy : List Pieces := []
  having : Pieces := []
  orderBy : List Pieces := []

/-- A join is attached: its table, with the joins in it, and its clauses. -/
def ScopePieces.attach (m : ScopePieces) (table : Pieces) (inner : ScopePieces) : ScopePieces where
  joins := m.joins ++ [table ++ spaced inner.joins]
  filter := m.filter.absorb inner.filter
  selection := m.selection ++ inner.selection
  groupBy := m.groupBy ++ inner.groupBy
  having := m.having.absorb inner.having
  orderBy := m.orderBy ++ inner.orderBy

namespace QueryScope

/-- The table of a scope. -/
def table (q : QueryScope) : ScopeTable :=
  ⟨q.number, q.source⟩

theorem Calls.table_eq {q r : QueryScope} (h : q.Calls r) : r.table = q.table := by
  rw [table, table, h.frame.1, h.frame.2]

/-- The tables of the joins that are attached in the course of some calls, each before those of the
joins in it. -/
def Calls.attached : {q r : QueryScope} → q.Calls r → List ScopeTable
  | _, _, .none _ => []
  | _, _, .project before _ => before.attached
  | _, _, .filter before _ => before.attached
  | _, _, .having before _ => before.attached
  | _, _, .groupBy before _ _ => before.attached
  | _, _, .orderBy before _ _ _ => before.attached
  | _, _, .withCounter before _ => before.attached
  | _, _, .attach (r := r) before kind model proposal cs inner _ =>
    before.attached ++ (r.openJoin kind model proposal cs).1.scope.table :: inner.attached
  | _, _, .abandon before _ _ _ _ _ _ => before.attached

/-- The joins and clauses that calls add to a scope. In the conditions of joins, operands may name
columns of `parents` and of the scopes that the joins are opened in. -/
def Calls.pieces (parents : List ScopeTable) : {q r : QueryScope} → q.Calls r → ScopePieces
  | _, _, .none _ => {}
  | _, _, .project (r := r) before calls =>
    let m := before.pieces parents
    { m with selection := m.selection ++ calls.pieces r.table }
  | _, _, .filter (r := r) before calls =>
    let m := before.pieces parents
    { m with filter := (calls.pieces r.table).foldl Pieces.glue m.filter }
  | _, _, .having (r := r) before calls =>
    let m := before.pieces parents
    { m with having := (calls.pieces r.table).foldl Pieces.glue m.having }
  | _, _, .groupBy (r := r) before column _ =>
    let m := before.pieces parents
    { m with groupBy := m.groupBy ++ [column.pieces r.table] }
  | _, _, .orderBy (r := r) before column order _ =>
    let m := before.pieces parents
    { m with orderBy := m.orderBy ++ [column.pieces r.table ++ ofText (" " ++ order.text)] }
  | _, _, .withCounter before _ => before.pieces parents
  | _, _, .attach (r := r) before kind model proposal cs inner on =>
    let t := (r.openJoin kind model proposal cs).1.scope.table
    let condition := (on.pieces t).foldl Pieces.glue []
    (before.pieces parents).attach (Pieces.joinTable kind t (r.table :: parents) condition)
      (inner.pieces (r.table :: parents))
  | _, _, .abandon before _ _ _ _ _ _ => before.pieces parents

end QueryScope

/-! ### What the pieces of a scope write -/

/-- The joins and clauses of a scope are what the pieces write. -/
structure ScopePieces.Spells (m : ScopePieces) (q : QueryScope) : Prop where
  joins : q.joins = m.joins.map written
  filter : q.clauses.filter.body = m.filter.written
  selection : q.clauses.projection.items = m.selection.map written
  groupBy : q.clauses.groupBy = m.groupBy.map written
  having : q.clauses.having.body = m.having.written
  orderBy : q.clauses.orderBy = m.orderBy.map written
  filter_source : q.clauses.filter.source = q.source
  projection_source : q.clauses.projection.source = q.source
  having_source : q.clauses.having.source = q.source

theorem ScopePieces.spells_start (tree : AliasTree) (number : Nat) (source : Source) :
    ({} : ScopePieces).Spells (.start tree number source) :=
  ⟨rfl, rfl, rfl, rfl, rfl, rfl, rfl, rfl, rfl⟩

theorem Pieces.map_written_append {fs gs : List Fragment} {l l' : List Pieces}
    (h : fs = l.map written) (h' : gs = l'.map written) : fs ++ gs = (l ++ l').map written := by
  rw [h, h', List.map_append]

theorem Predicate.source_absorb (p : Predicate) (condition : Fragment) :
    (p.absorb condition).source = p.source := by
  rw [absorb]
  split <;> rfl

theorem Pieces.written_joinTable {j : Join} {condition : Pieces}
    (h : j.condition.body = condition.written) (parents : List ScopeTable) {joins : List Pieces}
    (hjoins : j.scope.joins = joins.map written) :
    (joinTable j.kind j.scope.table parents condition ++ spaced joins).written =
      QueryScope.joinItem j := by
  have htable : written [.text (.verbatim (j.kind.text ++ " JOIN " ++ j.scope.source.model.table)),
      .table j.scope.table] = .verbatim
        (j.kind.text ++ " JOIN " ++ j.scope.source.model.table ++ " AS " ++ j.scope.aliasName) := by
    rw [written_cons, written_singleton]
    exact Fragment.ext String.append_assoc.symm rfl
  have hon : written (if condition.written.isEmpty then [] else
      .on j.scope.table parents :: condition.parenthesized) =
      if j.condition.isEmpty then .empty
      else .verbatim " ON " ++ j.condition.compile.parenthesized := by
    rw [Predicate.isEmpty, Predicate.compile, h]
    split
    · rfl
    · rw [written_cons, written_parenthesized]
      rfl
  rw [joinTable, written_append, written_append, hon, written_spaced, ← hjoins]
  exact congrArg (· ++ _ ++ _) htable

theorem ScopePieces.Spells.attach {m inner : ScopePieces} {q : QueryScope} {j : Join}
    (h : m.Spells q) (hinner : inner.Spells j.scope) {condition : Pieces}
    (hcondition : j.condition.body = condition.written) (parents : List ScopeTable) :
    (m.attach (Pieces.joinTable j.kind j.scope.table parents condition) inner).Spells
      (q.attach j) where
  joins := Pieces.map_written_append h.joins
    (congrArg ([·]) (Pieces.written_joinTable hcondition parents hinner.joins).symm)
  filter := by
    have hfilter := Pieces.body_absorb h.filter inner.filter
    rw [← hinner.filter] at hfilter
    exact hfilter
  selection := Pieces.map_written_append h.selection hinner.selection
  groupBy := Pieces.map_written_append h.groupBy hinner.groupBy
  having := by
    have hhaving := Pieces.body_absorb h.having inner.having
    rw [← hinner.having] at hhaving
    exact hhaving
  orderBy := Pieces.map_written_append h.orderBy hinner.orderBy
  filter_source := (Predicate.source_absorb ..).trans h.filter_source
  projection_source := h.projection_source
  having_source := (Predicate.source_absorb ..).trans h.having_source

theorem QueryScope.Calls.spells {q r : QueryScope} (h : q.Calls r) (parents : List ScopeTable)
    (hq : ({} : ScopePieces).Spells q) : (h.pieces parents).Spells r := by
  induction h generalizing parents with
  | none => exact hq
  | project _ calls ih =>
    have hr := ih parents hq
    exact { hr with
      selection := (calls.items_written hr.projection_source).trans
        (Pieces.map_written_append hr.selection rfl)
      projection_source := calls.source_eq.trans hr.projection_source }
  | filter _ calls ih =>
    have hr := ih parents hq
    exact { hr with
      filter := calls.body_written hr.filter_source hr.filter
      filter_source := calls.source_eq.trans hr.filter_source }
  | having _ calls ih =>
    have hr := ih parents hq
    exact { hr with
      having := calls.body_written hr.having_source hr.having
      having_source := calls.source_eq.trans hr.having_source }
  | @groupBy q r _ _ column h ih =>
    obtain ⟨item, hitem, rfl⟩ := groupBy_ok h
    have hr := ih parents hq
    have hcolumn : (column.pieces r.table).written = item := ColumnRef.written_pieces hitem
    exact { hr with
      groupBy := Pieces.map_written_append hr.groupBy (congrArg ([·]) hcolumn.symm) }
  | @orderBy q r _ _ column order h ih =>
    obtain ⟨item, hitem, rfl⟩ := orderBy_ok h
    have hr := ih parents hq
    have hcolumn : (column.pieces r.table).written = item := ColumnRef.written_pieces hitem
    have hordered : (column.pieces r.table ++ ofText (" " ++ order.text)).written =
        item.appendText (" " ++ order.text) := by
      rw [Pieces.written_append, hcolumn, Pieces.written_ofText]
      rfl
    exact { hr with
      orderBy := Pieces.map_written_append hr.orderBy (congrArg ([·]) hordered.symm) }
  | withCounter _ _ ih | abandon _ _ _ _ _ _ _ ih => exact { ih parents hq with }
  | @attach q r s _ kind model proposal cs inner condition on ih ihInner =>
    have hcondition := on.body_written (t := (r.openJoin kind model proposal cs).1.scope.table)
      (l := []) rfl rfl
    have hs := ihInner (r.table :: parents) (ScopePieces.spells_start ..)
    have hattach := (ih parents hq).attach (j := ⟨s, r.source, kind, condition⟩) hs hcondition
      (r.table :: parents)
    rw [inner.table_eq] at hattach
    exact hattach

/-! ### The order of the pieces of a scope -/

/-- Clauses that declare nothing and use only the aliases of the given tables. -/
structure ScopePieces.ClausesWithin (m : ScopePieces) (ts : List ScopeTable) : Prop where
  filter : m.filter.IsWithin ts
  selection : ∀ item ∈ m.selection, item.IsWithin ts
  groupBy : ∀ column ∈ m.groupBy, column.IsWithin ts
  having : m.having.IsWithin ts
  orderBy : ∀ column ∈ m.orderBy, column.IsWithin ts

namespace ScopePieces.ClausesWithin

variable {m inner : ScopePieces} {ts : List ScopeTable}

theorem mono {ts' : List ScopeTable} (hts : ts ⊆ ts') (h : m.ClausesWithin ts) :
    m.ClausesWithin ts' where
  filter := h.filter.mono hts
  selection item hitem := (h.selection item hitem).mono hts
  groupBy column hcolumn := (h.groupBy column hcolumn).mono hts
  having := h.having.mono hts
  orderBy column hcolumn := (h.orderBy column hcolumn).mono hts

theorem none (ts : List ScopeTable) : ({} : ScopePieces).ClausesWithin ts where
  filter := Pieces.isWithin_nil
  selection := List.forall_mem_nil _
  groupBy := List.forall_mem_nil _
  having := Pieces.isWithin_nil
  orderBy := List.forall_mem_nil _

theorem attach (h : m.ClausesWithin ts) (hinner : inner.ClausesWithin ts) (table : Pieces) :
    (m.attach table inner).ClausesWithin ts where
  filter := h.filter.absorb hinner.filter
  selection := List.forall_mem_append.mpr ⟨h.selection, hinner.selection⟩
  groupBy := List.forall_mem_append.mpr ⟨h.groupBy, hinner.groupBy⟩
  having := h.having.absorb hinner.having
  orderBy := List.forall_mem_append.mpr ⟨h.orderBy, hinner.orderBy⟩

end ScopePieces.ClausesWithin

/-- The pieces of a scope with the table `own`, in which the tables `attached` are joined. Its joins
declare these, in order, and everything that its clauses use is declared. -/
structure ScopePieces.Fits (m : ScopePieces) (own : ScopeTable)
    (parents attached : List ScopeTable) : Prop where
  clauses : m.ClausesWithin (own :: attached)
  tables : (spaced m.joins).tables = attached
  inOrder : ∀ all known, own :: attached ⊆ all → own :: parents ⊆ known →
    Pieces.InOrder all known (spaced m.joins)

theorem ScopePieces.Fits.attach {m inner : ScopePieces} {own t : ScopeTable}
    {parents attached inside : List ScopeTable} (h : m.Fits own parents attached)
    (hinner : inner.Fits t (own :: parents) inside) (kind : JoinKind) {condition : Pieces}
    (hcondition : condition.IsWithin [t]) :
    (m.attach (Pieces.joinTable kind t (own :: parents) condition) inner).Fits own parents
      (attached ++ t :: inside) where
  clauses := by
    have hinside : t :: inside ⊆ own :: (attached ++ t :: inside) :=
      List.Subset.trans (List.subset_append_right attached _) (List.subset_cons_self own _)
    have hattached : own :: attached ⊆ own :: (attached ++ t :: inside) :=
      List.cons_subset_cons own (List.subset_append_left attached _)
    exact (h.clauses.mono hattached).attach (hinner.clauses.mono hinside) _
  tables := by
    rw [ScopePieces.attach, Pieces.spaced_append, Pieces.spaced_singleton, Pieces.tables_append,
      Pieces.tables_append, Pieces.tables_append, Pieces.tables_joinTable kind t _ hcondition,
      h.tables, hinner.tables]
    rfl
  inOrder all known hall hknown := by
    obtain ⟨hown, hall⟩ := List.cons_subset.mp hall
    have hattached : attached ⊆ all := List.Subset.trans (List.subset_append_left attached _) hall
    have hinside : t :: inside ⊆ all := List.Subset.trans (List.subset_append_right attached _) hall
    rw [ScopePieces.attach, Pieces.spaced_append, Pieces.spaced_singleton, Pieces.inOrder_append,
      Pieces.inOrder_append, Pieces.inOrder_append]
    refine ⟨h.inOrder all known (List.cons_subset.mpr ⟨hown, hattached⟩) hknown, trivial, ?_, ?_⟩
    · exact Pieces.inOrder_joinTable kind hcondition (List.cons_subset.mp hinside).1
        (List.subset_append_of_subset_left _ (List.subset_append_of_subset_left _ hknown))
    · refine hinner.inOrder all _ hinside (List.cons_subset.mpr ⟨?_, ?_⟩)
      · rw [Pieces.tables_joinTable kind t _ hcondition]
        exact List.mem_append_right _ (List.mem_singleton_self t)
      · exact List.subset_append_of_subset_left _
          (List.subset_append_of_subset_left _ (List.subset_append_of_subset_left _ hknown))

theorem QueryScope.Calls.fits {q r : QueryScope} (h : q.Calls r) (parents : List ScopeTable) :
    (h.pieces parents).Fits r.table parents h.attached := by
  induction h generalizing parents with
  | none => exact ⟨.none _, rfl, fun _ _ _ _ => trivial⟩
  | @project q r before projection calls ih =>
    have hr := ih parents
    exact { hr with
      clauses := { hr.clauses with
        selection := List.forall_mem_append.mpr ⟨hr.clauses.selection,
          fun item hitem => (calls.isWithin_pieces r.table item hitem).own⟩ } }
  | @filter q r before filter calls ih =>
    have hr := ih parents
    exact { hr with
      clauses := { hr.clauses with
        filter := Pieces.isWithin_foldl_glue hr.clauses.filter
          fun test htest => (calls.isWithin_pieces r.table test htest).own } }
  | @having q r before having calls ih =>
    have hr := ih parents
    exact { hr with
      clauses := { hr.clauses with
        having := Pieces.isWithin_foldl_glue hr.clauses.having
          fun test htest => (calls.isWithin_pieces r.table test htest).own } }
  | @groupBy q r _ before column h ih =>
    obtain ⟨item, -, rfl⟩ := groupBy_ok h
    have hr := ih parents
    exact { hr with
      clauses := { hr.clauses with
        groupBy := List.forall_mem_append.mpr ⟨hr.clauses.groupBy,
          List.forall_mem_singleton.mpr (column.isWithin_pieces r.table).own⟩ } }
  | @orderBy q r _ before column order h ih =>
    obtain ⟨item, -, rfl⟩ := orderBy_ok h
    have hr := ih parents
    exact { hr with
      clauses := { hr.clauses with
        orderBy := List.forall_mem_append.mpr ⟨hr.clauses.orderBy,
          List.forall_mem_singleton.mpr (Pieces.isWithin_append.mpr
            ⟨(column.isWithin_pieces r.table).own, Pieces.isWithin_ofText _⟩)⟩ } }
  | withCounter _ _ ih | abandon _ _ _ _ _ _ _ ih => exact ih parents
  | @attach q r s before kind model proposal cs inner condition on ih ihInner =>
    have hcondition := Pieces.isWithin_foldl_glue (l := []) Pieces.isWithin_nil
      (on.isWithin_pieces (r.openJoin kind model proposal cs).1.scope.table)
    have hinner := ihInner (r.table :: parents)
    rw [inner.table_eq] at hinner
    exact (ih parents).attach hinner kind hcondition

/-! ### Aliases of attached scopes -/

theorem getElem?_of_prefix {α : Type} {l l' : List α} (hp : l <+: l') {i : Nat} {a : α}
    (h : l[i]? = some a) : l'[i]? = some a := by
  obtain ⟨rest, rfl⟩ := hp
  rwa [List.getElem?_append_left (List.getElem?_eq_some_iff.mp h).1]

namespace QueryScope.Calls

variable {q r : QueryScope} (h : q.Calls r)

include h

theorem attached_sublist : (h.attached.map (·.aliasName)).Sublist h.opened := by
  induction h with
  | none => exact .slnil
  | project _ _ ih | filter _ _ ih | having _ _ ih | withCounter _ _ ih => exact ih
  | groupBy _ _ _ ih | orderBy _ _ _ _ ih => exact ih
  | attach _ _ _ _ _ _ _ ih ihInner =>
    rw [attached, List.map_append]
    exact ih.append (ihInner.cons_cons _)
  | abandon _ _ _ _ _ _ _ ih => exact ih.trans (List.sublist_append_left _ _)

/-- Each attached scope has the alias that stands at its number in the tree. -/
theorem aliases_attached : ∀ t ∈ h.attached, r.tree.aliases[t.number]? = some t.aliasName := by
  induction h with
  | none => exact List.forall_mem_nil _
  | project _ _ ih | filter _ _ ih | having _ _ ih | withCounter _ _ ih => exact ih
  | groupBy _ _ h ih => obtain ⟨_, -, rfl⟩ := groupBy_ok h; exact ih
  | orderBy _ _ _ h ih => obtain ⟨_, -, rfl⟩ := orderBy_ok h; exact ih
  | @attach q r s before kind model proposal cs inner condition on ih ihInner =>
    rw [attached, List.forall_mem_append, List.forall_mem_cons]
    refine ⟨fun t ht => getElem?_of_prefix inner.aliases_prefix (ih t ht), ?_, ihInner⟩
    have hnew : (r.openJoin kind model proposal cs).1.scope.tree.aliases[r.tree.scopes.length]? =
        some (r.openJoin kind model proposal cs).1.scope.aliasName := by
      rw [aliases_openJoin, ← AliasTree.length_aliases, List.getElem?_concat_length]
    exact getElem?_of_prefix ⟨inner.opened, inner.aliases_eq.symm⟩ hnew
  | abandon _ _ _ _ _ inner _ ih =>
    exact fun t ht => getElem?_of_prefix inner.aliases_prefix (ih t ht)

end QueryScope.Calls

/-! ### Statements -/

namespace Pieces

/-- A condition after its keyword, or nothing if there is none. -/
def conditionPart (keyword : String) (l : Pieces) : Pieces :=
  if l.written.isEmpty then [] else ofText (" " ++ keyword ++ " ") ++ l

/-- A list of columns after its keyword, or nothing if it has none. -/
def listPart (keyword : String) (l : List Pieces) : Pieces :=
  if l.isEmpty then [] else ofText (" " ++ keyword ++ " ") ++ join ", " l

theorem written_conditionPart (keyword : String) {p : Predicate} {l : Pieces}
    (h : p.body = l.written) :
    (conditionPart keyword l).written = Query.conditionPart keyword p := by
  rw [conditionPart, Query.conditionPart, Predicate.isEmpty, Predicate.compile, h]
  split
  · rfl
  · rw [written_append, written_ofText]

theorem written_listPart (keyword : String) (l : List Pieces) :
    (listPart keyword l).written = Query.listPart keyword (l.map written) := by
  rw [listPart, Query.listPart, List.isEmpty_map]
  split
  · rfl
  · rw [written_append, written_ofText, written_join]

theorem isWithin_conditionPart {ts : List ScopeTable} (keyword : String) {l : Pieces}
    (h : l.IsWithin ts) : (conditionPart keyword l).IsWithin ts := by
  rw [conditionPart]
  split <;> simp [h]

theorem isWithin_listPart {ts : List ScopeTable} (keyword : String) {l : List Pieces}
    (h : ∀ column ∈ l, column.IsWithin ts) : (listPart keyword l).IsWithin ts := by
  rw [listPart]
  split
  · exact isWithin_nil
  · exact isWithin_append.mpr ⟨isWithin_ofText _, isWithin_join ", " h⟩

end Pieces

namespace Query

/-- The selected items, or all columns of the query's own table. -/
def selectPieces (q : Query) (m : ScopePieces) : Pieces :=
  ofText "SELECT " ++
    if m.selection.isEmpty then [.column q.scope.table "*"] else Pieces.join ", " m.selection

/-- What the query reads from under its alias, and the joins. -/
def fromPieces (q : Query) (m : ScopePieces) : Pieces :=
  ofText " FROM " ++ [.text q.origin] ++ [.table q.scope.table] ++ spaced m.joins

/-- The clauses after FROM. -/
def clausePieces (q : Query) (m : ScopePieces) : Pieces :=
  Pieces.conditionPart "WHERE" m.filter ++ Pieces.listPart "GROUP BY" m.groupBy ++
    Pieces.conditionPart "HAVING" m.having ++ Pieces.listPart "ORDER BY" m.orderBy ++
    [.text q.limitPart] ++ [.text q.unionPart]

/-- The pieces of a statement, after calls on the scope of its query. -/
def pieces (q : Query) {start : QueryScope} (h : start.Calls q.scope) : Pieces :=
  q.selectPieces (h.pieces []) ++ q.fromPieces (h.pieces []) ++ q.clausePieces (h.pieces [])

variable {q : Query} {m : ScopePieces}

theorem written_selectPieces (hm : m.Spells q.scope)
    (hplain : q.scope.clauses.projection.isExpression = false) :
    (q.selectPieces m).written = q.selectPart := by
  rw [selectPart, Projection.isEmpty, Projection.compile, hplain, hm.selection, List.isEmpty_map,
    selectPieces, Pieces.written_append, Pieces.written_ofText]
  split
  · rw [Pieces.written_singleton]
    exact congrArg _ (Fragment.ext String.append_assoc rfl)
  · rw [Pieces.written_join]
    rfl

theorem written_fromPieces (hm : m.Spells q.scope) : (q.fromPieces m).written = q.fromPart := by
  rw [fromPart_eq, hm.joins, fromPieces, Pieces.written_append, Pieces.written_append,
    Pieces.written_append, Pieces.written_ofText, Pieces.written_spaced, Pieces.written_singleton,
    Pieces.written_singleton]
  rfl

theorem written_pieces {tree : AliasTree} {number : Nat} {source : Source}
    (h : (QueryScope.start tree number source).Calls q.scope) :
    (q.pieces h).written = q.compile := by
  have hm := h.spells [] (ScopePieces.spells_start tree number source)
  rw [pieces, Pieces.written_append, Pieces.written_append, written_fromPieces hm,
    written_selectPieces hm h.isExpression_eq, clausePieces]
  simp only [Pieces.written_append, Pieces.written_conditionPart _ hm.filter,
    Pieces.written_conditionPart _ hm.having, Pieces.written_listPart, ← hm.groupBy, ← hm.orderBy,
    Pieces.written_singleton, Piece.written, compile, Fragment.append_assoc]

theorem isWithin_selectPieces {ts : List ScopeTable} (hm : m.ClausesWithin (q.scope.table :: ts)) :
    (q.selectPieces m).IsWithin (q.scope.table :: ts) := by
  rw [selectPieces, Pieces.isWithin_append]
  refine ⟨Pieces.isWithin_ofText _, ?_⟩
  split
  · simp [Piece.IsWithin]
  · exact Pieces.isWithin_join ", " hm.selection

theorem isWithin_clausePieces {ts : List ScopeTable} (hm : m.ClausesWithin ts) :
    (q.clausePieces m).IsWithin ts := by
  have hfilter := Pieces.isWithin_conditionPart "WHERE" hm.filter
  have hgroupBy := Pieces.isWithin_listPart "GROUP BY" hm.groupBy
  have hhaving := Pieces.isWithin_conditionPart "HAVING" hm.having
  have horderBy := Pieces.isWithin_listPart "ORDER BY" hm.orderBy
  simp [clausePieces, hfilter, hgroupBy, hhaving, horderBy, Piece.IsWithin]

section

variable {start : QueryScope} (h : start.Calls q.scope)

/-- Only the FROM clause declares tables. -/
theorem tables_pieces : (q.pieces h).tables = q.scope.table :: h.attached := by
  have hm := h.fits []
  rw [pieces, Pieces.tables_append, Pieces.tables_append,
    (isWithin_selectPieces hm.clauses).tables_eq, (isWithin_clausePieces hm.clauses).tables_eq,
    List.append_nil, List.nil_append, fromPieces, Pieces.tables_append, hm.tables]
  rfl

theorem inOrder_pieces : Pieces.InOrder (q.scope.table :: h.attached) [] (q.pieces h) := by
  have hm := h.fits []
  rw [pieces, Pieces.inOrder_append, Pieces.inOrder_append]
  refine ⟨⟨(isWithin_selectPieces hm.clauses).inOrder (List.Subset.refl _), ?_⟩,
    (isWithin_clausePieces hm.clauses).inOrder (List.Subset.refl _)⟩
  rw [fromPieces, Pieces.inOrder_append]
  refine ⟨trivial, hm.inOrder _ _ (List.Subset.refl _) ?_⟩
  exact List.subset_append_of_subset_right _ (List.Subset.refl _)

end

/-- The statement of a query with any joins in it, some of which may have failed. Its FROM clause
declares the aliases of the query's own table and of the joins that were attached, each once. The
columns of each of these scopes stand under the alias that is declared for it. Before the condition
of a join the aliases of that join and of all scopes around it have been declared, which are those
that an operand from the table joined to can have. -/
theorem aliases_declared {schema : Schema} {model : Model} {aliasName : String}
    {counter : CounterId} (h : (aliased schema model aliasName counter).scope.Calls q.scope)
    (hw : q.scope.tree.scopes.length ≤ UInt64.size) :
    let tables := q.scope.table :: h.attached
    q.compile = (q.pieces h).written ∧
    (q.pieces h).tables = tables ∧
    (tables.map (·.aliasName)).Nodup ∧
    q.scope.tree.aliases.Nodup ∧
    (∀ t ∈ tables, q.scope.tree.aliases[t.number]? = some t.aliasName) ∧
    (∀ t name, .column t name ∈ q.pieces h → t ∈ tables) ∧
    ∀ (before : Pieces) t parents after, q.pieces h = before ++ .on t parents :: after →
      t ∈ before.tables ∧ ∀ p ∈ parents, p ∈ before.tables ∧
        ∀ (j : Join) (column : ColumnRef) (f : Fragment), j.parent = p.source →
          column.isQualified = true → j.parentColumn column = .ok f →
            ∃ name, f = .verbatim (p.aliasName ++ "." ++ name) := by
  intro tables
  have haliases : q.scope.tree.aliases = [Text.lowercase aliasName] ++ h.opened := h.aliases_eq
  have hroot : q.scope.table.aliasName = Text.lowercase aliasName := by
    rw [h.table_eq]
    rfl
  have hnodup : q.scope.tree.aliases.Nodup :=
    ((QueryScope.registered_aliased schema model aliasName counter).calls h hw).nodup
  refine ⟨(written_pieces h).symm, tables_pieces h, ?_, hnodup, ?_, ?_, ?_⟩
  · have hsublist : (tables.map (·.aliasName)).Sublist q.scope.tree.aliases := by
      rw [haliases, List.map_cons, hroot]
      exact h.attached_sublist.cons_cons _
    exact hsublist.nodup hnodup
  · refine List.forall_mem_cons.mpr ⟨?_, h.aliases_attached⟩
    rw [haliases, hroot, h.table_eq]
    rfl
  · exact fun t name ht => (inOrder_pieces h).mem_all ht
  · intro before t parents after heq
    have hdeclared : t :: parents ⊆ before.tables := (heq ▸ inOrder_pieces h).mem_known
    rw [List.cons_subset] at hdeclared
    refine ⟨hdeclared.1, fun p hp => ⟨hdeclared.2 hp, fun j column f hj hcolumn hf => ?_⟩⟩
    rw [Join.parentColumn, hj] at hf
    exact Source.qualify_of_isQualified hcolumn hf

/-- The table of employees joined to itself, once by a join that fails, and then in a join and in
another join inside it. Both conditions compare a column with one of the table joined to. -/
theorem aliases_declared_of_nested :
    let employee : Model := { typeName := "Employee", table := "employee" }
    ∃ (q : Query) (h : (aliased ⟨[]⟩ employee "e" .shared).scope.Calls q.scope),
      q.scope.tree.scopes.length ≤ UInt64.size ∧
      q.compile.sql = "SELECT e.name AS name FROM employee AS e " ++
        "LEFT JOIN employee AS e2 ON (e2.id = e.boss) " ++
        "INNER JOIN employee AS e3 ON (e3.id = e2.boss) WHERE ((e3.age > ?))" ∧
      q.scope.tree.aliases = ["e", "e1", "e2", "e3"] ∧
      (q.pieces h).tables.map (·.aliasName) = ["e", "e2", "e3"] ∧
      ∀ (before : Pieces) t parents after, q.pieces h = before ++ .on t parents :: after →
        ∀ p ∈ parents, p ∈ before.tables := by
  intro employee
  refine ⟨{ scope := _ }, .project
    (.attach (.abandon (.none _) .inner employee "e" ⟨[]⟩ (.none _) (.none _))
      .left employee "e" ⟨[(.shared, 2)]⟩
      (.attach (.none _) .inner employee "e" ⟨[(.shared, 3)]⟩
        (.filter (.none _)
          (.test (.none _) [.great] [.column (.raw "age"), .value (.integer 30)] rfl))
        (.test (.none _) [.equal] [.column (.raw "id"), .column (.fragment ⟨"e2.boss", []⟩)] rfl))
      (.test (.none _) [.equal] [.column (.raw "id"), .column (.fragment ⟨"e.boss", []⟩)] rfl))
    (.column (.none _) [] (.raw "name") none rfl), ?_⟩
  refine ⟨by decide +kernel, by decide +kernel, by decide +kernel, by decide +kernel, ?_⟩
  intro before t parents after heq p hp
  exact (((aliases_declared _ (by decide +kernel)).2.2.2.2.2.2 before t parents after heq).2 p hp).1

end Query

end SqlCompose
