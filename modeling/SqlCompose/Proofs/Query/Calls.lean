import SqlCompose.Proofs.Except
import SqlCompose.Proofs.Fragment
import SqlCompose.Query.Basic

/-! Histories of calls on conditions, projections and the scopes of a query. A history keeps
the calls that took effect: a call that fails changes nothing and so is left out, except for
a join that fails, whose scopes remain in the tree of aliases. -/

namespace SqlCompose

/-- The calls that take one condition to another. A scope is a condition of its own, built
by calls and then added as one test. -/
inductive Predicate.Calls : Predicate → Predicate → Type
  | none (p : Predicate) : Calls p p
  | negate {p q : Predicate} (before : Calls p q) : Calls p q.negateNext
  | join {p q : Predicate} (before : Calls p q) (c : Connective) : Calls p (q.joinNext c)
  | test {p q r : Predicate} (before : Calls p q) (ops : List Operator)
      (operands : List Operand) (h : q.test ops operands = .ok r) : Calls p r
  | scope {p q n r : Predicate} (before : Calls p q) (inner : Calls q.nested n)
      (h : q.nest n.compile = .ok r) : Calls p r

/-- The calls that take one projection to another. -/
inductive Projection.Calls : Projection → Projection → Type
  | none (p : Projection) : Calls p p
  | wrap {p q : Projection} (before : Calls p q) (w : Wrapper) : Calls p (q.wrap w)
  | column {p q r : Projection} (before : Calls p q) (wrappers : List Wrapper)
      (column : ColumnRef) (alias? : Option String)
      (h : q.apply wrappers column alias? = .ok r) : Calls p r
  | raw {p q : Projection} (before : Calls p q) (sql : String) : Calls p (q.raw sql)
  | value {p q r : Projection} (before : Calls p q) (s : Scalar) (alias? : Option String)
      (h : q.value s alias? = .ok r) : Calls p r
  | group {p q operand : Projection} (before : Calls p q) (aliasName : String)
      (inner : Calls (.expression q.source) operand) : Calls p (q.group aliasName operand.compile)

/-- The name of a selected column: the one it is given, or its own. -/
def Projection.nameOf (p : Projection) (column : ColumnRef) (alias? : Option String) :
    Option String :=
  match alias? with
  | some name => some name
  | none => (p.source.identifier? column).toOption.join

/-- A column that is selected becomes an item under its name. -/
theorem Projection.apply_ok {p q : Projection} {wrappers : List Wrapper} {column : ColumnRef}
    {alias? : Option String} (h : p.apply wrappers column alias? = .ok q) :
    ∃ item, p.source.qualify column = .ok item ∧
      q = p.push wrappers item (p.nameOf column alias?) := by
  obtain ⟨item, hitem, h⟩ := bind_ok h
  cases alias? with
  | some name =>
    cases h
    exact ⟨item, hitem, rfl⟩
  | none =>
    obtain ⟨name?, hname, h⟩ := bind_ok h
    cases h
    refine ⟨item, hitem, ?_⟩
    rw [nameOf, hname]
    rfl

theorem Projection.value_ok {p q : Projection} {s : Scalar} {alias? : Option String}
    (h : p.value s alias? = .ok q) :
    ∃ v, s.toValue = .ok v ∧ q = p.push [] (.bound v) alias? := by
  obtain ⟨v, hv, h⟩ := bind_ok h
  cases h
  exact ⟨v, hv, rfl⟩

namespace Projection.Calls

variable {p q : Projection} (h : p.Calls q)

include h

theorem source_eq : q.source = p.source := by
  induction h with
  | none => rfl
  | wrap _ _ ih | raw _ _ ih | group _ _ _ ih => exact ih
  | column _ _ _ _ h ih => obtain ⟨_, -, rfl⟩ := apply_ok h; exact ih
  | value _ _ _ h ih => obtain ⟨_, -, rfl⟩ := value_ok h; exact ih

theorem isExpression_eq : q.isExpression = p.isExpression := by
  induction h with
  | none => rfl
  | wrap _ _ ih | raw _ _ ih | group _ _ _ ih => exact ih
  | column _ _ _ _ h ih => obtain ⟨_, -, rfl⟩ := apply_ok h; exact ih
  | value _ _ _ h ih => obtain ⟨_, -, rfl⟩ := value_ok h; exact ih

end Projection.Calls

namespace QueryScope

/-- The calls that take one scope to another. Each join starts with any state of the
counters, is filled by calls of its own, and is either attached or abandoned. -/
inductive Calls : QueryScope → QueryScope → Type
  | none (q : QueryScope) : Calls q q
  | project {q r : QueryScope} (before : Calls q r) {projection : Projection}
      (calls : r.clauses.projection.Calls projection) :
      Calls q { r with clauses := { r.clauses with projection } }
  | filter {q r : QueryScope} (before : Calls q r) {filter : Predicate}
      (calls : r.clauses.filter.Calls filter) :
      Calls q { r with clauses := { r.clauses with filter } }
  | having {q r : QueryScope} (before : Calls q r) {having : Predicate}
      (calls : r.clauses.having.Calls having) :
      Calls q { r with clauses := { r.clauses with having } }
  | groupBy {q r s : QueryScope} (before : Calls q r) (column : ColumnRef)
      (h : r.groupBy column = .ok s) : Calls q s
  | orderBy {q r s : QueryScope} (before : Calls q r) (column : ColumnRef) (order : Order)
      (h : r.orderBy column order = .ok s) : Calls q s
  | withCounter {q r : QueryScope} (before : Calls q r) (counter : CounterId) :
      Calls q { r with tree := r.tree.withCounter counter }
  | attach {q r s : QueryScope} (before : Calls q r) (kind : JoinKind) (model : Model)
      (proposal : String) (cs : Counters)
      (inner : Calls (r.openJoin kind model proposal cs).1.scope s) {condition : Predicate}
      (on : (r.openJoin kind model proposal cs).1.condition.Calls condition) :
      Calls q (r.attach { scope := s, parent := r.source, kind, condition })
  | abandon {q r s : QueryScope} (before : Calls q r) (kind : JoinKind) (model : Model)
      (proposal : String) (cs : Counters)
      (inner : Calls (r.openJoin kind model proposal cs).1.scope s) {condition : Predicate}
      (on : (r.openJoin kind model proposal cs).1.condition.Calls condition) :
      Calls q (r.abandon { scope := s, parent := r.source, kind, condition })

/-- Scopes that can be met while a query is built: its own, at any time, and those of the
joins in it from their opening on. -/
inductive Reachable : QueryScope → Prop
  | start (schema : Schema) (model : Model) (aliasName : String) (counter : CounterId) :
      Reachable (Query.aliased schema model aliasName counter).scope
  | calls {q r : QueryScope} (hq : Reachable q) (h : q.Calls r) : Reachable r
  | openJoin {q : QueryScope} (hq : Reachable q) (kind : JoinKind) (model : Model)
      (proposal : String) (cs : Counters) : Reachable (q.openJoin kind model proposal cs).1.scope

/-! ### Inversion of single calls -/

theorem groupBy_ok {q r : QueryScope} {column : ColumnRef} (h : q.groupBy column = .ok r) :
    ∃ item, q.source.qualify column = .ok item ∧
      r = { q with clauses := { q.clauses with groupBy := q.clauses.groupBy ++ [item] } } := by
  obtain ⟨item, hc, h⟩ := bind_ok h
  cases h
  exact ⟨item, hc, rfl⟩

theorem orderBy_ok {q r : QueryScope} {column : ColumnRef} {order : Order}
    (h : q.orderBy column order = .ok r) :
    ∃ item, q.source.qualify column = .ok item ∧
      r = { q with clauses := { q.clauses with
        orderBy := q.clauses.orderBy ++ [item.appendText (" " ++ order.text)] } } := by
  obtain ⟨item, hc, h⟩ := bind_ok h
  cases h
  exact ⟨item, hc, rfl⟩

@[simp] theorem tree_attach (q : QueryScope) (j : Join) : (q.attach j).tree = j.scope.tree := rfl

@[simp] theorem tree_abandon (q : QueryScope) (j : Join) : (q.abandon j).tree = j.scope.tree := rfl

@[simp] theorem clauses_attach (q : QueryScope) (j : Join) :
    (q.attach j).clauses = q.clauses.merge j.scope.clauses := rfl

/-- No call moves a scope to another number or another table. -/
theorem Calls.frame {q r : QueryScope} (h : q.Calls r) :
    r.number = q.number ∧ r.source = q.source := by
  induction h with
  | none => exact ⟨rfl, rfl⟩
  | project _ _ ih | filter _ _ ih | having _ _ ih | withCounter _ _ ih => exact ih
  | groupBy _ _ h ih => obtain ⟨_, -, rfl⟩ := groupBy_ok h; exact ih
  | orderBy _ _ _ h ih => obtain ⟨_, -, rfl⟩ := orderBy_ok h; exact ih
  | attach _ _ _ _ _ _ _ ih | abandon _ _ _ _ _ _ _ ih => exact ih

/-- The selected items of a query are never kept apart as those of an expression. -/
theorem Calls.isExpression_eq {q r : QueryScope} (h : q.Calls r) :
    r.clauses.projection.isExpression = q.clauses.projection.isExpression := by
  induction h with
  | none => rfl
  | project _ calls ih => exact calls.isExpression_eq.trans ih
  | filter _ _ ih | having _ _ ih | withCounter _ _ ih => exact ih
  | groupBy _ _ h ih => obtain ⟨_, -, rfl⟩ := groupBy_ok h; exact ih
  | orderBy _ _ _ h ih => obtain ⟨_, -, rfl⟩ := orderBy_ok h; exact ih
  | attach _ _ _ _ _ _ _ ih | abandon _ _ _ _ _ _ _ ih => exact ih

end QueryScope

/-! ### FROM clauses -/

/-- What a query reads from: its own table, or a subquery. -/
def Query.origin (q : Query) : Fragment :=
  match q.fromQuery with
  | some query => query.parenthesized
  | none => .verbatim q.scope.source.model.table

theorem Query.fromPart_eq (q : Query) :
    q.fromPart = .verbatim " FROM " ++ q.origin ++ .verbatim (" AS " ++ q.scope.aliasName) ++
      Fragment.spaced q.scope.joins := rfl

/-! ### Histories in a row -/

def Predicate.Calls.trans {p q : Predicate} (h : p.Calls q) :
    {r : Predicate} → q.Calls r → p.Calls r
  | _, .none _ => h
  | _, .negate before => .negate (h.trans before)
  | _, .join before c => .join (h.trans before) c
  | _, .test before ops operands hr => .test (h.trans before) ops operands hr
  | _, .scope before inner hr => .scope (h.trans before) inner hr

def Projection.Calls.trans {p q : Projection} (h : p.Calls q) :
    {r : Projection} → q.Calls r → p.Calls r
  | _, .none _ => h
  | _, .wrap before w => .wrap (h.trans before) w
  | _, .column before wrappers c alias? hr => .column (h.trans before) wrappers c alias? hr
  | _, .raw before sql => .raw (h.trans before) sql
  | _, .value before s alias? hr => .value (h.trans before) s alias? hr
  | _, .group before aliasName inner => .group (h.trans before) aliasName inner

def QueryScope.Calls.trans {p q : QueryScope} (h : p.Calls q) :
    {r : QueryScope} → q.Calls r → p.Calls r
  | _, .none _ => h
  | _, .project before calls => .project (h.trans before) calls
  | _, .filter before calls => .filter (h.trans before) calls
  | _, .having before calls => .having (h.trans before) calls
  | _, .groupBy before column hr => .groupBy (h.trans before) column hr
  | _, .orderBy before column order hr => .orderBy (h.trans before) column order hr
  | _, .withCounter before counter => .withCounter (h.trans before) counter
  | _, .attach before kind model proposal cs inner on =>
    .attach (h.trans before) kind model proposal cs inner on
  | _, .abandon before kind model proposal cs inner on =>
    .abandon (h.trans before) kind model proposal cs inner on

end SqlCompose
