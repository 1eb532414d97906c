import SqlCompose.Alias.Tree
import SqlCompose.Query.Clauses

/-! Scopes of a query: its own table, or a joined one, with the joins and clauses that have
been added to it. -/

namespace SqlCompose

inductive JoinKind where
  | inner
  | left
  | cross
deriving DecidableEq

instance : Inhabited JoinKind :=
  ⟨.inner⟩

namespace JoinKind

def all : List JoinKind :=
  [inner, left, cross]

def text : JoinKind → String
  | inner => "INNER"
  | left => "LEFT"
  | cross => "CROSS"

def inspect : JoinKind → String
  | inner => "Inner"
  | left => "Left"
  | cross => "Cross"

end JoinKind

/-- The part that a query and a join have in common. `number` is the place of the scope in
the tree of aliases, and `joins` are the finished join items of its FROM clause. -/
structure QueryScope where
  tree : AliasTree
  number : Nat
  source : Source
  joins : List Fragment := []
  clauses : Clauses
deriving DecidableEq

/-- A join under construction, in a scope of its own. Operands may name columns of
`parent`, the table that is joined to. -/
structure Join where
  scope : QueryScope
  parent : Source
  kind : JoinKind
  condition : Predicate
deriving DecidableEq

namespace QueryScope

/-- The alias of the table of this scope. -/
def aliasName (s : QueryScope) : String :=
  s.source.aliasName

/-- A scope on a table, with nothing added to it. -/
def start (tree : AliasTree) (number : Nat) (source : Source) : QueryScope :=
  { tree, number, source, clauses := .on source }

/-- Adds a column to GROUP BY. -/
def groupBy (s : QueryScope) (column : ColumnRef) : Except Error QueryScope := do
  let column ← s.source.qualify column
  return { s with clauses := { s.clauses with groupBy := s.clauses.groupBy ++ [column] } }

/-- Adds a column to ORDER BY. -/
def orderBy (s : QueryScope) (column : ColumnRef) (order : Order) : Except Error QueryScope := do
  let column ← s.source.qualify column
  let item := column.appendText (" " ++ order.text)
  return { s with clauses := { s.clauses with orderBy := s.clauses.orderBy ++ [item] } }

/-! ### Joins -/

/-- Opens a join of a model's table, in a new scope whose alias is proposed. The join takes
over the tree of aliases until it is closed. -/
def openJoin (s : QueryScope) (kind : JoinKind) (model : Model) (proposal : String)
    (cs : Counters) : Join × Counters :=
  let number := s.tree.nextScope
  let (tree, cs) := s.tree.allocate s.number proposal cs
  let source : Source := { schema := s.source.schema, model, aliasName := tree.aliasName number }
  ({ scope := .start tree number source
     parent := s.source
     kind
     condition := { source } }, cs)

/-- The item of a finished join in the FROM clause: its table with its condition, then the
joins nested in it. -/
def joinItem (j : Join) : Fragment :=
  let table := Fragment.verbatim
    (j.kind.text ++ " JOIN " ++ j.scope.source.model.table ++ " AS " ++ j.scope.aliasName)
  let condition :=
    if j.condition.isEmpty then .empty
    else .verbatim " ON " ++ j.condition.compile.parenthesized
  table ++ condition ++
    j.scope.joins.foldr (fun item rest => .verbatim " " ++ item ++ rest) .empty

/-- Closes a join that failed. Nothing of it remains but its scopes in the tree. -/
def abandon (s : QueryScope) (j : Join) : QueryScope :=
  { s with tree := j.scope.tree }

/-- Closes a join that was completed, and takes over its clauses. -/
def attach (s : QueryScope) (j : Join) : QueryScope :=
  { s with
    tree := j.scope.tree
    joins := s.joins ++ [joinItem j]
    clauses := s.clauses.merge j.scope.clauses }

end QueryScope

namespace Join

/-- A column of the table that is joined to, for use in the condition. -/
def parentColumn (j : Join) (column : ColumnRef) : Except Error Fragment :=
  j.parent.qualify column

def inspect (j : Join) : String :=
  Inspect.record "Join"
    [("alias", Text.quoted j.scope.aliasName),
     ("parent_alias", Text.quoted j.parent.aliasName),
     ("kind", j.kind.inspect),
     ("table", Text.quoted j.scope.source.model.table),
     ("on", j.condition.inspect),
     ("joins", inspectFragments j.scope.joins),
     ("clauses", j.scope.clauses.inspect)]

end Join

end SqlCompose
