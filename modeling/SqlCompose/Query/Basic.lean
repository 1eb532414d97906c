import SqlCompose.Query.Scope

/-! SELECT statements under construction. Clauses may be added in any order; compiling
writes them in the order of SQL and does not change the query. -/

namespace SqlCompose

inductive SetOperator where
  | union
  | unionAll
deriving DecidableEq

def SetOperator.text : SetOperator → String
  | union => "UNION"
  | unionAll => "UNION ALL"

/-- A query on a table, or on the rows of a subquery if `fromQuery` is given. -/
structure Query where
  scope : QueryScope
  fromQuery : Option Fragment := none
  limit : Option Int64 := none
  offset : Option Int64 := none
  unions : List (SetOperator × Fragment) := []
deriving DecidableEq

namespace Query

/-- A query on the table of a model, under an alias that is put in lower case. -/
def aliased (schema : Schema) (model : Model) (aliasName : String) (counter : CounterId) : Query :=
  let tree := AliasTree.withRoot aliasName counter
  { scope := .start tree 0 { schema, model, aliasName := tree.aliasName 0 } }

/-- A query on the table of a model, under the alias that the model proposes. -/
def ofModel (schema : Schema) (model : Model) (counter : CounterId) : Query :=
  aliased schema model model.defaultAlias counter

/-- Colliding aliases take their numbers from another counter from now on. -/
def withCounter (q : Query) (counter : CounterId) : Query :=
  { q with scope := { q.scope with tree := q.scope.tree.withCounter counter } }

/-! ### The parts of the statement -/

/-- Without any selected item, all columns of the query's own table are selected. -/
def selectPart (q : Query) : Fragment :=
  let projection := q.scope.clauses.projection
  .verbatim "SELECT " ++
    if projection.isEmpty then .verbatim (q.scope.aliasName ++ ".*") else projection.compile

def fromPart (q : Query) : Fragment :=
  let origin :=
    match q.fromQuery with
    | some query => query.parenthesized
    | none => .verbatim q.scope.source.model.table
  .verbatim " FROM " ++ origin ++ .verbatim (" AS " ++ q.scope.aliasName) ++
    q.scope.joins.foldr (fun item rest => .verbatim " " ++ item ++ rest) .empty

/-- A condition after its keyword, or nothing if there is none. -/
def conditionPart (keyword : String) (p : Predicate) : Fragment :=
  if p.isEmpty then .empty else .verbatim (" " ++ keyword ++ " ") ++ p.compile

/-- A list of columns after its keyword, or nothing if it has none. -/
def listPart (keyword : String) (columns : List Fragment) : Fragment :=
  if columns.isEmpty then .empty
  else .verbatim (" " ++ keyword ++ " ") ++ .join ", " columns

/-- OFFSET is only possible after LIMIT, where -1 means that there is no limit. -/
def limitPart [b : Binding] (q : Query) : Fragment :=
  match q.limit, q.offset with
  | none, none => .empty
  | some limit, none => .verbatim " LIMIT " ++ .bound (.integer limit)
  | limit?, some offset =>
    .verbatim " LIMIT " ++ .bound (.integer (limit?.getD (-1))) ++
      .verbatim " OFFSET " ++ .bound (.integer offset)

def unionPart (q : Query) : Fragment :=
  q.unions.foldr (fun u rest => .verbatim (" " ++ u.1.text ++ " ") ++ u.2 ++ rest) .empty

/-- The complete statement. -/
def compile [b : Binding] (q : Query) : Fragment :=
  let clauses := q.scope.clauses
  q.selectPart ++ q.fromPart ++
    conditionPart "WHERE" clauses.filter ++
    listPart "GROUP BY" clauses.groupBy ++
    conditionPart "HAVING" clauses.having ++
    listPart "ORDER BY" clauses.orderBy ++
    q.limitPart ++ q.unionPart

/-- The inspection shows the current values of the counters. -/
def inspect (q : Query) (cs : Counters) : String :=
  let number (n : Int64) := toString n.toInt
  let union (u : SetOperator × Fragment) := Inspect.tuple "" [Text.quoted u.1.text, u.2.inspect]
  Inspect.record "Select"
    [("registry", q.scope.tree.inspect cs),
     ("alias", Text.quoted q.scope.aliasName),
     ("table", Text.quoted q.scope.source.model.table),
     ("from", Inspect.optional (q.fromQuery.map Fragment.inspect)),
     ("joins", inspectFragments q.scope.joins),
     ("clauses", q.scope.clauses.inspect),
     ("limit", Inspect.optional (q.limit.map number)),
     ("offset", Inspect.optional (q.offset.map number)),
     ("unions", Inspect.list (q.unions.map union))]

end Query

end SqlCompose
