import SqlCompose.Predicate
import SqlCompose.Projection

/-! The clauses that a query and each of its joins collect. -/

namespace SqlCompose

inductive Order where
  | ascending
  | descending
deriving DecidableEq

instance : Inhabited Order :=
  ⟨.ascending⟩

namespace Order

def all : List Order :=
  [ascending, descending]

def text : Order → String
  | ascending => "ASC"
  | descending => "DESC"

def inspect : Order → String
  | ascending => "Asc"
  | descending => "Desc"

end Order

structure Clauses where
  filter : Predicate
  projection : Projection
  groupBy : List Fragment := []
  having : Predicate
  orderBy : List Fragment := []
deriving DecidableEq

namespace Clauses

/-- No clauses yet, on the given table. -/
def on (s : Source) : Clauses :=
  { filter := { source := s }, projection := { source := s }, having := { source := s } }

/-- Takes over the clauses of a join that has been attached. Its conditions are joined
with AND, its lists come after those already there. -/
def merge (outer inner : Clauses) : Clauses :=
  { filter := outer.filter.absorb inner.filter.compile
    projection :=
      { outer.projection with items := outer.projection.items ++ inner.projection.items }
    groupBy := outer.groupBy ++ inner.groupBy
    having := outer.having.absorb inner.having.compile
    orderBy := outer.orderBy ++ inner.orderBy }

def inspect (c : Clauses) : String :=
  Inspect.record "Clauses"
    [("filter", c.filter.inspect),
     ("projection", c.projection.inspect),
     ("group_by", inspectFragments c.groupBy),
     ("having", c.having.inspect),
     ("order_by", inspectFragments c.orderBy)]

end Clauses

end SqlCompose
