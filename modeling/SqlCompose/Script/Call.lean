import SqlCompose.Query.Basic
import SqlCompose.Script.Argument
import SqlCompose.Script.Session

/-! Single calls on builders, as data. A call either succeeds, possibly with something to
show, or fails and changes nothing. -/

namespace SqlCompose

/-- Questions to a builder that do not change it. -/
inductive Observation where
  | isEmpty
  | aliasName
  | inspection
deriving DecidableEq

/-! ### Conditions -/

inductive PredicateCall where
  | not
  | join (c : Connective)
  | compare (op : Operator) (left : ColumnArg) (right : OperandArg)
  | between (column : ColumnArg) (low high : OperandArg)
  | isIn (column : ColumnArg) (values : List Scalar)
  | inQuery (column : ColumnArg) (query : FragmentArg)
  | isNull (column : ColumnArg)
  | search (anchor : Predicate.Anchor) (column : ColumnArg) (text : String)
  | searchAny (columns : List ColumnArg) (text : String)
  | expr (condition : FragmentArg)
  | test (operators : List Operator) (operands : List OperandArg)
  | observe (o : Observation)

namespace PredicateCall

/-- The builder after a successful call. -/
def apply [b : Binding] (fragments : List Fragment) (p : Predicate) :
    PredicateCall → Except Error Predicate
  | not => .ok p.negateNext
  | join c => .ok (p.joinNext c)
  | compare op left right => p.compare op (left.value fragments) (right.value fragments)
  | between column low high =>
    p.between (column.value fragments) (low.value fragments) (high.value fragments)
  | isIn column values => p.isIn (column.value fragments) values
  | inQuery column query => p.inQuery (column.value fragments) (query.value fragments)
  | isNull column => p.isNull (column.value fragments)
  | search anchor column text => p.search anchor (column.value fragments) text
  | searchAny columns text => p.searchAny (columns.map (·.value fragments)) text
  | expr condition => p.expr (condition.value fragments)
  | test operators operands => do
    p.test operators (← operands.mapM fun o => (o.value fragments).toOperand)
  | observe _ => .ok p

def output (p : Predicate) : PredicateCall → Option Report
  | observe .isEmpty => some (.flag p.isEmpty)
  | observe .aliasName => some (.text p.source.aliasName)
  | observe .inspection => some (.text p.inspect)
  | _ => none

def perform [b : Binding] (fragments : List Fragment) (c : PredicateCall) (p : Predicate) :
    Except Error (Predicate × Option Report) := do
  let p ← c.apply fragments p
  return (p, c.output p)

end PredicateCall

/-! ### Projections -/

/-- A function with its further arguments not yet converted. -/
structure WrapperArg where
  function : Function
  arguments : List Scalar := []

def WrapperArg.value (w : WrapperArg) : Except Error Wrapper :=
  Wrapper.withArguments w.function w.arguments

inductive ProjectionCall where
  | wrap (w : WrapperArg)
  | apply (ws : List WrapperArg) (column : ColumnArg) (alias? : Option String)
  | applyWith (f : Function) (arguments : List Scalar) (column : ColumnArg)
      (alias? : Option String)
  | raw (sql : String)
  | value (s : Scalar) (alias? : Option String)
  | observe (o : Observation)

namespace ProjectionCall

/-- The builder after a successful call. -/
def change [b : Binding] (fragments : List Fragment) (p : Projection) :
    ProjectionCall → Except Error Projection
  | wrap w => do return p.wrap (← w.value)
  | apply ws column alias? => do
    p.apply (← ws.mapM WrapperArg.value) (column.value fragments) alias?
  | applyWith f arguments column alias? =>
    p.applyWith f arguments (column.value fragments) alias?
  | raw sql => .ok (p.raw sql)
  | value s alias? => p.value s alias?
  | observe _ => .ok p

def output (p : Projection) : ProjectionCall → Option Report
  | observe .isEmpty => some (.flag p.isEmpty)
  | observe .aliasName => some (.text p.source.aliasName)
  | observe .inspection => some (.text p.inspect)
  | _ => none

def perform [b : Binding] (fragments : List Fragment) (c : ProjectionCall) (p : Projection) :
    Except Error (Projection × Option Report) := do
  let p ← c.change fragments p
  return (p, c.output p)

end ProjectionCall

/-! ### Queries and joins -/

/-- Calls that queries and joins have in common. -/
inductive ScopeCall where
  | groupBy (column : ColumnArg)
  | orderBy (column : ColumnArg) (order : Order)
  | aliasName

def ScopeCall.perform [b : Binding] (fragments : List Fragment) (c : ScopeCall) (q : QueryScope) :
    Except Error (QueryScope × Option Report) :=
  match c with
  | groupBy column => (q.groupBy (column.value fragments)).map fun q => (q, none)
  | orderBy column order => (q.orderBy (column.value fragments) order).map fun q => (q, none)
  | aliasName => .ok (q, some (.text q.aliasName))

inductive JoinCall where
  | parent (column : ColumnArg) (saveAs : Option String)
  | inspection

def JoinCall.perform [b : Binding] (fragments : List Fragment) (c : JoinCall) (j : Join)
    (s : Session) : Finished Join :=
  match c with
  | parent column saveAs =>
    match j.parentColumn (column.value fragments) with
    | .ok f => ⟨.ok (some (.fragment f)), j, s.save saveAs f⟩
    | .error e => ⟨.error e, j, s⟩
  | inspection => ⟨.ok (some (.text j.inspect)), j, s⟩

inductive QueryCall where
  | limit (n : Int64)
  | offset (n : Int64)
  | union (op : SetOperator) (query : FragmentArg)
  | fromQuery (query : FragmentArg)
  | withCounter (counter : CounterId)
  | compile (saveAs : Option String)
  | inspection

namespace QueryCall

/-- The query after a call. None of these calls fails. -/
def apply [b : Binding] (fragments : List Fragment) (q : Query) : QueryCall → Query
  | limit n => { q with limit := some n }
  | offset n => { q with offset := some n }
  | union op query => { q with unions := q.unions ++ [(op, query.value fragments)] }
  | fromQuery query => { q with fromQuery := some (query.value fragments) }
  | withCounter counter => q.withCounter counter
  | compile _ => q
  | inspection => q

def perform [b : Binding] (fragments : List Fragment) (c : QueryCall) (q : Query) (s : Session) :
    Finished Query :=
  let q := c.apply fragments q
  match c with
  | compile saveAs => ⟨.ok (some (.fragment q.compile)), q, s.save saveAs q.compile⟩
  | inspection => ⟨.ok (some (.text (q.inspect s.counters))), q, s⟩
  | _ => ⟨.ok none, q, s⟩

end QueryCall

end SqlCompose
