import SqlCompose.ColumnRef
import SqlCompose.Scalar

/-! Lists of selected items under construction, and expressions made of such items. -/

namespace SqlCompose

/-- A column type that a value can be cast to. -/
inductive CastType where
  | integer
  | real
  | text
  | blob
  | numeric
deriving DecidableEq

def CastType.all : List CastType :=
  [.integer, .real, .text, .blob, .numeric]

def CastType.keyword : CastType → String
  | .integer => "INTEGER"
  | .real => "REAL"
  | .text => "TEXT"
  | .blob => "BLOB"
  | .numeric => "NUMERIC"

def CastType.inspect : CastType → String
  | .integer => "Integer"
  | .real => "Real"
  | .text => "Text"
  | .blob => "Blob"
  | .numeric => "Numeric"

/-- What can be wrapped around an item. `group` is a bare pair of parentheses. -/
inductive Function where
  | sum
  | count
  | avg
  | min
  | max
  | total
  | distinct
  | upper
  | lower
  | length
  | abs
  | round
  | coalesce
  | ifNull
  | cast (t : CastType)
  | group
deriving DecidableEq

namespace Function

/-- The functions without a type, except for mere parentheses. -/
def plain : List Function :=
  [sum, count, avg, min, max, total, distinct, upper, lower, length, abs, round, coalesce,
    ifNull]

def name : Function → String
  | sum => "SUM"
  | count => "COUNT"
  | avg => "AVG"
  | min => "MIN"
  | max => "MAX"
  | total => "TOTAL"
  | distinct => "DISTINCT"
  | upper => "UPPER"
  | lower => "LOWER"
  | length => "LENGTH"
  | abs => "ABS"
  | round => "ROUND"
  | coalesce => "COALESCE"
  | ifNull => "IFNULL"
  | cast _ => "CAST"
  | group => ""

def inspect : Function → String
  | sum => "Sum"
  | count => "Count"
  | avg => "Avg"
  | min => "Min"
  | max => "Max"
  | total => "Total"
  | distinct => "Distinct"
  | upper => "Upper"
  | lower => "Lower"
  | length => "Length"
  | abs => "Abs"
  | round => "Round"
  | coalesce => "Coalesce"
  | ifNull => "IfNull"
  | cast t => Inspect.tuple "Cast" [t.inspect]
  | group => "Group"

end Function

/-- A function with the arguments that follow the item it is wrapped around. -/
structure Wrapper where
  function : Function
  arguments : List Value := []
deriving DecidableEq

namespace Wrapper

/-- A function whose further arguments are given as scalars. -/
def withArguments (f : Function) (arguments : List Scalar) : Except Error Wrapper :=
  (arguments.mapM Scalar.toValue).map fun vs => ⟨f, vs⟩

/-- The function around an item. The arguments are bound after the item's parameters; a
cast has a type in their place. -/
def apply [b : Binding] (w : Wrapper) (item : Fragment) : Fragment :=
  let rest : Fragment :=
    match w.function with
    | .cast t => .verbatim (" AS " ++ t.keyword)
    | _ => w.arguments.foldr (fun v rest => .verbatim ", " ++ .bound v ++ rest) .empty
  .verbatim (w.function.name ++ "(") ++ item ++ rest ++ .verbatim ")"

def inspect (w : Wrapper) : String :=
  Inspect.record "Wrapper" [("function", w.function.inspect), ("args", inspectRow w.arguments)]

end Wrapper

/-- Items selected from a table so far, and the functions queued for the next of them. An
expression keeps its items apart by blanks and gives them no aliases. -/
structure Projection where
  source : Source
  items : List Fragment := []
  pending : List Wrapper := []
  isExpression : Bool := false
deriving DecidableEq

namespace Projection

/-- An expression over the columns of a table, without operands yet. -/
def expression (s : Source) : Projection :=
  { source := s, isExpression := true }

def isEmpty (p : Projection) : Bool :=
  p.items.isEmpty

/-- Queues a function for the next item. -/
def wrap (p : Projection) (w : Wrapper) : Projection :=
  { p with pending := p.pending ++ [w] }

/-- Adds an item inside all queued functions and then `wrappers`, outermost first. -/
def push [b : Binding] (p : Projection) (wrappers : List Wrapper) (item : Fragment)
    (alias? : Option String) : Projection :=
  let wrapped := (p.pending ++ wrappers).foldr Wrapper.apply item
  let named :=
    match alias? with
    | some aliasName => if p.isExpression then wrapped else wrapped.appendText (" AS " ++ aliasName)
    | none => wrapped
  { p with items := p.items ++ [named], pending := [] }

/-- Adds a column inside functions. Without an explicit alias it is known by its own name,
if it has one. -/
def apply [b : Binding] (p : Projection) (wrappers : List Wrapper) (column : ColumnRef)
    (alias? : Option String) : Except Error Projection := do
  let item ← p.source.qualify column
  let alias? ←
    match alias? with
    | some aliasName => pure (some aliasName)
    | none => p.source.identifier? column
  return p.push wrappers item alias?

/-- Adds a column inside one function with further arguments. -/
def applyWith [b : Binding] (p : Projection) (f : Function) (arguments : List Scalar)
    (column : ColumnRef) (alias? : Option String) : Except Error Projection := do
  p.apply [← Wrapper.withArguments f arguments] column alias?

/-- Adds a text as it is. -/
def raw [b : Binding] (p : Projection) (sql : String) : Projection :=
  p.push [] (.verbatim sql) none

/-- Adds a literal, bound as a parameter. -/
def value [b : Binding] (p : Projection) (s : Scalar) (alias? : Option String) :
    Except Error Projection := do
  return p.push [] (.bound (← s.toValue)) alias?

/-- Adds an expression composed on the same table as one item in parentheses. -/
def group [b : Binding] (p : Projection) (aliasName : String) (operand : Fragment) : Projection :=
  p.push [⟨.group, []⟩] operand (some aliasName)

def compile (p : Projection) : Fragment :=
  .join (if p.isExpression then " " else ", ") p.items

def inspect (p : Projection) : String :=
  Inspect.record "Projection"
    [("alias", Text.quoted p.source.aliasName),
     ("items", inspectFragments p.items),
     ("pending", Inspect.list (p.pending.map Wrapper.inspect)),
     ("member", if p.isExpression then "true" else "false")]

end Projection

end SqlCompose
