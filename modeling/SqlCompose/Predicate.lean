import SqlCompose.Scalar
import SqlCompose.Test

/-! Conditions under construction. Tests are added one call at a time; a call either
extends the condition or fails and leaves it as it was. -/

namespace SqlCompose

/-- The connective placed before a test. -/
inductive Connective where
  | and
  | or
deriving DecidableEq

def Connective.all : List Connective :=
  [.and, .or]

def Connective.text : Connective → String
  | and => "AND"
  | or => "OR"

def Connective.inspect : Connective → String
  | and => "And"
  | or => "Or"

/-- What has been said about the next test before it comes. -/
structure Pending where
  operators : List Operator := []
  connective : Connective := .and
deriving DecidableEq

def Pending.inspect (p : Pending) : String :=
  Inspect.record "PendingState"
    [("conditions", Inspect.list (p.operators.map Operator.inspect)),
     ("combinator", p.connective.inspect)]

/-- An operand as a caller gives it. Scalars are bound as values, so a text is a literal
here and not a column. -/
inductive Argument where
  | scalar (s : Scalar)
  | operand (o : Operand)

def Argument.toOperand : Argument → Except Error Operand
  | scalar s => s.toValue.map .value
  | operand o => .ok o

/-- A condition on a table: the text of the tests so far, and what is pending. -/
structure Predicate where
  source : Source
  pending : Pending := {}
  body : Fragment := .empty
deriving DecidableEq

namespace Predicate

def isEmpty (p : Predicate) : Bool :=
  p.body.isEmpty

/-! ### Modifiers of the next test -/

/-- Negates the next test. Two negations in a row cancel. -/
def negateNext (p : Predicate) : Predicate :=
  let ops := p.pending.operators
  let ops := if ops.getLast? = some .not then ops.dropLast else ops ++ [.not]
  { p with pending := { p.pending with operators := ops } }

/-- Joins the next test with a connective; without this it is joined with AND. -/
def joinNext (p : Predicate) (c : Connective) : Predicate :=
  { p with pending := { p.pending with connective := c } }

/-! ### Tests -/

/-- Puts a finished test after the others. -/
def push (p : Predicate) (c : Connective) (test : Fragment) : Predicate :=
  let before := if p.isEmpty then p.body else p.body.appendText (" " ++ c.text ++ " ")
  { p with body := before ++ test }

/-- Adds a test, modified by what is pending. Only a test that compiles uses it up. -/
def test [b : Binding] (p : Predicate) (ops : List Operator) (operands : List Operand) :
    Except Error Predicate := do
  let text ← (Test.mk (p.pending.operators ++ ops) operands).compile p.source
  return { p.push p.pending.connective text with pending := {} }

/-- Adds a comparison of a column with an operand. -/
def compare [b : Binding] (p : Predicate) (op : Operator) (left : ColumnRef) (right : Argument) :
    Except Error Predicate := do
  p.test [op] [.column left, ← right.toOperand]

def between [b : Binding] (p : Predicate) (column : ColumnRef) (low high : Argument) :
    Except Error Predicate := do
  let low ← low.toOperand
  let high ← high.toOperand
  p.test [.between] [.column column, low, high]

/-- Adds a test for membership in a list of values. -/
def isIn [b : Binding] (p : Predicate) (column : ColumnRef) (values : List Scalar) :
    Except Error Predicate := do
  p.test [.isIn] [.column column, .values (← values.mapM Scalar.toValue)]

/-- Adds a test for membership in the rows of a subquery. -/
def inQuery [b : Binding] (p : Predicate) (column : ColumnRef) (query : Fragment) :
    Except Error Predicate :=
  p.test [.isIn] [.column column, .column (.fragment query)]

def isNull [b : Binding] (p : Predicate) (column : ColumnRef) : Except Error Predicate :=
  p.test [.isNull] [.column column]

/-- Adds a composed condition as one test in parentheses. -/
def expr [b : Binding] (p : Predicate) (condition : Fragment) : Except Error Predicate :=
  p.test [] [.column (.fragment condition)]

/-- Adds a nested condition as one test. If nothing was tested in it, nothing is added,
and what was pending is dropped. -/
def nest [b : Binding] (p : Predicate) (nested : Fragment) : Except Error Predicate :=
  if nested.isEmpty then .ok { p with pending := {} } else p.expr nested

/-- An empty condition on the same table. -/
def nested (p : Predicate) : Predicate :=
  { source := p.source }

/-! ### Searching for text -/

/-- Where a search text has to be found. -/
inductive Anchor where
  | anywhere
  | start
  | finish
deriving DecidableEq

/-- The LIKE pattern for a search text. -/
def Anchor.pattern (anchor : Anchor) (text : String) : String :=
  match anchor with
  | anywhere => "%" ++ text ++ "%"
  | start => text ++ "%"
  | finish => "%" ++ text

def search [b : Binding] (p : Predicate) (anchor : Anchor) (column : ColumnRef) (text : String) :
    Except Error Predicate :=
  p.compare .like column (.scalar (.text (anchor.pattern text)))

/-- Adds one test for a text in any of several columns. -/
def searchAny [b : Binding] (p : Predicate) (columns : List ColumnRef) (text : String) :
    Except Error Predicate := do
  let any ← columns.foldlM (fun q c => (q.joinNext .or).search .anywhere c text) p.nested
  p.nest any.body

/-! ### Composition -/

/-- Adds a condition composed elsewhere, in parentheses and joined with AND, past what is
pending. -/
def absorb (p : Predicate) (condition : Fragment) : Predicate :=
  if condition.isEmpty then p else p.push .and condition.parenthesized

def compile (p : Predicate) : Fragment :=
  p.body

def inspect (p : Predicate) : String :=
  Inspect.record "Where"
    [("alias", Text.quoted p.source.aliasName),
     ("pending", p.pending.inspect),
     ("fragment", p.body.inspect)]

end Predicate

end SqlCompose
