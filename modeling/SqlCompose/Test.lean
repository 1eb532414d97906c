import SqlCompose.ColumnRef

/-! Single tests of a condition: a few operators over a few operands, such as
`a NOT BETWEEN ? AND ?`. -/

namespace SqlCompose

/-- One building block of a test. All but the last of a sequence modify the last. -/
inductive Operator where
  | not
  | isNull
  | equal
  | great
  | less
  | greatOrEqual
  | lessOrEqual
  | between
  | isIn
  | like
deriving DecidableEq

namespace Operator

def all : List Operator :=
  [not, isNull, equal, great, less, greatOrEqual, lessOrEqual, between, isIn, like]

def text : Operator → String
  | not => "NOT"
  | isNull => "IS NULL"
  | equal => "="
  | great => ">"
  | less => "<"
  | greatOrEqual => ">="
  | lessOrEqual => "<="
  | between => "BETWEEN"
  | isIn => "IN"
  | like => "LIKE"

/-- A sequence of operators, separated by blanks. -/
def texts (ops : List Operator) : String :=
  " ".intercalate (ops.map text)

def inspect : Operator → String
  | not => "Not"
  | isNull => "IsNull"
  | equal => "Equal"
  | great => "Great"
  | less => "Less"
  | greatOrEqual => "GreatOrEqual"
  | lessOrEqual => "LessOrEqual"
  | between => "Between"
  | isIn => "In"
  | like => "Like"

/-- The ordering that holds exactly where this one fails. -/
def opposite? : Operator → Option Operator
  | great => some lessOrEqual
  | greatOrEqual => some less
  | less => some greatOrEqual
  | lessOrEqual => some great
  | _ => none

/-- The number of operands that a sequence of operators takes. -/
def arity : List Operator → Nat
  | [] => 1
  | [between] | [not, between] => 3
  | [isIn] | [not, isIn] => 2
  | [isNull] | [not, isNull] | [not] => 1
  | _ => 2

end Operator

/-- One operand before it is resolved. -/
inductive Operand where
  | column (c : ColumnRef)
  | value (v : Value)
  | values (vs : List Value)
  | null
deriving DecidableEq

/-- The text of an operand. Values are bound, the null marker is written out. -/
def Operand.resolve [b : Binding] (s : Source) : Operand → Except Error Fragment
  | column c => s.qualify c
  | value v => .ok (.bound v)
  | values vs => .ok (.boundList vs)
  | null => .ok (.verbatim "NULL")

structure Test where
  operators : List Operator
  operands : List Operand
deriving DecidableEq

namespace Test

/-- A comparison for equality with the null marker asks whether the column is null. -/
def withNullTest (t : Test) : Test :=
  match t.operators, t.operands with
  | [.equal], [a, .null] => ⟨[.isNull], [a]⟩
  | [.not, .equal], [a, .null] => ⟨[.not, .isNull], [a]⟩
  | _, _ => t

/-- The text of a test over operands of the right number. A negated ordering becomes the
opposite one. With too few operands there is no text. -/
def render (ops : List Operator) (operands : List Fragment) : Fragment :=
  let infixed (a : Fragment) (text : String) (b : Fragment) : Fragment :=
    a ++ .verbatim (" " ++ text ++ " ") ++ b
  match ops, operands with
  | [], a :: _ => a.parenthesized
  | [.between], a :: low :: high :: _ | [.not, .between], a :: low :: high :: _ =>
    infixed a (Operator.texts ops) low ++ .verbatim " AND " ++ high
  | [.isIn], a :: list :: _ | [.not, .isIn], a :: list :: _ =>
    infixed a (Operator.texts ops) list.parenthesized
  | [.not, .isNull], a :: _ => a.appendText " IS NOT NULL"
  | [.not], a :: _ => .verbatim "NOT " ++ a.parenthesized
  | [.not, .equal], a :: b :: _ => infixed a "<>" b
  | [.not, op], a :: b :: _ =>
    match op.opposite? with
    | some opposite => infixed a opposite.text b
    | none => infixed a (Operator.texts ops) b
  | _, a :: b :: _ => infixed a (Operator.texts ops) b
  | _, [a] => a.appendText (" " ++ Operator.texts ops)
  | _, [] => .empty

/-- The text of a test on a table. The number of operands is checked before any of them
is resolved. -/
def compile [b : Binding] (s : Source) (t : Test) : Except Error Fragment := do
  let t := t.withNullTest
  if t.operands.length ≠ Operator.arity t.operators then
    throw (.operandCount (Operator.texts t.operators) (Operator.arity t.operators)
      t.operands.length)
  let operands ← t.operands.mapM (Operand.resolve s)
  return render t.operators operands

end Test

end SqlCompose
