import SqlCompose.Predicate

/-! Arguments of the calls in a script. Fragments that have to be composed for a call are
built before it, and its arguments refer to them by number. -/

namespace SqlCompose

/-- A fragment given as it is, or the one that was built as number `index`. -/
inductive FragmentArg where
  | given (f : Fragment)
  | built (index : Nat)
  | nested (f : FragmentArg)
deriving DecidableEq

inductive ColumnArg where
  | given (c : ColumnRef)
  | fragment (f : FragmentArg)
deriving DecidableEq

inductive OperandArg where
  | given (a : Argument)
  | column (c : ColumnArg)

/-- What is supplied for a column. Only fragments have values in them. -/
def ColumnRef.supplied [b : Binding] : ColumnRef → ColumnRef
  | fragment f => .fragment f.supplied
  | c => c

def Argument.supplied [b : Binding] : Argument → Argument
  | operand (.column c) => .operand (.column c.supplied)
  | a => a

/-- The fragment that an argument stands for. -/
def FragmentArg.value [b : Binding] (fragments : List Fragment) : FragmentArg → Fragment
  | given f => f.supplied
  | built index => (fragments[index]?).getD .empty
  | nested f => (f.value fragments).parenthesized

def ColumnArg.value [b : Binding] (fragments : List Fragment) : ColumnArg → ColumnRef
  | given c => c.supplied
  | fragment f => .fragment (f.value fragments)

def OperandArg.value [b : Binding] (fragments : List Fragment) : OperandArg → Argument
  | given a => a.supplied
  | column c => .operand (.column (c.value fragments))

end SqlCompose
