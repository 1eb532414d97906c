import SqlCompose.Value

/-! Pieces of SQL text together with the values bound to their placeholders. Everything
that is composed, from a column reference to a complete statement, is a fragment. -/

namespace SqlCompose

/-- SQL text with `?` placeholders, and their values from left to right. -/
structure Fragment where
  sql : String
  params : List Value
deriving DecidableEq

namespace Fragment

def empty : Fragment :=
  ⟨"", []⟩

instance : EmptyCollection Fragment :=
  ⟨empty⟩

/-- SQL text taken as it is, without parameters. -/
def verbatim (sql : String) : Fragment :=
  ⟨sql, []⟩

/-- A placeholder for one value. -/
def placeholder (v : Value) : Fragment :=
  ⟨"?", [v]⟩

def append (a b : Fragment) : Fragment :=
  ⟨a.sql ++ b.sql, a.params ++ b.params⟩

instance : Append Fragment :=
  ⟨append⟩

/-- Text put after a fragment. -/
def appendText (a : Fragment) (sql : String) : Fragment :=
  a ++ verbatim sql

/-- A fragment is empty if it has no text. -/
def isEmpty (a : Fragment) : Bool :=
  a.sql.isEmpty

def parenthesized (a : Fragment) : Fragment :=
  verbatim "(" ++ a ++ verbatim ")"

/-- The fragments in order, with `separator` between them. -/
def join (separator : String) : List Fragment → Fragment
  | [] => empty
  | [a] => a
  | a :: b :: rest => a ++ verbatim separator ++ join separator (b :: rest)

/-- Placeholders for a list of values, separated by commas. -/
def placeholders (vs : List Value) : Fragment :=
  join ", " (vs.map placeholder)

/-- Equality of text and parameters, reals being compared as numbers. -/
def same (a b : Fragment) : Bool :=
  a.sql == b.sql && a.params.length == b.params.length &&
    (a.params.zip b.params).all fun p => p.1.same p.2

def inspect (a : Fragment) : String :=
  Inspect.record "Fragment" [("sql", Text.quoted a.sql), ("params", inspectRow a.params)]

end Fragment

/-- How values stand in a text: one that is bound, and those of a fragment that the caller
has composed. -/
class Binding where
  place : Value → Fragment
  supply : Fragment → Fragment

/-- In a statement that is to be run, every value has a placeholder. -/
instance Binding.placeholders : Binding :=
  ⟨Fragment.placeholder, id⟩

namespace Fragment

/-- A value in its place. -/
def bound [b : Binding] (v : Value) : Fragment :=
  b.place v

/-- A fragment of the caller's, with its values in their places. -/
def supplied [b : Binding] (f : Fragment) : Fragment :=
  b.supply f

/-- Values in their places, separated by commas. -/
def boundList [b : Binding] (vs : List Value) : Fragment :=
  join ", " (vs.map bound)

end Fragment

/-- Fragments as a list in brackets. -/
def inspectFragments (fs : List Fragment) : String :=
  Inspect.list (fs.map Fragment.inspect)

end SqlCompose
