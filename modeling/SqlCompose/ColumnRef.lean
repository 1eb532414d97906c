import SqlCompose.Fragment
import SqlCompose.Model
import SqlCompose.Text.Identifier
import SqlCompose.Text.Letters

/-! References to columns, and the tables in a statement that they are resolved against. -/

namespace SqlCompose

/-- The explicit alias of a model, or else the first three characters of its type name, in
lower case. -/
def Model.defaultAlias (m : Model) : String :=
  Text.lowercase (m.aliasName.getD (String.ofList (m.typeName.toList.take 3)))

/-- What stands for a column: a path of properties, a text as given, or a fragment. -/
inductive ColumnRef where
  | field (path : PropertyPath)
  | raw (text : String)
  | fragment (f : Fragment)
deriving DecidableEq

/-- A table as a statement mentions it: the model that describes it, and the name by which
its columns are qualified. -/
structure Source where
  schema : Schema
  model : Model
  aliasName : String
deriving DecidableEq

namespace Source

/-- The column name for a path of properties. -/
def columnName (s : Source) (path : PropertyPath) : Except Error String :=
  s.schema.resolve s.model path

/-- The text of a column reference. Properties and plain identifiers are qualified with
the alias, all else is taken as it is. -/
def qualify (s : Source) : ColumnRef → Except Error Fragment
  | .field path => (s.columnName path).map fun name => .verbatim (s.aliasName ++ "." ++ name)
  | .raw text =>
    if Text.isPlainIdentifier text then .ok (.verbatim (s.aliasName ++ "." ++ text))
    else .ok (.verbatim text)
  | .fragment f => .ok f

/-- The text of a column reference without any alias, for the targets of assignments. -/
def unqualified (s : Source) : ColumnRef → Except Error Fragment
  | .field path => (s.columnName path).map .verbatim
  | .raw text => .ok (.verbatim text)
  | .fragment f => .ok f

/-- The name under which a selected column is known. A wildcard, an opaque text and a
fragment have none. -/
def identifier? (s : Source) : ColumnRef → Except Error (Option String)
  | .field path => (s.columnName path).map some
  | .raw text => .ok (if text ≠ "*" ∧ Text.isPlainIdentifier text then some text else none)
  | .fragment _ => .ok none

end Source

end SqlCompose
