import SqlCompose.Error
import SqlCompose.Value

/-! Descriptions of tables: which properties of a model are kept in which columns, and how
properties that refer to other models are followed. A schema is a list of models; models
refer to one another by their place in it, so references may form cycles. -/

namespace SqlCompose

/-- Where the value of a primary key comes from. -/
inductive KeyOrigin where
  | autoIncrement
  | assigned
deriving DecidableEq

instance : Inhabited KeyOrigin :=
  ⟨.autoIncrement⟩

def KeyOrigin.inspect : KeyOrigin → String
  | autoIncrement => "AutoIncrement"
  | assigned => "Assigned"

/-- The mapping of one property. A property with a reference is not stored itself; it
leads to the properties of the model at that place of the schema. -/
structure Column where
  property : String
  name : String
  kind : Kind := .object
  key : Option KeyOrigin := none
  reference : Option Nat := none
deriving DecidableEq

structure Model where
  typeName : String
  table : String
  aliasName : Option String := none
  columns : List Column := []
deriving DecidableEq

structure Schema where
  models : List Model
deriving DecidableEq

/-- A path of property names, from a model through references to a property. -/
abbrev PropertyPath := List String

def PropertyPath.text (path : PropertyPath) : String :=
  ".".intercalate path

/-- The inspection of a typed accessor for a path. -/
def PropertyPath.inspect (path : PropertyPath) : String :=
  Inspect.tuple "Field" [path.text]

namespace Model

/-- The first column that maps a property. -/
def property? (m : Model) (name : String) : Option Column :=
  m.columns.find? fun c => c.property == name

def primaryKey? (m : Model) : Option Column :=
  m.columns.find? fun c => c.key.isSome

def requirePrimaryKey (m : Model) : Except Error Column :=
  match m.primaryKey? with
  | some c => .ok c
  | none => .error (.missingPrimaryKey m.typeName)

/-- The columns that the table has. -/
def storedColumns (m : Model) : List Column :=
  m.columns.filter fun c => c.reference.isNone

def columnNames (m : Model) : List String :=
  m.storedColumns.map (·.name)

end Model

namespace Schema

def model? (s : Schema) (i : Nat) : Option Model :=
  s.models[i]?

/-- The column names met on a path that starts at model `m`. -/
def namesAlong (s : Schema) (m : Model) : PropertyPath → Option (List String)
  | [] => none
  | [property] => (m.property? property).map fun c => [c.name]
  | property :: next :: rest => do
    let c ← m.property? property
    let target ← s.model? (← c.reference)
    let names ← s.namesAlong target (next :: rest)
    return c.name :: names

/-- The column name for a path: the names met on it, joined by underscores. -/
def resolve (s : Schema) (m : Model) (path : PropertyPath) : Except Error String :=
  match s.namesAlong m path with
  | some names => .ok ("_".intercalate names)
  | none => .error (.unknownProperty m.typeName path.text)

end Schema

end SqlCompose
