/-! What can go wrong when statements are composed, bound and executed, and the message
for each cause. -/

namespace SqlCompose

/-- What a database reports when it refuses a statement. -/
inductive DatabaseFault where
  | notUnique (table column : String)
  | nullNotAllowed (table column : String)
  | typeMismatch
  | noRowIdLeft
  | valueCount (values columns : Nat)
  | unknownTable (table : String)
  | unknownColumn (column : String)
  | unreadable (sql : String)
  | returnedRows
deriving DecidableEq

def DatabaseFault.message : DatabaseFault → String
  | notUnique table column => s!"UNIQUE constraint failed: {table}.{column}"
  | nullNotAllowed table column => s!"NOT NULL constraint failed: {table}.{column}"
  | typeMismatch => "datatype mismatch"
  | noRowIdLeft => "database or disk is full"
  | valueCount values columns => s!"{values} values for {columns} columns"
  | unknownTable table => s!"no such table: {table}"
  | unknownColumn column => s!"no such column: {column}"
  | unreadable sql => s!"syntax error in {sql}"
  | returnedRows => "Execute returned results - did you mean to call query?"

inductive Error where
  | formatting
  | database (fault : DatabaseFault)
  | parameterCount (expected actual : Nat)
  | operandCount (operators : String) (expected actual : Nat)
  | unknownProperty (model path : String)
  | missingPrimaryKey (model : String)
  | emptyBatch (table : String)
  | raggedBatch (table : String) (expected actual : Nat) (row : String)
  | parameterLimit (columns limit : Nat)
  | integerTooLarge
  | integerTooSmall
  | nothingToInsert (table : String)
  | nothingToUpdate (table : String)
  | assignedKey (field model : String)
  | argumentFormatting
  | unknownFragment (name : String)
  | custom (text : String)
deriving DecidableEq

namespace Error

def message : Error → String
  | formatting => "formatting error"
  | database fault => "SQLite error: " ++ fault.message
  | parameterCount expected actual =>
    s!"statement expects {expected} parameters but {actual} were bound"
  | operandCount operators expected actual =>
    s!"condition `{operators}` expects {expected} operands but {actual} were supplied"
  | unknownProperty model path => s!"model `{model}` has no mapped property `{path}`"
  | missingPrimaryKey model => s!"model `{model}` does not declare a primary key"
  | emptyBatch table => s!"cannot insert an empty set of rows into `{table}`"
  | raggedBatch table expected actual row =>
    s!"row {row} of `{table}` has {actual} values but {expected} columns were declared"
  | parameterLimit columns limit =>
    s!"a single row of {columns} columns exceeds the limit of {limit} bound parameters"
  | integerTooLarge => "number too large to fit in target type"
  | integerTooSmall => "number too small to fit in target type"
  | nothingToInsert table => s!"no columns to insert into `{table}`"
  | nothingToUpdate table => s!"no columns to update in `{table}`"
  | assignedKey field model =>
    s!"the primary key `{field}` of `{model}` is assigned by the caller, not generated"
  | argumentFormatting => "an error occurred when formatting an argument"
  | unknownFragment name => s!"no fragment is saved as `{name}`"
  | custom text => text

end Error

end SqlCompose
