import SqlCompose.Derive.SourceText
import SqlCompose.Model
import SqlCompose.Text.Identifier
import SqlCompose.Text.Words

/-! Declarations of record types with their mapping attributes, and what can be wrong with
them. `τ` stands for the types of fields and `ρ` for the models that they refer to. -/

namespace SqlCompose.Derive

/-- A name in a declaration. A raw one is written with a mark that is not part of it. -/
structure Ident where
  name : String
  isRaw : Bool := false
deriving DecidableEq

namespace Ident

/-- The mark of raw names. -/
def rawMark : String := "r#"

def ofSource (s : String) : Ident :=
  let name := plainText s
  match name.toList with
  | 'r' :: '#' :: rest => ⟨String.ofList rest, true⟩
  | _ => ⟨name, false⟩

def source (i : Ident) : String :=
  if i.isRaw then rawMark ++ i.name else i.name

end Ident

/-- What is generated for a declaration: the description of its table, or the conversion
of its values to rows. -/
inductive Target where
  | model
  | record
deriving DecidableEq

def Target.name : Target → String
  | model => "Model"
  | record => "Record"

/-- Attributes of the whole declaration. -/
inductive TypeAttribute where
  | table (name : String)
  | caseStyle (name : String)
  | aliasName (name : String)
deriving DecidableEq

inductive FieldAttribute (ρ : Type) where
  | column (name : String)
  | primaryKey (on : Bool)
  | autoIncrement (on : Bool)
  | reference (model : ρ)
  | ignored (on : Bool)

structure Field (τ ρ : Type) where
  ident : Ident
  type : τ
  attributes : List (FieldAttribute ρ) := []

/-- The forms a declaration can have. Only one with named fields can be mapped. -/
inductive Shape (τ ρ : Type) where
  | named (fields : List (Field τ ρ))
  | tuple
  | unit
  | enumeration
  | union

structure Declaration (τ ρ : Type) where
  ident : Ident
  visibility : String := ""
  generics : String := ""
  attributes : List TypeAttribute := []
  shape : Shape τ ρ

def Declaration.isGeneric {τ ρ : Type} (d : Declaration τ ρ) : Bool :=
  hasParameters d.generics

/-- What keeps a declaration from being mapped. -/
inductive Fault where
  | badName (f : Text.IdentifierFault)
  | unknownCaseStyle
  | generic (t : Target)
  | tupleShape (t : Target)
  | unitShape (t : Target)
  | enumerationShape (t : Target)
  | unionShape (t : Target)
  | secondPrimaryKey
  | referenceAsKey
  | repeatedColumn (name : String)
deriving DecidableEq

def unsupported (t : Target) (what : String) : String :=
  "#[derive(" ++ t.name ++ ")] is not supported for " ++ what

def Fault.message : Fault → String
  | badName .empty => "identifier must not be empty"
  | badName (.leading c) => s!"invalid leading character `{c}` in identifier"
  | badName (.inner c) => s!"invalid character `{c}` in identifier"
  | unknownCaseStyle => "invalid case conversion method"
  | generic t => unsupported t "generic types"
  | tupleShape t => unsupported t "tuple structs"
  | unitShape t => unsupported t "unit structs"
  | enumerationShape t => unsupported t "enums"
  | unionShape t => unsupported t "unions"
  | secondPrimaryKey => "more than one primary key field"
  | referenceAsKey => "a reference cannot be the primary key"
  | repeatedColumn name => s!"duplicate column name `{name}`"

end SqlCompose.Derive
