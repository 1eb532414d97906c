import SqlCompose.Derive.Declaration

/-! The mapping of a declaration: which of its fields become columns, under which names,
and which of them is the primary key. -/

namespace SqlCompose.Derive

variable {τ ρ : Type}

/-! ### Reading attributes -/

def nameFaults (name : String) : List Fault :=
  ((Text.identifierFault? name).map Fault.badName).toList

/-- The names of case styles must be identifiers, like every name in an attribute. -/
def TypeAttribute.faults : TypeAttribute → List Fault
  | table name | aliasName name => nameFaults name
  | caseStyle name =>
    match nameFaults name with
    | [] => if (Text.CaseStyle.ofName? name).isNone then [.unknownCaseStyle] else []
    | faults => faults

def FieldAttribute.faults : FieldAttribute ρ → List Fault
  | column name => nameFaults name
  | _ => []

/-- What the attributes of a declaration say. -/
structure TypeSettings where
  table : Option String
  caseStyle : Text.CaseStyle
  aliasName : Option String

/-- What the attributes of a field say. A generated key is a primary key. -/
structure FieldSettings (ρ : Type) where
  column : Option String
  key : Option KeyOrigin
  reference : Option ρ
  ignored : Bool

def readType (attributes : List TypeAttribute) : Except (List Fault) TypeSettings :=
  match attributes.flatMap TypeAttribute.faults with
  | [] => .ok
    { table := attributes.findSome? fun | .table name => some name | _ => none
      caseStyle := (attributes.findSome? fun
        | .caseStyle name => Text.CaseStyle.ofName? name
        | _ => none).getD .identity
      aliasName := attributes.findSome? fun | .aliasName name => some name | _ => none }
  | faults => .error faults

def readField (attributes : List (FieldAttribute ρ)) :
    Except (List Fault) (FieldSettings ρ) :=
  match attributes.flatMap FieldAttribute.faults with
  | [] =>
    let isAuto := attributes.any fun | .autoIncrement on => on | _ => false
    let isKey := attributes.any fun | .primaryKey on => on | _ => false
    .ok
      { column := attributes.findSome? fun | .column name => some name | _ => none
        key := if isAuto then some .autoIncrement else if isKey then some .assigned else none
        reference := attributes.findSome? fun | .reference model => some model | _ => none
        ignored := attributes.any fun | .ignored on => on | _ => false }
  | faults => .error faults

/-! ### Mapped fields -/

/-- A field that becomes a column, with its place in the declaration. -/
structure MappedField (τ ρ : Type) where
  ident : Ident
  position : Nat
  type : τ
  column : String
  key : Option KeyOrigin
  reference : Option ρ

/-- Reads the fields from `position` on, leaving out those that are ignored. The faults of
the first faulty field are reported. -/
def readFields (convert : String → String) :
    (position : Nat) → List (Field τ ρ) → Except (List Fault) (List (MappedField τ ρ))
  | _, [] => .ok []
  | position, f :: rest => do
    let s ← readField f.attributes
    let mapped ← readFields convert (position + 1) rest
    if s.ignored then return mapped
    return { ident := f.ident, position, type := f.type
             column := s.column.getD (convert f.ident.name)
             key := s.key, reference := s.reference } :: mapped

/-- The first name that has occurred before, given those before the list. -/
def firstRepeated (before : List String) : List String → Option String
  | [] => none
  | name :: rest =>
    if name ∈ before then some name else firstRepeated (name :: before) rest

/-- At most one field is the primary key, a reference is not, and no two columns have the
same name. -/
def fieldsFault? (fields : List (MappedField τ ρ)) : Option Fault :=
  let keys := fields.filter fun f => f.key.isSome
  if 1 < keys.length then some .secondPrimaryKey
  else if keys.any fun f => f.reference.isSome then some .referenceAsKey
  else (firstRepeated [] (fields.map (·.column))).map .repeatedColumn

/-- The mapped fields of a declaration, in order. -/
def mapFields (convert : String → String) (fields : List (Field τ ρ)) :
    Except (List Fault) (List (MappedField τ ρ)) := do
  let mapped ← readFields convert 0 fields
  match fieldsFault? mapped with
  | some fault => throw [fault]
  | none => return mapped

/-! ### Mapped declarations -/

def namedFields (t : Target) (d : Declaration τ ρ) : Except (List Fault) (List (Field τ ρ)) :=
  if d.isGeneric then .error [.generic t]
  else
    match d.shape with
    | .named fields => .ok fields
    | .tuple => .error [.tupleShape t]
    | .unit => .error [.unitShape t]
    | .enumeration => .error [.enumerationShape t]
    | .union => .error [.unionShape t]

/-- A declaration that has been mapped onto a table. -/
structure Mapping (τ ρ : Type) where
  ident : Ident
  visibility : String
  table : String
  aliasName : Option String
  fields : List (MappedField τ ρ)

/-- Maps a declaration. Its own attributes are read before its form is looked at, and
that before its fields. -/
def Declaration.map (t : Target) (d : Declaration τ ρ) : Except (List Fault) (Mapping τ ρ) := do
  let settings ← readType d.attributes
  let fields ← mapFields settings.caseStyle.apply (← namedFields t d)
  return { ident := d.ident, visibility := plainText d.visibility
           table := settings.table.getD d.ident.name
           aliasName := settings.aliasName, fields }

namespace Mapping

def typeName (m : Mapping τ ρ) : String :=
  m.ident.name

/-- The name of the companion that holds the typed accessors. -/
def accessorsName (m : Mapping τ ρ) : String :=
  m.typeName ++ "Fields"

/-- The fields that are stored as columns; references are only navigated through. -/
def storedFields (m : Mapping τ ρ) : List (MappedField τ ρ) :=
  m.fields.filter fun f => f.reference.isNone

def keyField? (m : Mapping τ ρ) : Option (MappedField τ ρ) :=
  m.fields.find? fun f => f.key.isSome

/-- The description of the table, given the kinds of the field types and the places of
the referenced models in the schema. -/
def model (kindOf : τ → Kind) (placeOf : ρ → Nat) (m : Mapping τ ρ) : Model :=
  { typeName := m.typeName
    table := m.table
    aliasName := m.aliasName
    columns := m.fields.map fun f =>
      { property := f.ident.name
        name := f.column
        kind := if f.reference.isSome then .object else kindOf f.type
        key := f.key
        reference := f.reference.map placeOf } }

end Mapping

end SqlCompose.Derive
