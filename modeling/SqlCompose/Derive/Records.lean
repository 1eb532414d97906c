import SqlCompose.Derive.Mapping
import SqlCompose.Record
import SqlCompose.Scalar

/-! Families of declarations that refer to one another, the schema they make up, and the
conversion of their values to rows and back. -/

namespace SqlCompose.Derive

/-- A declaration whose references are places in its family. Fields without a scalar type
carry no data. -/
abbrev FamilyMember := Declaration (Option ScalarType) Nat

abbrev MemberMapping := Mapping (Option ScalarType) Nat

/-- A value of a declared type: one scalar for each field of the declaration, in order. -/
abbrev Record := List Scalar

/-- The kind of a field type; one without data has the most general kind. -/
def kindOfField (t : Option ScalarType) : Kind :=
  (t.map ScalarType.kind).getD .object

namespace Mapping

/-- The scalar of a mapped field. -/
def scalar (f : MappedField (Option ScalarType) Nat) (r : Record) : Scalar :=
  (r[f.position]?).getD .absent

/-- The values of the stored columns of a record. -/
def values (m : MemberMapping) (r : Record) : Except Error (List Value) :=
  m.storedFields.mapM fun f => (scalar f r).toValue

def key (m : MemberMapping) (r : Record) : Except Error Value :=
  match m.keyField? with
  | some f => (scalar f r).toValue
  | none => .error (.missingPrimaryKey m.typeName)

/-- Why a record does not take a generated key, if it does not. -/
def keyRefusal? {τ ρ : Type} (m : Mapping τ ρ) : Option Error :=
  match m.keyField? with
  | some f =>
    if f.key = some .autoIncrement then none else some (.assignedKey f.ident.name m.typeName)
  | none => some (.missingPrimaryKey m.typeName)

/-- Writes a generated key into the key field. -/
def setKey (m : MemberMapping) (r : Record) (key : Int64) : Except Error Record :=
  match m.keyRefusal?, m.keyField? with
  | some e, _ => .error e
  | none, some f =>
    match f.type with
    | some t => (t.ofKey key).map fun s => r.set f.position s
    | none => .error (.custom "the key field carries no data")
  | none, none => .error (.missingPrimaryKey m.typeName)

end Mapping

/-- The mappings of a family, if each of its declarations can be mapped. -/
def mapFamily (family : List FamilyMember) : Except (List Fault) (List MemberMapping) :=
  family.mapM fun d => d.map .model

/-- The models of a mapped family, given the places in a schema of its members. -/
def familyModels (placeOf : Nat → Nat) (mappings : List MemberMapping) : List Model :=
  mappings.map (Mapping.model kindOfField placeOf)

/-- The records of one member of a mapped family, on the schema of that family alone. -/
def recordType (mappings : List MemberMapping) (m : MemberMapping) : RecordType Record where
  schema := ⟨familyModels id mappings⟩
  model := m.model kindOfField id
  values := m.values
  key := m.key
  setKey := m.setKey

/-- The paths of all accessors below a model, in the order of its columns, with references
expanded in place at most `depth` models deep. -/
def accessorPaths (s : Schema) : (depth : Nat) → Model → List PropertyPath
  | 0, _ => []
  | depth + 1, m =>
    m.columns.flatMap fun c =>
      match c.reference with
      | none => [[c.property]]
      | some place =>
        match s.model? place with
        | some target => (accessorPaths s depth target).map (c.property :: ·)
        | none => []

end SqlCompose.Derive
