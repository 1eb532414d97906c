import SqlCompose.Error
import SqlCompose.Model

/-! Records: typed rows that know their column values and can take a generated key. -/

namespace SqlCompose

/-- What there is to know of the records of type `ρ`: the model that describes their table,
the values of its stored columns in order, and the primary key. -/
structure RecordType (ρ : Type) where
  schema : Schema
  model : Model
  values : ρ → Except Error (List Value)
  key : ρ → Except Error Value
  setKey : ρ → Int64 → Except Error ρ

end SqlCompose
