import Mathlib.Data.List.Nodup
import SqlCompose.Proofs.Except
import SqlCompose.Proofs.Rendering
import SqlCompose.RowDelete
import SqlCompose.RowUpdate

/-! Ways to refer to a column, and the statements on records with either of them. A column's own name
is taken for a name only if it is a plain identifier; by its property a column is always found. So the
statements that find rows by their key differ where the key column has another kind of name. -/

namespace SqlCompose

/-! ### Columns -/

/-- A column by its name, as a text. -/
def Column.byName (c : Column) : ColumnRef :=
  .raw c.name

/-- A column by its property, as a typed accessor gives it. -/
def Column.byProperty (c : Column) : ColumnRef :=
  .field [c.property]

/-- A column in the condition of an update. -/
def RowUpdate.qualified (table column : String) : String :=
  if Text.isPlainIdentifier column then table ++ "." ++ column else column

/-- Of all columns with one name and a point before it, none is written without them. -/
theorem RowUpdate.qualified_eq_iff {table column : String} :
    qualified table column = table ++ "." ++ column ↔ Text.isPlainIdentifier column = true := by
  unfold qualified
  split
  · next h => exact iff_of_true rfl h
  · next h =>
    refine iff_of_false (fun heq => ?_) h
    have hlength := congrArg String.length heq
    simp [String.length_append] at hlength

theorem Model.property?_of_mem {m : Model} (hnodup : (m.columns.map (·.property)).Nodup)
    {c : Column} (hc : c ∈ m.columns) : m.property? c.property = some c := by
  have hsome : (m.property? c.property).isSome = true :=
    List.find?_isSome.mpr ⟨c, hc, beq_self_eq_true _⟩
  obtain ⟨c', hc'⟩ := Option.isSome_iff_exists.mp hsome
  have hsame : c'.property = c.property := eq_of_beq (List.find?_eq_some_iff_append.mp hc').1
  have heq : c' = c := List.inj_on_of_nodup_map hnodup (List.mem_of_find?_eq_some hc') hc hsame
  rw [hc', heq]

namespace Source

variable {s : Source} {c : Column}

theorem qualify_byName (s : Source) (c : Column) :
    s.qualify c.byName = .ok (.verbatim (RowUpdate.qualified s.aliasName c.name)) := by
  rw [Column.byName, qualify, RowUpdate.qualified]
  split <;> rfl

theorem columnName_property (hnodup : (s.model.columns.map (·.property)).Nodup)
    (hc : c ∈ s.model.columns) : s.columnName [c.property] = .ok c.name := by
  rw [columnName, Schema.resolve, Schema.namesAlong, Model.property?_of_mem hnodup hc,
    Option.map_some]
  dsimp only
  rw [String.intercalate_singleton]

theorem qualify_byProperty (hnodup : (s.model.columns.map (·.property)).Nodup)
    (hc : c ∈ s.model.columns) :
    s.qualify c.byProperty = .ok (.verbatim (s.aliasName ++ "." ++ c.name)) := by
  rw [Column.byProperty, qualify, columnName_property hnodup hc]
  rfl

theorem unqualified_byProperty (hnodup : (s.model.columns.map (·.property)).Nodup)
    (hc : c ∈ s.model.columns) : s.unqualified c.byProperty = .ok (.verbatim c.name) := by
  rw [Column.byProperty, unqualified, columnName_property hnodup hc]
  rfl

end Source

/-! ### First tests -/

/-- The first test of a condition. -/
theorem Predicate.test_first {p : Predicate} (hp : p.pending = {}) (hbody : p.body = .empty)
    {ops : List Operator} {operands : List Operand} {text : Fragment}
    (h : (Test.mk ops operands).compile p.source = .ok text) :
    p.test ops operands = .ok { p with body := text } := by
  obtain ⟨source, pending, body⟩ := p
  obtain rfl := hp
  obtain rfl := hbody
  refine (bind_of_ok h _).trans (congrArg Except.ok ?_)
  exact congrArg (Predicate.mk source {}) (Fragment.empty_append text)

/-! ### Updates -/

namespace RowUpdate

/-- A column is given a value. -/
def assignment (p : Column × Value) : Fragment :=
  ⟨p.1.name ++ " = ?", [p.2]⟩

theorem set_stored {u : RowUpdate} {p : Column × Value} {c : ColumnRef}
    (hc : u.filter.source.unqualified c = .ok (.verbatim p.1.name)) :
    u.set c (.stored p.2) = .ok { u with assignments := u.assignments ++ [assignment p] } := by
  have htext : .verbatim p.1.name ++ .verbatim " = " ++ .bound p.2 = assignment p :=
    Fragment.ext (String.append_assoc ..) rfl
  rw [← htext]
  exact bind_of_ok hc _

theorem foldlM_set {refer : Column → ColumnRef} {l : List (Column × Value)} {u : RowUpdate}
    (h : ∀ p ∈ l, u.filter.source.unqualified (refer p.1) = .ok (.verbatim p.1.name)) :
    l.foldlM (fun u p => u.set (refer p.1) (.stored p.2)) u =
      .ok { u with assignments := u.assignments ++ l.map assignment } := by
  induction l generalizing u with
  | nil =>
    rw [List.map_nil, List.append_nil]
    rfl
  | cons p l ih =>
    obtain ⟨hp, hl⟩ := List.forall_mem_cons.mp h
    rw [List.foldlM_cons, set_stored hp]
    refine (ih (u := { u with assignments := u.assignments ++ [assignment p] }) hl).trans ?_
    rw [List.map_cons, List.append_assoc]
    rfl

/-- The update of a record, with a way to refer to the columns. -/
def recordBy {ρ : Type} (refer : Column → ColumnRef) (T : RecordType ρ) (r : ρ) :
    Except Error RowUpdate := do
  let key ← T.model.requirePrimaryKey
  let values ← T.values r
  let assigned := (T.model.storedColumns.zip values).filter fun p => p.1.key.isNone
  let u ← assigned.foldlM (fun u p => u.set (refer p.1) (.stored p.2))
    (ofModel T.schema T.model)
  let filter ← u.filter.compare .equal (refer key) (.operand (.value (← T.key r)))
  return { u with filter := filter }

/-- Records refer to columns by their names. -/
theorem ofRecord_eq {ρ : Type} (T : RecordType ρ) (r : ρ) :
    ofRecord T r = recordBy Column.byName T r :=
  rfl

/-- The columns that the update of a row assigns, with their values. -/
def assigned (m : Model) (row : List Value) : List (Column × Value) :=
  (m.storedColumns.zip row).filter fun p => p.1.key.isNone

/-- The update that assigns the values of a row, and asks for the key in a column as it is written.
-/
def assigning (schema : Schema) (m : Model) (row : List Value) (column : String) (key : Value) :
    RowUpdate :=
  { assignments := (assigned m row).map assignment
    filter := { (ofModel schema m).filter with body := ⟨column ++ " = ?", [key]⟩ } }

theorem compare_equal {schema : Schema} {m : Model} {c : ColumnRef} {column : String}
    (hc : (ofModel schema m).filter.source.qualify c = .ok (.verbatim column)) (v : Value) :
    (ofModel schema m).filter.compare .equal c (.operand (.value v)) =
      .ok { (ofModel schema m).filter with body := ⟨column ++ " = ?", [v]⟩ } := by
  have htext : .verbatim column ++ .verbatim (" " ++ "=" ++ " ") ++ .bound v =
      (⟨column ++ " = ?", [v]⟩ : Fragment) :=
    Fragment.ext (String.append_assoc ..) rfl
  have htest : (Test.mk [.equal] [.column c, .value v]).compile (ofModel schema m).filter.source =
      .ok (.verbatim column ++ .verbatim (" " ++ "=" ++ " ") ++ .bound v) :=
    Test.compile_pair rfl hc rfl nofun
  exact Predicate.test_first rfl rfl (htext ▸ htest)

/-- What the update of a record is, if the columns that are assigned are written by their names. -/
theorem recordBy_eq {ρ : Type} {T : RecordType ρ} {refer : Column → ColumnRef} {key : Column}
    {column : String} (hkey : T.model.primaryKey? = some key)
    (hset : ∀ c ∈ T.model.columns, (ofModel T.schema T.model).filter.source.unqualified (refer c) =
      .ok (.verbatim c.name))
    (hcolumn : (ofModel T.schema T.model).filter.source.qualify (refer key) = .ok (.verbatim column))
    (r : ρ) :
    recordBy refer T r = do
      let row ← T.values r
      let v ← T.key r
      return assigning T.schema T.model row column v := by
  have hrequire : T.model.requirePrimaryKey = .ok key := by rw [Model.requirePrimaryKey, hkey]
  refine (bind_of_ok hrequire _).trans ?_
  cases hrow : T.values r with
  | error e => rfl
  | ok row =>
    have hassigned : ∀ p ∈ assigned T.model row,
        (ofModel T.schema T.model).filter.source.unqualified (refer p.1) =
          .ok (.verbatim p.1.name) := by
      intro p hp
      have hmem := (List.of_mem_zip (List.mem_filter.mp hp).1).1
      exact hset p.1 (List.mem_filter.mp hmem).1
    refine (bind_of_ok (foldlM_set hassigned) _).trans ?_
    cases hv : T.key r with
    | error e => rfl
    | ok v => exact (bind_of_ok (compare_equal hcolumn v) _).trans rfl

/-- What the update of a record assigns, and how it finds the row. -/
theorem ofRecord_ok {ρ : Type} {T : RecordType ρ} {r : ρ} {key : Column} {row : List Value}
    {v : Value} (hkey : T.model.primaryKey? = some key) (hrow : T.values r = .ok row)
    (hv : T.key r = .ok v) :
    ofRecord T r = .ok
      { assignments :=
          ((T.model.storedColumns.zip row).filter fun p => p.1.key.isNone).map assignment
        filter := { (ofModel T.schema T.model).filter with
          body := ⟨qualified T.model.table key.name ++ " = ?", [v]⟩ } } := by
  rw [ofRecord_eq, recordBy_eq hkey (fun _ _ => rfl) (Source.qualify_byName _ key), hrow, hv]
  rfl

end RowUpdate

/-! ### Deletions -/

namespace RowDelete

/-- The deletion by keys, with a way to refer to the key column. -/
def keyedBy (refer : Column → ColumnRef) (schema : Schema) (m : Model) (keys : List Scalar) :
    Except Error RowDelete := do
  let key ← m.requirePrimaryKey
  let filter ← (ofModel schema m).filter.isIn (refer key) keys
  return { filter := filter }

/-- Keys are looked for in the column of their name. -/
theorem ofKeys_eq (schema : Schema) (m : Model) (keys : List Scalar) :
    ofKeys schema m keys = keyedBy Column.byName schema m keys :=
  rfl

/-- The deletion that asks for some keys in a column as it is written. -/
def asking (schema : Schema) (m : Model) (column : String) (keys : List Value) : RowDelete :=
  { filter := { (ofModel schema m).filter with
      body := Test.infixed (.verbatim column) "IN" (Fragment.boundList keys).parenthesized } }

theorem keyedBy_eq {schema : Schema} {m : Model} {refer : Column → ColumnRef} {key : Column}
    {column : String} (hkey : m.primaryKey? = some key)
    (hcolumn : (ofModel schema m).filter.source.qualify (refer key) = .ok (.verbatim column))
    (keys : List Scalar) :
    keyedBy refer schema m keys =
      (keys.mapM Scalar.toValue).map (asking schema m column) := by
  have hrequire : m.requirePrimaryKey = .ok key := by rw [Model.requirePrimaryKey, hkey]
  refine (bind_of_ok hrequire _).trans ?_
  cases hvalues : keys.mapM Scalar.toValue with
  | error e =>
    rw [Predicate.isIn, hvalues]
    rfl
  | ok values =>
    have htest : (Test.mk [.isIn] [.column (refer key), .values values]).compile
        (ofModel schema m).filter.source =
          .ok (Test.infixed (.verbatim column) "IN" (Fragment.boundList values).parenthesized) :=
      Test.compile_pair rfl hcolumn rfl nofun
    rw [Predicate.isIn, hvalues]
    exact (bind_of_ok (Predicate.test_first rfl rfl htest) _).trans rfl

end RowDelete

end SqlCompose
