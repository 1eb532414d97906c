import SqlCompose.Proofs.Derive.StoredFields

/-! Updates of records and deletions by keys, against the same statements with typed fields. Both
assign the same values, and both look for the key in the same column; the typed statements always
qualify it with the name of the table, the others only if its name is a plain identifier. -/

namespace SqlCompose

/-! ### Deletions -/

namespace RowDelete

variable {schema : Schema} {m : Model} {key : Column}

theorem compile_asking (column : String) (keys : List Value) :
    (asking schema m column keys).compile = .verbatim ("DELETE FROM " ++ m.table ++ " WHERE ") ++
      Test.infixed (.verbatim column) "IN" (Fragment.boundList keys).parenthesized := by
  have htested : (asking schema m column keys).filter.isEmpty = false := by
    simp [Predicate.isEmpty, asking, Test.infixed]
  rw [compile, htested]
  refine Fragment.ext ?_ rfl
  simp [asking, table, ofModel, Predicate.compile, String.append_assoc]

/-- A deletion by keys shows how the column is written. -/
theorem compile_asking_inj {column column' : String} {keys : List Value} :
    (asking schema m column keys).compile = (asking schema m column' keys).compile ↔
      column = column' := by
  refine ⟨fun h => ?_, fun h => by rw [h]⟩
  rw [compile_asking, compile_asking] at h
  simpa [Test.infixed, String.append_assoc] using congrArg Fragment.sql h

/-- A deletion by keys is the typed one if its column is a plain identifier, or if there is none. -/
theorem compile_ofKeys_eq_iff (hnodup : (m.columns.map (·.property)).Nodup)
    (hkey : m.primaryKey? = some key) (keys : List Scalar) :
    (ofKeys schema m keys).map compile =
        (keyedBy Column.byProperty schema m keys).map compile ↔
      Text.isPlainIdentifier key.name = true ∨ ∃ e, ofKeys schema m keys = .error e := by
  have hmem : key ∈ m.columns := List.mem_of_find?_eq_some hkey
  rw [ofKeys_eq, keyedBy_eq hkey (Source.qualify_byName _ key),
    keyedBy_eq hkey (Source.qualify_byProperty hnodup hmem)]
  cases keys.mapM Scalar.toValue with
  | error e => exact iff_of_true rfl (.inr ⟨e, rfl⟩)
  | ok values =>
    simp only [Except.map, Except.ok.injEq, reduceCtorEq, exists_false, or_false]
    exact compile_asking_inj.trans RowUpdate.qualified_eq_iff

end RowDelete

/-! ### Updates -/

namespace RowUpdate

variable {schema : Schema} {m : Model} {row : List Value} {key : Value}

theorem compile_assigning (column : String) (hrow : assigned m row ≠ []) :
    (assigning schema m row column key).compile =
      .ok (.verbatim ("UPDATE " ++ m.table ++ " SET ") ++
        .join ", " ((assigned m row).map assignment) ++ ⟨" WHERE " ++ column ++ " = ?", [key]⟩) := by
  have hsome : (assigning schema m row column key).assignments.isEmpty = false := by
    simpa [assigning] using hrow
  have htested : (assigning schema m row column key).filter.isEmpty = false := by
    simp [Predicate.isEmpty, assigning, Fragment.isEmpty]
  rw [compile, hsome, htested]
  refine congrArg Except.ok (Fragment.ext ?_ rfl)
  simp [assigning, table, ofModel, Predicate.compile, String.append_assoc]

/-- An update of a row shows how the column of the key is written, if it assigns anything. -/
theorem compile_assigning_inj {column column' : String} (hrow : assigned m row ≠ []) :
    (assigning schema m row column key).compile = (assigning schema m row column' key).compile ↔
      column = column' := by
  refine ⟨fun h => ?_, fun h => by rw [h]⟩
  rw [compile_assigning column hrow, compile_assigning column' hrow] at h
  simpa [String.append_assoc] using congrArg Fragment.sql (Except.ok.inj h)

/-- The update of a record is the typed one if its key column is a plain identifier, or if there is
none. -/
theorem compileRecord_eq_iff {ρ : Type} {T : RecordType ρ} {key : Column}
    (hnodup : (T.model.columns.map (·.property)).Nodup) (hkey : T.model.primaryKey? = some key)
    (r : ρ) :
    compileRecord T r = recordBy Column.byProperty T r >>= compile ↔
      Text.isPlainIdentifier key.name = true ∨ ∃ e, compileRecord T r = .error e := by
  have hmem : key ∈ T.model.columns := List.mem_of_find?_eq_some hkey
  rw [compileRecord, ofRecord_eq, recordBy_eq hkey (fun _ _ => rfl) (Source.qualify_byName _ key),
    recordBy_eq hkey (fun c hc => Source.unqualified_byProperty hnodup hc)
      (Source.qualify_byProperty hnodup hmem)]
  cases T.values r with
  | error e => exact iff_of_true rfl (.inr ⟨e, rfl⟩)
  | ok row =>
    cases T.key r with
    | error e => exact iff_of_true rfl (.inr ⟨e, rfl⟩)
    | ok v =>
      show (assigning T.schema T.model row _ v).compile = (assigning T.schema T.model row _ v).compile
        ↔ _ ∨ ∃ e, (assigning T.schema T.model row _ v).compile = .error e
      by_cases hrow : assigned T.model row = []
      · have hnone (column : String) : (assigning T.schema T.model row column v).compile =
            .error (.nothingToUpdate T.model.table) := by
          rw [compile, assigning, hrow]
          rfl
        exact iff_of_true ((hnone _).trans (hnone _).symm) (.inr ⟨_, hnone _⟩)
      · have hsome : ¬ ∃ e, (assigning T.schema T.model row
            (qualified T.model.table key.name) v).compile = .error e := by
          rintro ⟨e, he⟩
          rw [compile_assigning _ hrow] at he
          cases he
        exact ((compile_assigning_inj hrow).trans qualified_eq_iff).trans (or_iff_left hsome).symm

end RowUpdate

/-! ### Declared tables -/

namespace Derive

variable {τ ρ : Type}

/-- The key column of a declaration is that of one of its fields. It is a plain identifier if the
field names it itself, or if the name of the field is one, in whatever way names are converted. -/
theorem Mapping.IsOf.exists_keyField {m : Mapping τ ρ} {d : Declaration τ ρ} (h : m.IsOf d)
    {kindOf : τ → Kind} {placeOf : ρ → Nat} {key : Column}
    (hkey : (m.model kindOf placeOf).primaryKey? = some key) :
    ∃ settings, readType d.attributes = .ok settings ∧ ∃ f ∈ d.fields, ∃ s,
      readField f.attributes = .ok s ∧ s.key.isSome = true ∧
      key.name = s.column.getD (settings.caseStyle.apply f.ident.name) ∧
      (s.column.isSome = true ∨ Text.isPlainIdentifier f.ident.name = true →
        Text.isPlainIdentifier key.name = true) := by
  rw [h.primaryKey_eq kindOf placeOf] at hkey
  obtain ⟨f, hfield, rfl⟩ := Option.map_eq_some_iff.mp hkey
  have hisKey : f.key.isSome = true := (List.find?_eq_some_iff_append.mp hfield).1
  obtain ⟨settings, hsettings, -, hread⟩ := h.read
  obtain ⟨i, g, hg, hmaps⟩ := maps_of_readFields hread f (List.mem_of_find?_eq_some hfield)
  obtain ⟨s, hs, hsame, -, hcolumn⟩ := hmaps.settings
  refine ⟨settings, hsettings, g, List.mem_of_getElem? hg, s, hs, hsame ▸ hisKey, hcolumn, ?_⟩
  show _ → Text.isPlainIdentifier f.column = true
  rw [hcolumn]
  intro hplain
  cases hname : s.column with
  | some name => exact Text.isPlainIdentifier_of_identifierFault (readField_name hs name hname)
  | none =>
    rw [hname] at hplain
    exact Text.isPlainIdentifier_apply (readType_words hsettings).2 (hplain.resolve_left nofun)

end Derive

/-! ### Agreement -/

/-- Records with a primary key, in a table whose columns have different properties. Deletions by
keys and updates of records that succeed are the statements with typed fields, text and values
alike, exactly if the name of the key column is a plain identifier; those that fail do so for the
same reason. In a declared table the name is one if the key field names its column itself or has a
plain identifier for a name, in whatever way the names of the fields are converted. -/
theorem RecordType.changes_eq_typed_iff {ρ : Type} {T : RecordType ρ} {key : Column}
    (hnodup : (T.model.columns.map (·.property)).Nodup) (hkey : T.model.primaryKey? = some key) :
    (∀ keys, (RowDelete.ofKeys T.schema T.model keys).map RowDelete.compile =
        (RowDelete.keyedBy Column.byProperty T.schema T.model keys).map RowDelete.compile ↔
      Text.isPlainIdentifier key.name = true ∨
        ∃ e, RowDelete.ofKeys T.schema T.model keys = .error e) ∧
    (∀ r, RowUpdate.compileRecord T r =
        RowUpdate.recordBy Column.byProperty T r >>= RowUpdate.compile ↔
      Text.isPlainIdentifier key.name = true ∨ ∃ e, RowUpdate.compileRecord T r = .error e) ∧
    ∀ {τ σ : Type} {t : Derive.Target} {d : Derive.Declaration τ σ} {m : Derive.Mapping τ σ}
      (kindOf : τ → Kind) (placeOf : σ → Nat), d.map t = .ok m →
      T.model = m.model kindOf placeOf →
      ∃ settings, Derive.readType d.attributes = .ok settings ∧ ∃ f ∈ d.fields, ∃ s,
        Derive.readField f.attributes = .ok s ∧ s.key.isSome = true ∧
        key.name = s.column.getD (settings.caseStyle.apply f.ident.name) ∧
        (s.column.isSome = true ∨ Text.isPlainIdentifier f.ident.name = true →
          Text.isPlainIdentifier key.name = true) := by
  refine ⟨RowDelete.compile_ofKeys_eq_iff hnodup hkey, RowUpdate.compileRecord_eq_iff hnodup hkey, ?_⟩
  intro τ σ t d m kindOf placeOf hmap hmodel
  exact (Derive.Declaration.map_ok hmap).exists_keyField (hmodel ▸ hkey)

namespace Derive

/-- All names in the declaration are plain identifiers, and the statements agree. -/
theorem changes_eq_typed_of_post :
    ∃ m, post.map .model = .ok m ∧
      let T := recordType [m] m
      (T.model.columns.map (·.property)).Nodup ∧ (∃ key, T.model.primaryKey? = some key) ∧
      (∀ keys, (RowDelete.ofKeys T.schema T.model keys).map RowDelete.compile =
        (RowDelete.keyedBy Column.byProperty T.schema T.model keys).map RowDelete.compile) ∧
      ∀ r, RowUpdate.compileRecord T r =
        RowUpdate.recordBy Column.byProperty T r >>= RowUpdate.compile := by
  refine ⟨_, rfl, ?_⟩
  intro T
  have hnodup : (T.model.columns.map (·.property)).Nodup := by decide
  have hkey : T.model.primaryKey? = some _ := rfl
  have hplain : Text.isPlainIdentifier "id" = true := by decide
  obtain ⟨hkeys, hrecord, -⟩ := RecordType.changes_eq_typed_iff hnodup hkey
  exact ⟨hnodup, ⟨_, hkey⟩, fun keys => (hkeys keys).mpr (.inl hplain),
    fun r => (hrecord r).mpr (.inl hplain)⟩

/-- A declaration whose key field has an accented letter in its name. -/
def invoice : FamilyMember :=
  { ident := ⟨"Invoice", false⟩
    attributes := []
    shape := .named [⟨⟨"número", false⟩, some (.integer .uint64), [.autoIncrement true]⟩,
      ⟨⟨"note", false⟩, some .text, []⟩] }

/-- The key column of an invoice is not qualified, as it is with typed fields. -/
theorem changes_ne_typed_of_invoice :
    ∃ m, invoice.map .model = .ok m ∧
      let T := recordType [m] m
      let r : Record := [.unsigned 7, .text "paid"]
      (T.model.columns.map (·.property)).Nodup ∧
      (RowDelete.ofKeys T.schema T.model [.signed 1]).map RowDelete.compile =
        .ok ⟨"DELETE FROM Invoice WHERE número IN (?)", [.integer 1]⟩ ∧
      (RowDelete.keyedBy Column.byProperty T.schema T.model [.signed 1]).map RowDelete.compile =
        .ok ⟨"DELETE FROM Invoice WHERE Invoice.número IN (?)", [.integer 1]⟩ ∧
      RowUpdate.compileRecord T r =
        .ok ⟨"UPDATE Invoice SET note = ? WHERE número = ?", [.text "paid", .integer 7]⟩ ∧
      RowUpdate.recordBy Column.byProperty T r >>= RowUpdate.compile =
        .ok ⟨"UPDATE Invoice SET note = ? WHERE Invoice.número = ?", [.text "paid", .integer 7]⟩ :=
  ⟨_, rfl, by decide, rfl, rfl, rfl, rfl⟩

end Derive

end SqlCompose
