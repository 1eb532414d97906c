import SqlCompose.Proofs.Derive.Records
import SqlCompose.Proofs.References
import SqlCompose.Proofs.Scalars

/-! The stored fields of a declaration. The description of its table and the conversion of its
records go through the fields separately, and yet a row has one value for each stored column, that
of the field which the column was made for. So rows can be inserted as they are, and an update gives
each column its own value and finds the row by the value of the key column. -/

namespace SqlCompose

/-! ### Batches -/

/-- A batch in which every row has one value for each column is never ragged. -/
theorem Insertion.compile_ne_raggedBatch {i : Insertion} {rows : List (List Value)}
    (hrows : ∀ row ∈ rows, row.length = i.columns.length) (table : String) (expected actual : Nat)
    (shown : String) : i.compile rows ≠ .error (.raggedBatch table expected actual shown) := by
  have hnone : (rows.find? fun row => row.length ≠ i.columns.length) = none := by
    simpa [List.find?_eq_none] using hrows
  rw [compile, hnone]
  split
  · nofun
  · cases hsize : i.rowsPerStatement with
    | ok size => nofun
    | error e =>
      rintro ⟨⟩
      simp only [rowsPerStatement] at hsize
      split at hsize
      · cases hsize
      · split at hsize <;> cases hsize

namespace Derive

variable {τ ρ : Type}

/-! ### Places -/

/-- Whether a field is stored, according to its attributes. -/
def Field.isStored (f : Field τ ρ) : Bool :=
  match readField f.attributes with
  | .ok s => !s.ignored && s.reference.isNone
  | .error _ => false

/-- The places of the stored fields in a declaration, in order. -/
def Declaration.storedPlaces (d : Declaration τ ρ) : List Nat :=
  d.fields.findIdxs Field.isStored

/-- The column that a stored field becomes. -/
def Field.storedColumn (kindOf : τ → Kind) (convert : String → String) (f : Field τ ρ)
    (s : FieldSettings ρ) : Column :=
  { property := f.ident.name, name := s.column.getD (convert f.ident.name), kind := kindOf f.type
    key := s.key }

theorem positions_readFields {convert : String → String} {position : Nat}
    {fields : List (Field τ ρ)} {mapped : List (MappedField τ ρ)}
    (h : readFields convert position fields = .ok mapped) :
    (mapped.filter fun f => f.reference.isNone).map (·.position) =
      fields.findIdxs Field.isStored position := by
  induction fields generalizing position mapped with
  | nil => cases h; rfl
  | cons f fields ih =>
    rw [readFields] at h
    obtain ⟨s, hs, h⟩ := bind_ok h
    obtain ⟨rest, hrest, h⟩ := bind_ok h
    have hstored : f.isStored = (!s.ignored && s.reference.isNone) := by rw [Field.isStored, hs]
    rw [List.findIdxs_cons, ← ih hrest, hstored]
    split at h
    · next hignored =>
      cases h
      simp [hignored]
    · next hignored =>
      cases h
      cases s.reference <;> simp [hignored]

/-! ### Columns -/

section

variable {m : Mapping τ ρ} (kindOf : τ → Kind) (placeOf : ρ → Nat)

/-- The column of a mapped field that is stored. -/
def MappedField.storedColumn (f : MappedField τ ρ) : Column :=
  { property := f.ident.name, name := f.column, kind := kindOf f.type, key := f.key }

theorem Mapping.storedColumns_model :
    (m.model kindOf placeOf).storedColumns = m.storedFields.map (·.storedColumn kindOf) := by
  have hfilter : (m.fields.filter fun f => (f.reference.map placeOf).isNone) = m.storedFields :=
    List.filter_congr fun f _ => by rw [Option.isNone_map]
  simp only [Model.storedColumns, model, List.filter_map]
  refine Eq.trans (congrArg _ hfilter) (List.map_congr_left fun f hf => ?_)
  have href : f.reference = none := by simpa using (List.mem_filter.mp hf).2
  simp [MappedField.storedColumn, href]

variable {d : Declaration τ ρ} (h : m.IsOf d)

include h

theorem Mapping.IsOf.positions_storedFields : m.storedFields.map (·.position) = d.storedPlaces := by
  obtain ⟨settings, -, -, hread⟩ := h.read
  exact positions_readFields hread

/-- There is no other key field. -/
theorem Mapping.IsOf.keyField_eq {f : MappedField τ ρ} (hf : f ∈ m.fields)
    (hkey : f.key.isSome = true) : m.keyField? = some f := by
  have hmem : f ∈ m.fields.filter fun f => f.key.isSome := List.mem_filter.mpr ⟨hf, hkey⟩
  obtain ⟨g, hkeys⟩ : ∃ g, (m.fields.filter fun f => f.key.isSome) = [g] :=
    List.length_eq_one_iff.mp (Nat.le_antisymm h.sound.keys (List.length_pos_of_mem hmem))
  rw [hkeys, List.mem_singleton] at hmem
  rw [keyField?, ← List.head?_filter, hkeys, hmem]
  rfl

theorem Mapping.IsOf.primaryKey_eq :
    (m.model kindOf placeOf).primaryKey? = m.keyField?.map (·.storedColumn kindOf) := by
  rw [Model.primaryKey?, model, List.find?_map]
  show m.keyField?.map _ = _
  cases hf : m.keyField? with
  | none => rfl
  | some f =>
    have hstored : f ∈ m.storedFields := h.keyField_stored hf
    have href : f.reference = none := by simpa using (List.mem_filter.mp hstored).2
    simp [MappedField.storedColumn, href]

/-- The field at a place and its column, which stands in the same place as its value. -/
theorem Mapping.IsOf.storedField {settings : TypeSettings}
    (hsettings : readType d.attributes = .ok settings) {i place : Nat}
    (hi : d.storedPlaces[i]? = some place) :
    ∃ f g s, m.storedFields[i]? = some f ∧ f.position = place ∧ d.fields[place]? = some g ∧
      readField g.attributes = .ok s ∧ f.key = s.key ∧
      f.storedColumn kindOf = g.storedColumn kindOf settings.caseStyle.apply s := by
  rw [← h.positions_storedFields, List.getElem?_map] at hi
  obtain ⟨f, hf, rfl⟩ := Option.map_eq_some_iff.mp hi
  obtain ⟨settings', hsettings', -, hread⟩ := h.read
  obtain rfl : settings' = settings := Except.ok.inj (hsettings'.symm.trans hsettings)
  have hmem : f ∈ m.fields := (List.mem_filter.mp (List.mem_of_getElem? hf)).1
  obtain ⟨j, g, hg, hmaps⟩ := maps_of_readFields hread f hmem
  obtain ⟨s, hs, hkey, -, hcolumn⟩ := hmaps.settings
  refine ⟨f, g, s, hf, rfl, ?_, hs, hkey, ?_⟩
  · rw [hmaps.position_eq, Nat.zero_add]
    exact hg
  · rw [MappedField.storedColumn, Field.storedColumn, hmaps.ident_eq, hmaps.type_eq, hkey, hcolumn]

end

/-! ### Rows -/

namespace Mapping

variable {m : MemberMapping}

/-- Only a number that is too large has no value. -/
theorem values_error {r : Record} {e : Error} (h : m.values r = .error e) :
    e = .integerTooLarge := by
  obtain ⟨f, -, hf⟩ := mapM_error h
  exact Scalar.toValue_error hf

theorem IsOf.values_ok {d : FamilyMember} (h : m.IsOf d) {r : Record}
    (hr : ∀ place ∈ d.storedPlaces, ∃ s v, r[place]? = some s ∧ s.toValue = .ok v) :
    ∃ row, m.values r = .ok row := by
  refine exists_mapM_ok fun f hf => ?_
  have hplace : f.position ∈ d.storedPlaces :=
    h.positions_storedFields ▸ List.mem_map_of_mem hf
  obtain ⟨s, v, hs, hv⟩ := hr _ hplace
  exact ⟨v, by rw [scalar, hs]; exact hv⟩

/-- Records of one declaration never make a ragged batch, whether they can be stored or not. -/
theorem compileRecords_ne_raggedBatch {T : RecordType Record} (hT : T.values = m.values)
    {i : Insertion} (placeOf : Nat → Nat)
    (hi : i.columns = (m.model kindOfField placeOf).columnNames) (records : List Record)
    (table : String) (expected actual : Nat) (shown : String) :
    i.compileRecords T records ≠ .error (.raggedBatch table expected actual shown) := by
  rw [Insertion.compileRecords, hT]
  cases hrows : records.mapM m.values with
  | error e =>
    obtain ⟨r, -, hr⟩ := mapM_error hrows
    obtain rfl := values_error hr
    nofun
  | ok rows =>
    refine Insertion.compile_ne_raggedBatch (fun row hrow => ?_) table expected actual shown
    obtain ⟨r, -, hr⟩ := mem_mapM_ok hrows row hrow
    rw [hi]
    exact length_values hr

end Mapping

end Derive

/-! ### Agreement -/

namespace Derive

/-- A declaration is mapped in the same way whatever is generated for it. -/
theorem Declaration.map_eq {t t' : Target} {d : Declaration τ ρ} {m m' : Mapping τ ρ}
    (h : d.map t = .ok m) (h' : d.map t' = .ok m') : m = m' := by
  obtain ⟨settings, hsettings, h⟩ := bind_ok h
  obtain ⟨settings', hsettings', h'⟩ := bind_ok h'
  obtain rfl : settings' = settings := Except.ok.inj (hsettings'.symm.trans hsettings)
  obtain ⟨fields, hfields, h⟩ := bind_ok h
  obtain ⟨fields', hfields', h'⟩ := bind_ok h'
  obtain rfl : fields' = fields := (namedFields_ok hfields').trans (namedFields_ok hfields).symm
  exact Except.ok.inj (h.symm.trans h')

/-- For every declaration that can be described as a table and converted to rows. A record whose
stored fields have values gives a row with one value for each stored column, in the same place as
the column of that field, and its key is the value in the place of the key column. No batch of
records is ragged. The update of a record assigns its own value to every other column, in order, and
asks for the key. -/
theorem Declaration.rows_match_columns {d : FamilyMember} {m m' : MemberMapping}
    (hm : d.map .model = .ok m) (hm' : d.map .record = .ok m') (schema : Schema)
    (placeOf : Nat → Nat) {r : Record}
    (hr : ∀ place ∈ d.storedPlaces, ∃ s v, r[place]? = some s ∧ s.toValue = .ok v) :
    let T : RecordType Record :=
      { schema, model := m.model kindOfField placeOf
        values := m'.values, key := m'.key, setKey := m'.setKey }
    ∃ settings row, readType d.attributes = .ok settings ∧ T.values r = .ok row ∧
      T.model.storedColumns.length = d.storedPlaces.length ∧
      row.length = d.storedPlaces.length ∧ T.model.columnNames.Nodup ∧
      (∀ (i place : Nat), d.storedPlaces[i]? = some place → ∃ (f : Field (Option ScalarType) Nat)
        (s : FieldSettings Nat) (scalar : Scalar) (v : Value),
        let column := f.storedColumn kindOfField settings.caseStyle.apply s
        d.fields[place]? = some f ∧ readField f.attributes = .ok s ∧
        T.model.storedColumns[i]? = some column ∧
        r[place]? = some scalar ∧ scalar.toValue = .ok v ∧ row[i]? = some v ∧
        (s.key.isSome = true → T.model.primaryKey? = some column ∧ T.key r = .ok v)) ∧
      (∀ limit records table expected actual shown,
        ((Insertion.ofModel T.model).limited limit).compileRecords T records ≠
          .error (.raggedBatch table expected actual shown)) ∧
      ∀ key, T.model.primaryKey? = some key →
        key ∈ T.model.storedColumns ∧ key.key.isSome = true ∧ ∃ v u,
          T.key r = .ok v ∧ RowUpdate.ofRecord T r = .ok u ∧
          u.assignments = ((T.model.storedColumns.zip row).filter
            fun p => p.1.key.isNone).map RowUpdate.assignment ∧
          u.filter.compile = ⟨RowUpdate.qualified T.model.table key.name ++ " = ?", [v]⟩ := by
  intro T
  obtain rfl : m = m' := map_eq hm hm'
  have hmap : m.IsOf d := map_ok hm
  have hcolumns : T.model.storedColumns = m.storedFields.map (·.storedColumn kindOfField) :=
    Mapping.storedColumns_model kindOfField placeOf
  have hlength : m.storedFields.length = d.storedPlaces.length := by
    rw [← hmap.positions_storedFields, List.length_map]
  have hprimary : T.model.primaryKey? = m.keyField?.map (·.storedColumn kindOfField) :=
    hmap.primaryKey_eq kindOfField placeOf
  obtain ⟨settings, hsettings, -⟩ := hmap.read
  obtain ⟨row, hrow⟩ := hmap.values_ok hr
  refine ⟨settings, row, hsettings, hrow, ?_, ?_, hmap.nodup_columnNames kindOfField placeOf, ?_,
    ?_, ?_⟩
  · rw [hcolumns, List.length_map, hlength]
  · rw [length_mapM_ok hrow, hlength]
  · intro i place hi
    obtain ⟨f, g, s, hf, rfl, hg, hs, hkey, hcolumn⟩ :=
      hmap.storedField kindOfField hsettings hi
    obtain ⟨scalar, v, hscalar, hv⟩ := hr _ (List.mem_of_getElem? hi)
    obtain ⟨v', hv', hvalue⟩ := mapM_getElem hrow hf
    have hsame : Mapping.scalar f r = scalar := by rw [Mapping.scalar, hscalar, Option.getD_some]
    obtain rfl : v = v' := Except.ok.inj (hv.symm.trans (hsame ▸ hvalue))
    refine ⟨g, s, scalar, v, hg, hs, ?_, hscalar, hv, hv', fun hisKey => ?_⟩
    · rw [hcolumns, List.getElem?_map, hf, Option.map_some, hcolumn]
    · have hfield : m.keyField? = some f :=
        hmap.keyField_eq (List.mem_filter.mp (List.mem_of_getElem? hf)).1 (hkey ▸ hisKey)
      rw [hprimary, hfield, Option.map_some, hcolumn]
      exact ⟨rfl, (Mapping.key_eq hfield r).trans hvalue⟩
  · intro limit records table expected actual shown
    exact Mapping.compileRecords_ne_raggedBatch rfl placeOf rfl records table expected actual shown
  · intro key hkey
    obtain ⟨f, hfield, rfl⟩ := Option.map_eq_some_iff.mp (hprimary.symm.trans hkey)
    have hstored : f ∈ m.storedFields := hmap.keyField_stored hfield
    have hisKey : f.key.isSome = true := (List.find?_eq_some_iff_append.mp hfield).1
    obtain ⟨i, hi⟩ := List.mem_iff_getElem?.mp hstored
    obtain ⟨v, -, hv⟩ := mapM_getElem hrow hi
    have hvalue : T.key r = .ok v := (Mapping.key_eq hfield r).trans hv
    refine ⟨hcolumns ▸ List.mem_map_of_mem hstored, hisKey, v, _, hvalue,
      RowUpdate.ofRecord_ok hkey hrow hvalue, rfl, rfl⟩

/-- A declaration with a field that is ignored, one with a name of its own, a reference and a key.
-/
def post : FamilyMember :=
  { ident := ⟨"Post", false⟩
    attributes := [.table "posts"]
    shape := .named [⟨⟨"draft", false⟩, some .boolean, [.ignored true]⟩,
      ⟨⟨"title", false⟩, some .text, [.column "headline"]⟩,
      ⟨⟨"author", false⟩, none, [.reference 0]⟩,
      ⟨⟨"id", false⟩, some (.integer .uint64), [.primaryKey true]⟩] }

/-- Only the title and the key are stored, and only the title is assigned. -/
theorem Declaration.rows_match_columns_of_post :
    let r : Record := [.boolean true, .text "News", .absent, .unsigned 7]
    ∃ m m', post.map .model = .ok m ∧ post.map .record = .ok m' ∧
      post.storedPlaces = [1, 3] ∧
      (∀ place ∈ post.storedPlaces, ∃ s v, r[place]? = some s ∧ s.toValue = .ok v) ∧
      let T : RecordType Record :=
        { schema := ⟨[]⟩, model := m.model kindOfField id
          values := m'.values, key := m'.key, setKey := m'.setKey }
      T.model.columnNames = ["headline", "id"] ∧
      T.values r = .ok [.text "News", .integer 7] ∧
      ∃ u, RowUpdate.ofRecord T r = .ok u ∧
        u.assignments = [⟨"headline = ?", [.text "News"]⟩] ∧
        u.filter.compile = ⟨"posts.id = ?", [.integer 7]⟩ := by
  intro r
  have hr : ∀ place ∈ post.storedPlaces, ∃ s v, r[place]? = some s ∧ s.toValue = .ok v := by
    rw [show post.storedPlaces = [1, 3] from rfl]
    exact List.forall_mem_cons.mpr ⟨⟨_, _, rfl, rfl⟩, List.forall_mem_singleton.mpr
      ⟨_, .integer 7, rfl, rfl⟩⟩
  refine ⟨_, _, rfl, rfl, rfl, hr, ?_⟩
  intro T
  obtain ⟨settings, row, -, hrow, -, -, -, -, -, hkey⟩ :=
    rows_match_columns (d := post) rfl rfl ⟨[]⟩ id hr
  have hvalues : T.values r = .ok [.text "News", .integer 7] := rfl
  obtain rfl : row = [.text "News", .integer 7] := Except.ok.inj (hrow.symm.trans hvalues)
  obtain ⟨-, -, v, u, hv, hu, hassignments, hfilter⟩ := hkey _ rfl
  obtain rfl : v = .integer 7 := Except.ok.inj (hv.symm.trans rfl)
  exact ⟨rfl, hvalues, u, hu, hassignments, hfilter⟩

end Derive

end SqlCompose
