import SqlCompose.Proofs.Derive.Mappings

/-! The checks of the fields of a declaration. What an attribute says of its field is said here of
the field itself; the fields that are not ignored are mapped as they are declared, or else the first
rule that they break is reported. -/

namespace SqlCompose.Derive

variable {τ ρ : Type}

/-! ### What is said of a field -/

namespace Field

def isIgnored (f : Field τ ρ) : Bool :=
  f.attributes.any fun | .ignored on => on | _ => false

def isPrimaryKey (f : Field τ ρ) : Bool :=
  f.attributes.any fun | .primaryKey on => on | _ => false

def isGeneratedKey (f : Field τ ρ) : Bool :=
  f.attributes.any fun | .autoIncrement on => on | _ => false

/-- Either mark makes the field the key of the table. -/
def isKey (f : Field τ ρ) : Bool :=
  f.isPrimaryKey || f.isGeneratedKey

/-- The model that a field refers to, if it is a reference. -/
def reference? (f : Field τ ρ) : Option ρ :=
  f.attributes.findSome? fun | .reference model => some model | _ => none

/-- The name of the column: the one that is given, or the converted name of the field. -/
def columnName (convert : String → String) (f : Field τ ρ) : String :=
  (f.attributes.findSome? fun | .column name => some name | _ => none).getD (convert f.ident.name)

/-- The field as it is mapped from a place of the declaration. -/
def mapped (convert : String → String) (position : Nat) (f : Field τ ρ) : MappedField τ ρ :=
  { ident := f.ident, position, type := f.type, column := f.columnName convert
    key := if f.isGeneratedKey then some .autoIncrement
      else if f.isPrimaryKey then some .assigned else none
    reference := f.reference? }

variable (convert : String → String) (position : Nat) (f : Field τ ρ)

@[simp] theorem isSome_key_mapped : (f.mapped convert position).key.isSome = f.isKey := by
  rw [mapped, isKey]
  cases f.isGeneratedKey <;> cases f.isPrimaryKey <;> rfl

variable {f} in
/-- The settings of a field say what its attributes do. -/
theorem mapped_of_readField {s : FieldSettings ρ} (h : readField f.attributes = .ok s) :
    s.ignored = f.isIgnored ∧
      { ident := f.ident, position, type := f.type, column := s.column.getD (convert f.ident.name)
        key := s.key, reference := s.reference } = f.mapped convert position := by
  unfold readField at h
  split at h
  · cases h
    exact ⟨rfl, rfl⟩
  · cases h

end Field

/-! ### Fields that are not ignored -/

/-- The fields that become columns. -/
def keptFields (fields : List (Field τ ρ)) : List (Field τ ρ) :=
  fields.filter fun f => !f.isIgnored

def keyFields (fields : List (Field τ ρ)) : List (Field τ ρ) :=
  (keptFields fields).filter (·.isKey)

variable (convert : String → String) (position : Nat)

/-- The fields that become columns, each as it is mapped from its place. -/
def mappedFrom (fields : List (Field τ ρ)) : List (MappedField τ ρ) :=
  ((fields.zipIdx position).filter fun p => !p.1.isIgnored).map fun p => p.1.mapped convert p.2

theorem mappedFrom_cons (f : Field τ ρ) (fields : List (Field τ ρ)) :
    mappedFrom convert position (f :: fields) =
      if f.isIgnored then mappedFrom convert (position + 1) fields
      else f.mapped convert position :: mappedFrom convert (position + 1) fields := by
  rw [mappedFrom, List.zipIdx_cons, List.filter_cons]
  cases f.isIgnored <;> rfl

theorem readFields_eq {fields : List (Field τ ρ)}
    (hread : ∀ f ∈ fields, ∃ s, readField f.attributes = .ok s) :
    readFields convert position fields = .ok (mappedFrom convert position fields) := by
  induction fields generalizing position with
  | nil => rfl
  | cons f fields ih =>
    rw [List.forall_mem_cons] at hread
    obtain ⟨⟨s, hs⟩, hrest⟩ := hread
    obtain ⟨hignored, hmapped⟩ := Field.mapped_of_readField convert position hs
    rw [readFields, hs, ih _ hrest, mappedFrom_cons, ← hignored, ← hmapped]
    show (if s.ignored then Except.ok (mappedFrom convert (position + 1) fields)
      else Except.ok (_ :: mappedFrom convert (position + 1) fields)) = _
    cases s.ignored <;> rfl

variable (fields : List (Field τ ρ))

theorem keptFields_eq :
    keptFields fields =
      ((fields.zipIdx position).filter fun p => !p.1.isIgnored).map Prod.fst := by
  conv_lhs => rw [keptFields, ← List.zipIdx_map_fst position fields, List.filter_map]
  rfl

/-- What does not depend on their places is the same for the fields and for the mapped ones. -/
theorem map_mappedFrom {α : Type} {g : MappedField τ ρ → α} {g' : Field τ ρ → α}
    (h : ∀ place f, g (f.mapped convert place) = g' f) :
    (mappedFrom convert position fields).map g = (keptFields fields).map g' := by
  rw [keptFields_eq position, mappedFrom, List.map_map, List.map_map]
  exact List.map_congr_left fun p _ => h p.2 p.1

/-- The checks look at nothing but the attributes and the names of the fields. -/
theorem fieldsFault_mappedFrom :
    fieldsFault? (mappedFrom convert position fields) =
      if 1 < (keyFields fields).length then some .secondPrimaryKey
      else if (keyFields fields).any fun f => f.reference?.isSome then some .referenceAsKey
      else (firstRepeated [] ((keptFields fields).map (·.columnName convert))).map
        .repeatedColumn := by
  have hnames : (mappedFrom convert position fields).map (·.column) =
      (keptFields fields).map (·.columnName convert) :=
    map_mappedFrom convert position fields fun _ _ => rfl
  rw [fieldsFault?, hnames]
  simp only [mappedFrom, keyFields, keptFields_eq position, List.filter_map, List.length_map,
    List.any_map, Function.comp_def, Field.isSome_key_mapped]
  rfl

/-! ### Names that repeat -/

/-- The name that is reported is the first one that stands in the list again. -/
theorem firstRepeated_eq_some_iff {seen names : List String} {name : String} :
    firstRepeated seen names = some name ↔ ∃ before after, names = before ++ name :: after ∧
      before.Nodup ∧ (∀ other ∈ before, other ∉ seen) ∧ (name ∈ before ∨ name ∈ seen) := by
  induction names generalizing seen with
  | nil => simp [firstRepeated]
  | cons first names ih =>
    rw [firstRepeated]
    split
    · next hold =>
      constructor
      · rintro ⟨⟩
        exact ⟨[], names, rfl, .nil, List.forall_mem_nil _, .inr hold⟩
      · rintro ⟨before, after, heq, -, hnew, -⟩
        cases before with
        | nil => cases heq; rfl
        | cons other before => cases heq; exact absurd hold (hnew _ List.mem_cons_self)
    · next hnew =>
      rw [ih]
      constructor
      · rintro ⟨before, after, rfl, hnodup, hothers, hname⟩
        refine ⟨first :: before, after, rfl, List.nodup_cons.mpr ⟨fun hmem => ?_, hnodup⟩,
          List.forall_mem_cons.mpr ⟨hnew, fun other hother hmem => ?_⟩, ?_⟩
        · exact hothers first hmem List.mem_cons_self
        · exact hothers other hother (List.mem_cons_of_mem _ hmem)
        · rwa [List.mem_cons, or_left_comm, ← or_assoc, ← List.mem_cons] at hname
      · rintro ⟨before, after, heq, hnodup, hothers, hname⟩
        cases before with
        | nil =>
          cases heq
          exact absurd (hname.resolve_left List.not_mem_nil) hnew
        | cons other before =>
          cases heq
          obtain ⟨hfirst, hnodup⟩ := List.nodup_cons.mp hnodup
          refine ⟨before, after, rfl, hnodup, fun other hother hmem => ?_, ?_⟩
          · obtain rfl | hmem := List.mem_cons.mp hmem
            · exact hfirst hother
            · exact hothers other (List.mem_cons_of_mem _ hother) hmem
          · rwa [List.mem_cons, or_assoc, or_left_comm, ← List.mem_cons] at hname

/-- A field whose column has the name of an earlier one. The names before it are different. -/
def IsFirstRepeat (fields : List (Field τ ρ)) (f : Field τ ρ) : Prop :=
  ∃ before after, fields = before ++ f :: after ∧ (before.map (·.columnName convert)).Nodup ∧
    f.columnName convert ∈ before.map (·.columnName convert)

theorem firstRepeated_columnName_iff {name : String} :
    firstRepeated [] (fields.map (·.columnName convert)) = some name ↔
      ∃ f, IsFirstRepeat convert fields f ∧ f.columnName convert = name := by
  rw [firstRepeated_eq_some_iff]
  constructor
  · rintro ⟨before, after, hnames, hnodup, -, hname⟩
    obtain ⟨earlier, rest, rfl, rfl, hrest⟩ := List.map_eq_append_iff.mp hnames
    obtain ⟨f, later, rfl, rfl, rfl⟩ := List.map_eq_cons_iff.mp hrest
    exact ⟨f, ⟨earlier, later, rfl, hnodup, hname.resolve_right List.not_mem_nil⟩, rfl⟩
  · rintro ⟨f, ⟨before, after, rfl, hnodup, hname⟩, rfl⟩
    exact ⟨_, _, List.map_append, hnodup, fun _ _ => List.not_mem_nil, .inl hname⟩

/-! ### The checks -/

/-- The fault that is reported for fields: that of the first rule which they break. -/
inductive Reports (fields : List (Field τ ρ)) : Fault → Prop
  | secondPrimaryKey (hmany : 1 < (keyFields fields).length) : Reports fields .secondPrimaryKey
  | referenceAsKey (hone : (keyFields fields).length ≤ 1) {f : Field τ ρ}
      (hf : f ∈ keyFields fields) (href : f.reference?.isSome = true) :
      Reports fields .referenceAsKey
  | repeatedColumn (hone : (keyFields fields).length ≤ 1)
      (hstored : ∀ f ∈ keyFields fields, f.reference? = none) {f : Field τ ρ}
      (hf : IsFirstRepeat convert (keptFields fields) f) :
      Reports fields (.repeatedColumn (f.columnName convert))

theorem fieldsFault_eq_none_iff :
    fieldsFault? (mappedFrom convert position fields) = none ↔
      (keyFields fields).length ≤ 1 ∧ (∀ f ∈ keyFields fields, f.reference? = none) ∧
        ((keptFields fields).map (·.columnName convert)).Nodup := by
  rw [fieldsFault_mappedFrom]
  split
  · next hmany => exact iff_of_false nofun fun h => absurd h.1 (Nat.not_le.mpr hmany)
  · next hone =>
    split
    · next href =>
      obtain ⟨f, hf, href⟩ := List.any_eq_true.mp href
      exact iff_of_false nofun fun h => by simp [h.2.1 f hf] at href
    · next hstored =>
      have hstored : ∀ f ∈ keyFields fields, f.reference? = none := by simpa using hstored
      rw [Option.map_eq_none_iff, firstRepeated_eq_none_iff]
      exact ⟨fun h => ⟨Nat.le_of_not_lt hone, hstored, h.1⟩,
        fun h => ⟨h.2.2, fun _ _ => List.not_mem_nil⟩⟩

theorem fieldsFault_eq_some_iff {fault : Fault} :
    fieldsFault? (mappedFrom convert position fields) = some fault ↔
      Reports convert fields fault := by
  rw [fieldsFault_mappedFrom]
  split
  · next hmany =>
    constructor
    · rintro ⟨⟩
      exact .secondPrimaryKey hmany
    · intro h
      cases h with
      | secondPrimaryKey => rfl
      | referenceAsKey hone | repeatedColumn hone => exact absurd hmany (Nat.not_lt.mpr hone)
  · next hone =>
    have hone := Nat.le_of_not_lt hone
    split
    · next href =>
      obtain ⟨f, hf, href⟩ := List.any_eq_true.mp href
      constructor
      · rintro ⟨⟩
        exact .referenceAsKey hone hf href
      · intro h
        cases h with
        | secondPrimaryKey hmany => exact absurd hmany (Nat.not_lt.mpr hone)
        | referenceAsKey => rfl
        | repeatedColumn _ hstored => simp [hstored f hf] at href
    · next hstored =>
      rw [Option.map_eq_some_iff]
      constructor
      · rintro ⟨name, hname, rfl⟩
        obtain ⟨f, hf, rfl⟩ := (firstRepeated_columnName_iff convert _).mp hname
        exact .repeatedColumn hone (by simpa using hstored) hf
      · intro h
        cases h with
        | secondPrimaryKey hmany => exact absurd hmany (Nat.not_lt.mpr hone)
        | referenceAsKey _ hf href => exact absurd (List.any_eq_true.mpr ⟨_, hf, href⟩) hstored
        | repeatedColumn _ _ hf =>
          exact ⟨_, (firstRepeated_columnName_iff convert _).mpr ⟨_, hf, rfl⟩, rfl⟩

/-- The fields that are mapped are given back, unless one of the rules is broken. -/
theorem mapFields_eq {fields : List (Field τ ρ)}
    (hread : ∀ f ∈ fields, ∃ s, readField f.attributes = .ok s) :
    mapFields convert fields =
      match fieldsFault? (mappedFrom convert 0 fields) with
      | some fault => .error [fault]
      | none => .ok (mappedFrom convert 0 fields) := by
  rw [mapFields, readFields_eq convert 0 hread]
  rfl

/-- For all fields whose attributes can be read, and for every conversion of names. The fields that
are not ignored are mapped, in order and under their names, if and only if at most one of them is
marked as a key, no such key is a reference and all names are different. If not, a second key is
reported before a reference as the key, and both before the first name that repeats an earlier one.
-/
theorem mapFields_iff {fields : List (Field τ ρ)}
    (hread : ∀ f ∈ fields, ∃ s, readField f.attributes = .ok s) :
    (∀ mapped, mapFields convert fields = .ok mapped ↔ mapped = mappedFrom convert 0 fields ∧
        (keyFields fields).length ≤ 1 ∧ (∀ f ∈ keyFields fields, f.reference? = none) ∧
        ((keptFields fields).map (·.columnName convert)).Nodup) ∧
      (mappedFrom convert 0 fields).map (·.ident) = (keptFields fields).map (·.ident) ∧
      (mappedFrom convert 0 fields).map (·.column) =
        (keptFields fields).map (·.columnName convert) ∧
      ∀ faults, mapFields convert fields = .error faults ↔
        ∃ fault, faults = [fault] ∧ Reports convert fields fault := by
  refine ⟨fun mapped => ?_, map_mappedFrom convert 0 fields fun _ _ => rfl,
    map_mappedFrom convert 0 fields fun _ _ => rfl, fun faults => ?_⟩
  · rw [← fieldsFault_eq_none_iff convert 0 fields, mapFields_eq convert hread]
    cases fieldsFault? (mappedFrom convert 0 fields) <;> simp [eq_comm]
  · simp only [← fieldsFault_eq_some_iff convert 0 fields, mapFields_eq convert hread]
    cases fieldsFault? (mappedFrom convert 0 fields) <;> simp [eq_comm]

/-- Two fields whose names become the same, and one that is ignored although it is marked as a key.
-/
def guestFields (marks : List (FieldAttribute Nat)) : List (Field Unit Nat) :=
  [⟨⟨"userName", false⟩, (), [.primaryKey true]⟩,
    ⟨⟨"draft", false⟩, (), [.autoIncrement true, .ignored true]⟩,
    ⟨⟨"user_name", false⟩, (), marks⟩]

/-- They are only mapped if one of them is given another name. -/
theorem mapFields_guestFields :
    let convert := Text.CaseStyle.lowerSnake.apply
    (∀ marks ∈ [[], [.column "nickname"]], ∀ f ∈ guestFields marks,
      ∃ s, readField f.attributes = .ok s) ∧
    mapFields convert (guestFields []) = .error [.repeatedColumn "user_name"] ∧
    ∃ mapped, mapFields convert (guestFields [.column "nickname"]) = .ok mapped ∧
      mapped.map (·.ident) = [⟨"userName", false⟩, ⟨"user_name", false⟩] ∧
      mapped.map (·.column) = ["user_name", "nickname"] := by
  intro convert
  have hread : ∀ marks ∈ [[], [.column "nickname"]], ∀ f ∈ guestFields marks,
      ∃ s, readField f.attributes = .ok s := by
    simp only [guestFields, List.forall_mem_cons, List.not_mem_nil, false_implies, implies_true,
      and_true]
    exact ⟨⟨⟨_, rfl⟩, ⟨_, rfl⟩, _, rfl⟩, ⟨_, rfl⟩, ⟨_, rfl⟩, _, rfl⟩
  obtain ⟨-, -, -, herror⟩ := mapFields_iff convert (hread [] (by simp))
  obtain ⟨hok, hidents, hcolumns, -⟩ :=
    mapFields_iff convert (hread [.column "nickname"] (by simp))
  have hrepeat : IsFirstRepeat convert (keptFields (guestFields []))
      ⟨⟨"user_name", false⟩, (), []⟩ :=
    ⟨[⟨⟨"userName", false⟩, (), [.primaryKey true]⟩], [], rfl, by simp, by decide⟩
  refine ⟨hread, (herror _).mpr ⟨_, rfl, .repeatedColumn (by decide) (by decide) hrepeat⟩, _,
    (hok _).mpr ⟨rfl, by decide, by decide, by decide⟩, hidents, hcolumns⟩

end SqlCompose.Derive
