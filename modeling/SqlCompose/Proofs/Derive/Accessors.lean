import SqlCompose.Proofs.Script.Properties

/-! Accessors of a family of declarations. Their paths are recorded field by field, and resolved by
looking the fields up in the descriptions of the tables. Every chain of references that ends in a
stored field is found there, under the names of the columns that it goes through. -/

namespace SqlCompose.Derive

variable {τ ρ : Type}

/-! ### Links -/

/-- What an accessor goes through: a field and its column, with the declaration that it leads to
if it is a reference. -/
structure Link (ρ : Type) where
  property : String
  column : String
  reference : Option ρ
deriving DecidableEq

/-- The link of a field, according to its attributes. An ignored field has none. -/
def Field.link? (convert : String → String) (f : Field τ ρ) : Option (Link ρ) :=
  match readField f.attributes with
  | .ok s =>
    if s.ignored then none
    else some ⟨f.ident.name, s.column.getD (convert f.ident.name), s.reference⟩
  | .error _ => none

/-- The links of a declaration whose attributes can be read. -/
def Declaration.links (d : Declaration τ ρ) : List (Link ρ) :=
  match readType d.attributes with
  | .ok t => d.fields.filterMap (·.link? t.caseStyle.apply)
  | .error _ => []

def MappedField.link (f : MappedField τ ρ) : Link ρ :=
  ⟨f.ident.name, f.column, f.reference⟩

theorem links_readFields {convert : String → String} {position : Nat} {fields : List (Field τ ρ)}
    {mapped : List (MappedField τ ρ)} (h : readFields convert position fields = .ok mapped) :
    mapped.map MappedField.link = fields.filterMap (·.link? convert) := by
  induction fields generalizing position mapped with
  | nil =>
    cases h
    rfl
  | cons f fields ih =>
    rw [readFields] at h
    obtain ⟨s, hs, h⟩ := bind_ok h
    obtain ⟨rest, hrest, h⟩ := bind_ok h
    rw [List.filterMap_cons, Field.link?, hs, ← ih hrest]
    dsimp only
    split at h
    · next hignored =>
      cases h
      rw [if_pos hignored]
    · next hmapped =>
      cases h
      rw [if_neg hmapped]
      rfl

theorem Mapping.IsOf.links_eq {m : Mapping τ ρ} {d : Declaration τ ρ} (h : m.IsOf d) :
    m.fields.map MappedField.link = d.links := by
  obtain ⟨settings, hsettings, -, hread⟩ := h.read
  rw [links_readFields hread, Declaration.links, hsettings]

/-- The fields of a declaration have different names, raw or not. -/
def Declaration.HasDistinctFields (d : Declaration τ ρ) : Prop :=
  (d.fields.map (·.ident.name)).Nodup

instance (d : Declaration τ ρ) : Decidable d.HasDistinctFields :=
  inferInstanceAs (Decidable (List.Nodup _))

theorem nodup_filterMap_link {convert : String → String} {fields : List (Field τ ρ)}
    (h : (fields.map (·.ident.name)).Nodup) :
    ((fields.filterMap (·.link? convert)).map Link.property).Nodup := by
  refine List.Sublist.nodup ?_ h
  induction fields with
  | nil => exact .refl _
  | cons f fields ih =>
    have ih := ih (List.nodup_cons.mp h).2
    rw [List.filterMap_cons]
    cases hlink : f.link? convert with
    | none => exact ih.cons _
    | some l =>
      have hproperty : l.property = f.ident.name := by
        unfold Field.link? at hlink
        split at hlink
        · split at hlink
          · cases hlink
          · cases hlink
            rfl
        · cases hlink
      rw [List.map_cons, List.map_cons, hproperty]
      exact ih.cons_cons _

theorem Declaration.HasDistinctFields.nodup_properties {d : Declaration τ ρ}
    (h : d.HasDistinctFields) : (d.links.map Link.property).Nodup := by
  unfold links
  split
  · exact nodup_filterMap_link h
  · exact .nil

/-- A field that is found by its name. -/
theorem find?_link {links : List (Link ρ)} (h : (links.map Link.property).Nodup) {l : Link ρ}
    (hl : l ∈ links) : links.find? (fun l' => l'.property == l.property) = some l := by
  induction links with
  | nil => cases hl
  | cons l' links ih =>
    rw [List.map_cons, List.nodup_cons] at h
    rcases List.mem_cons.mp hl with rfl | hl
    · exact List.find?_cons_of_pos (beq_self_eq_true _)
    · have hne : l'.property ≠ l.property :=
        fun heq => h.1 (heq ▸ List.mem_map_of_mem hl)
      rw [List.find?_cons_of_neg (by simpa using hne)]
      exact ih h.2 hl

/-- The column that describes a link. -/
theorem Mapping.IsOf.property_eq {m : Mapping τ ρ} {d : Declaration τ ρ} (h : m.IsOf d)
    (hd : d.HasDistinctFields) (kindOf : τ → Kind) (placeOf : ρ → Nat) {l : Link ρ}
    (hl : l ∈ d.links) :
    ∃ c, (m.model kindOf placeOf).property? l.property = some c ∧ c.name = l.column ∧
      c.reference = l.reference.map placeOf := by
  have hfind := find?_link hd.nodup_properties hl
  rw [← h.links_eq, List.find?_map, Option.map_eq_some_iff] at hfind
  obtain ⟨f, hf, rfl⟩ := hfind
  have hcolumn : (m.model kindOf placeOf).property? f.link.property = (m.fields.find? fun g =>
      g.ident.name == f.link.property).map _ := List.find?_map
  exact ⟨_, hcolumn.trans (Option.map_eq_some_iff.mpr ⟨f, hf, rfl⟩), rfl, rfl⟩

/-! ### Chains -/

/-- A chain of accessors: a stored field, or a reference and a chain in the declaration that it
leads to. It has a path, and the names of the columns along it. -/
inductive Accessor (family : List FamilyMember) :
    FamilyMember → PropertyPath → List String → Prop
  | field {d : FamilyMember} {l : Link Nat} (hl : l ∈ d.links) (hstored : l.reference = none) :
      Accessor family d [l.property] [l.column]
  | reference {d target : FamilyMember} {l : Link Nat} {place : Nat} {path : PropertyPath}
      {names : List String} (hl : l ∈ d.links) (href : l.reference = some place)
      (htarget : family[place]? = some target) (hrest : Accessor family target path names) :
      Accessor family d (l.property :: path) (l.column :: names)

theorem model?_familyModels (mappings : List MemberMapping) (place : Nat) :
    Schema.model? ⟨familyModels id mappings⟩ place =
      (mappings[place]?).map (Mapping.model kindOfField id) :=
  List.getElem?_map

/-- The accessors that are generated for a member at the end of a path, each recorded with the whole
path that leads to it. References are followed at most `depth` members deep. -/
def accessorsAt (mappings : List MemberMapping) :
    (depth : Nat) → PropertyPath → MemberMapping → List PropertyPath
  | 0, _, _ => []
  | depth + 1, path, m =>
    m.fields.flatMap fun f =>
      match f.reference with
      | none => [path ++ [f.ident.name]]
      | some place =>
        match mappings[place]? with
        | some target => accessorsAt mappings depth (path ++ [f.ident.name]) target
        | none => []

/-- The accessors that are read off the descriptions of the tables. -/
theorem accessorPaths_model (mappings : List MemberMapping) (depth : Nat) (m : MemberMapping) :
    accessorPaths ⟨familyModels id mappings⟩ (depth + 1) (m.model kindOfField id) =
      m.fields.flatMap fun f =>
        match f.reference with
        | none => [[f.ident.name]]
        | some place =>
          match mappings[place]? with
          | some target =>
            (accessorPaths ⟨familyModels id mappings⟩ depth (target.model kindOfField id)).map
              (f.ident.name :: ·)
          | none => [] := by
  rw [accessorPaths, Mapping.model, List.flatMap_map]
  congr 1
  funext f
  dsimp only
  cases f.reference with
  | none => rfl
  | some place =>
    simp only [Option.map_some, id_eq, model?_familyModels]
    cases mappings[place]? <;> rfl

theorem accessorsAt_eq (mappings : List MemberMapping) (depth : Nat) (path : PropertyPath)
    (m : MemberMapping) :
    accessorsAt mappings depth path m =
      (accessorPaths ⟨familyModels id mappings⟩ depth (m.model kindOfField id)).map (path ++ ·) := by
  induction depth generalizing path m with
  | zero => rfl
  | succ depth ih =>
    rw [accessorsAt, accessorPaths_model, List.map_flatMap]
    congr 1
    funext f
    cases f.reference with
    | none => rfl
    | some place =>
      dsimp only
      cases mappings[place]? with
      | none => rfl
      | some target =>
        dsimp only
        rw [ih, List.map_map]
        exact List.map_congr_left fun rest _ => List.append_assoc path _ rest

section

variable {family : List FamilyMember} {mappings : List MemberMapping}
  (hfamily : mapFamily family = .ok mappings)

include hfamily

/-- The mapping of a member of the family. -/
theorem mapFamily_getElem {place : Nat} {d : FamilyMember} (hd : family[place]? = some d) :
    ∃ m, mappings[place]? = some m ∧ m.IsOf d := by
  obtain ⟨m, hm, hmap⟩ := mapM_getElem hfamily hd
  exact ⟨m, hm, Declaration.map_ok hmap⟩

theorem exists_member {place : Nat} {m : MemberMapping} (hm : mappings[place]? = some m) :
    ∃ d, family[place]? = some d ∧ m.IsOf d := by
  have hlt : place < family.length := by
    rw [← length_mapM_ok hfamily]
    exact (List.getElem?_eq_some_iff.mp hm).1
  obtain ⟨m', hm', hof⟩ := mapFamily_getElem hfamily (List.getElem?_eq_getElem hlt)
  rw [hm] at hm'
  cases hm'
  exact ⟨_, List.getElem?_eq_getElem hlt, hof⟩

/-- The accessors below a member are its chains, as far as references are followed. -/
theorem mem_accessorPaths_iff {d : FamilyMember} {m : MemberMapping} (hm : m.IsOf d) (depth : Nat)
    (path : PropertyPath) :
    path ∈ accessorPaths ⟨familyModels id mappings⟩ depth (m.model kindOfField id) ↔
      path.length ≤ depth ∧ ∃ names, Accessor family d path names := by
  induction depth generalizing d m path with
  | zero =>
    constructor
    · nofun
    · rintro ⟨hlength, names, h⟩
      cases h <;> simp at hlength
  | succ depth ih =>
    rw [accessorPaths_model, List.mem_flatMap]
    constructor
    · rintro ⟨f, hf, hpath⟩
      have hl : f.link ∈ d.links := hm.links_eq ▸ List.mem_map_of_mem hf
      split at hpath
      · next hstored =>
        rw [List.mem_singleton] at hpath
        subst hpath
        exact ⟨Nat.le_add_left 1 depth, _, .field hl hstored⟩
      · next place href =>
        split at hpath
        · next target hm' =>
          obtain ⟨rest, hrest, rfl⟩ := List.mem_map.mp hpath
          obtain ⟨d', hd', hof⟩ := exists_member hfamily hm'
          obtain ⟨hlength, names, h⟩ := (ih hof rest).mp hrest
          exact ⟨Nat.succ_le_succ hlength, _, .reference hl href hd' h⟩
        · cases hpath
    · rintro ⟨hlength, names, h⟩
      cases h with
      | field hl hstored =>
        rw [← hm.links_eq] at hl
        obtain ⟨f, hf, rfl⟩ := List.mem_map.mp hl
        refine ⟨f, hf, ?_⟩
        rw [show f.reference = none from hstored]
        exact List.mem_singleton_self _
      | reference hl href htarget hrest =>
        rw [← hm.links_eq] at hl
        obtain ⟨f, hf, rfl⟩ := List.mem_map.mp hl
        obtain ⟨m', hm', hof⟩ := mapFamily_getElem hfamily htarget
        refine ⟨f, hf, ?_⟩
        simp only [show f.reference = _ from href, hm']
        exact List.mem_map_of_mem ((ih hof _).mpr ⟨Nat.le_of_succ_le_succ hlength, _, hrest⟩)

variable (hdistinct : ∀ d ∈ family, d.HasDistinctFields)

include hdistinct

theorem namesAlong_of_accessor {d : FamilyMember} {path : PropertyPath} {names : List String}
    (h : Accessor family d path names) (hd : d ∈ family) {m : MemberMapping} (hm : m.IsOf d) :
    Schema.namesAlong ⟨familyModels id mappings⟩ (m.model kindOfField id) path = some names := by
  induction h generalizing m with
  | field hl hstored =>
    obtain ⟨c, hc, hname, -⟩ := hm.property_eq (hdistinct _ hd) kindOfField id hl
    rw [Schema.namesAlong, hc, ← hname]
    rfl
  | @reference d target l place path names hl href htarget hrest ih =>
    obtain ⟨c, hc, hname, hreference⟩ := hm.property_eq (hdistinct _ hd) kindOfField id hl
    obtain ⟨m', hm', hof⟩ := mapFamily_getElem hfamily htarget
    have hmodel : Schema.model? ⟨familyModels id mappings⟩ place =
        some (m'.model kindOfField id) := by
      rw [model?_familyModels, hm']
      rfl
    have hnext := ih (List.mem_of_getElem? htarget) hof
    rw [href] at hreference
    cases path with
    | nil => cases hnext
    | cons next rest =>
      rw [Schema.namesAlong, hc, ← hname]
      simp only [hreference, Option.map_some, id_eq, Option.bind_eq_bind, Option.bind_some, hmodel,
        hnext]
      rfl

end

/-! ### Use -/

/-- The accessors of the members of a family, each on the model of its member. -/
def IsAccessor (family : List FamilyMember) (mappings : List MemberMapping) (model : Model)
    (path : PropertyPath) : Prop :=
  ∃ (place : Nat) (d : FamilyMember) (m : MemberMapping) (names : List String),
    family[place]? = some d ∧ mappings[place]? = some m ∧ model = m.model kindOfField id ∧
      Accessor family d path names

/-- Nothing that a record is converted to has to be found by a path. -/
theorem finds_record (m : MemberMapping) (r : Record) : Finds (m.values r) ∧ Finds (m.key r) := by
  refine ⟨Finds.mapM fun f _ => Scalar.finds_toValue _, ?_⟩
  rw [Mapping.key]
  split
  · exact Scalar.finds_toValue _
  · exact .error id

/-- The accessors that are generated for the members of a family are its chains of references that
end in a stored field. Each is resolved, to the names of the columns along it, and no program that
uses accessors on the models that they belong to meets an unknown property. -/
theorem accessors_resolve {family : List FamilyMember} {mappings : List MemberMapping}
    (hfamily : mapFamily family = .ok mappings)
    (hdistinct : ∀ d ∈ family, d.HasDistinctFields) :
    let schema : Schema := ⟨familyModels id mappings⟩
    (∀ (place : Nat) d m, family[place]? = some d → mappings[place]? = some m →
      (∀ depth path, path ∈ accessorsAt mappings depth [] m ↔
        path.length ≤ depth ∧ ∃ names, Accessor family d path names) ∧
      ∀ path names, Accessor family d path names →
        schema.resolve (m.model kindOfField id) path = .ok ("_".intercalate names)) ∧
    ∀ (counters : Counters) (P : Program), P.Suits (IsAccessor family mappings) →
      ∀ e ∈ P.errors schema counters, ¬ e.IsUnknownProperty := by
  intro schema
  have hresolve {place : Nat} {d : FamilyMember} {m : MemberMapping} {path : PropertyPath}
      {names : List String} (hd : family[place]? = some d) (hm : mappings[place]? = some m)
      (h : Accessor family d path names) :
      schema.resolve (m.model kindOfField id) path = .ok ("_".intercalate names) := by
    obtain ⟨m', hm', hof⟩ := mapFamily_getElem hfamily hd
    rw [hm] at hm'
    cases hm'
    have hnames := namesAlong_of_accessor hfamily hdistinct h (List.mem_of_getElem? hd) hof
    rw [Schema.resolve, hnames]
  refine ⟨fun place d m hd hm => ⟨fun depth path => ?_, fun path names h => hresolve hd hm h⟩,
    fun counters P h => Program.knowsAll_errors ?_ counters h⟩
  · obtain ⟨m', hm', hof⟩ := mapFamily_getElem hfamily hd
    rw [hm] at hm'
    cases hm'
    rw [accessorsAt_eq, ← mem_accessorPaths_iff hfamily hof]
    simp
  · rintro model path ⟨place, d, m, names, hd, hm, rfl, h⟩
    exact ⟨_, hresolve hd hm h⟩

/-- Three declarations with two references in a row, a raw name, an ignored field, a renamed one
and a case style. -/
def companies : List FamilyMember :=
  [{ ident := ⟨"Employee", false⟩
     shape := .named [⟨⟨"cache", false⟩, none, [.ignored true]⟩,
       ⟨⟨"type", true⟩, none, [.reference 1]⟩, ⟨⟨"name", false⟩, some .text, []⟩] },
   { ident := ⟨"Department", false⟩
     shape := .named [⟨⟨"city", false⟩, none, [.reference 2, .column "town"]⟩] },
   { ident := ⟨"City", false⟩, attributes := [.caseStyle "UPPER_SNAKE_CASE"]
     shape := .named [⟨⟨"zipCode", false⟩, some .text, []⟩] }]

def companyMappings : List MemberMapping :=
  (mapFamily companies).toOption.getD []

/-- An employee's accessors, a query that uses them, and the update of an employee's row. -/
theorem accessors_resolve_of_companies :
    let employee := companyMappings[0]
    let schema : Schema := ⟨familyModels id companyMappings⟩
    let model := employee.model kindOfField id
    let zipCode : ColumnArg := .given (.field ["type", "city", "zipCode"])
    let query : Program := .query { model } <|
      .scoped false (.filter (.call false .done (.compare .equal zipCode (.given (.scalar
        (.text "1010")))) .done)) <|
      .scoped false (.call .done (.orderBy zipCode .ascending)) .done
    let update : Program := .updateRecord (recordType companyMappings employee) [.absent]
    mapFamily companies = .ok companyMappings ∧
    accessorsAt companyMappings 3 [] employee = [["type", "city", "zipCode"], ["name"]] ∧
    schema.resolve model ["type", "city", "zipCode"] = .ok "type_town_ZIP_CODE" ∧
    schema.resolve model ["cache"] = .error (.unknownProperty "Employee" "cache") ∧
    ∀ P ∈ [query, update], ∀ e ∈ P.errors schema ⟨[]⟩, ¬ e.IsUnknownProperty := by
  intro employee schema model zipCode query update
  have hdistinct : ∀ d ∈ companies, d.HasDistinctFields := by decide
  obtain ⟨hmembers, hprograms⟩ :=
    accessors_resolve (rfl : mapFamily companies = .ok companyMappings) hdistinct
  have hchain : Accessor companies companies[0] ["type", "city", "zipCode"]
      ["type", "town", "ZIP_CODE"] :=
    .reference (l := ⟨"type", "type", some 1⟩) (by decide) rfl rfl <|
    .reference (l := ⟨"city", "town", some 2⟩) (by decide) rfl rfl <|
    .field (l := ⟨"zipCode", "ZIP_CODE", none⟩) (by decide) rfl
  have haccessor : IsAccessor companies companyMappings model ["type", "city", "zipCode"] :=
    ⟨0, companies[0], employee, _, rfl, rfl, rfl, hchain⟩
  obtain ⟨-, hresolve⟩ := hmembers 0 companies[0] employee rfl rfl
  refine ⟨rfl, by decide, hresolve _ _ hchain, by decide, ?_⟩
  rw [List.forall_mem_cons, List.forall_mem_singleton]
  refine ⟨hprograms _ query ?_, hprograms _ update (finds_record _ _)⟩
  exact ⟨⟨trivial, ⟨haccessor, trivial⟩, trivial⟩, ⟨trivial, haccessor⟩, trivial⟩

end SqlCompose.Derive
