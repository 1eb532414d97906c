import Mathlib.Data.List.Nodup
import SqlCompose.Derive.Mapping
import SqlCompose.Proofs.Except
import SqlCompose.Proofs.Text.WordChars

/-! What is known of a declaration that has been mapped: its columns have different names, its
fields keep their places and their order, the primary key is a stored column, and if the
declaration is written in words, so are the names of the table and of the columns. -/

namespace SqlCompose.Derive

variable {τ ρ : Type}

/-- The fields of a declaration. Only the form with named fields has any. -/
def Declaration.fields (d : Declaration τ ρ) : List (Field τ ρ) :=
  match d.shape with
  | .named fields => fields
  | _ => []

/-! ### Fields -/

/-- The field at a place of a declaration, as it is mapped. -/
structure MappedField.Maps (convert : String → String) (f : Field τ ρ) (place : Nat)
    (mapped : MappedField τ ρ) : Prop where
  ident_eq : mapped.ident = f.ident
  position_eq : mapped.position = place
  type_eq : mapped.type = f.type
  settings : ∃ s, readField f.attributes = .ok s ∧ mapped.key = s.key ∧
    mapped.reference = s.reference ∧ mapped.column = s.column.getD (convert f.ident.name)

variable {convert : String → String} {fields : List (Field τ ρ)} {position : Nat}
  {mapped : List (MappedField τ ρ)}

/-- Each mapped field comes from one field of the declaration. -/
theorem maps_of_readFields (h : readFields convert position fields = .ok mapped) :
    ∀ f ∈ mapped, ∃ i g, fields[i]? = some g ∧ f.Maps convert g (position + i) := by
  induction fields generalizing position mapped with
  | nil =>
    cases h
    simp
  | cons g fields ih =>
    rw [readFields] at h
    obtain ⟨s, hs, h⟩ := bind_ok h
    obtain ⟨rest, hrest, h⟩ := bind_ok h
    have hlater : ∀ f ∈ rest, ∃ i g', (g :: fields)[i]? = some g' ∧
        f.Maps convert g' (position + i) := by
      intro f hf
      obtain ⟨i, g', hg', hmaps⟩ := ih hrest f hf
      exact ⟨i + 1, g', hg', Nat.add_right_comm position 1 i ▸ hmaps⟩
    split at h
    · cases h
      exact hlater
    · cases h
      rw [List.forall_mem_cons]
      exact ⟨⟨0, g, rfl, rfl, rfl, rfl, s, hs, rfl, rfl, rfl⟩, hlater⟩

theorem pairwise_readFields (h : readFields convert position fields = .ok mapped) :
    mapped.Pairwise fun f g => f.position < g.position := by
  induction fields generalizing position mapped with
  | nil =>
    cases h
    exact .nil
  | cons g fields ih =>
    rw [readFields] at h
    obtain ⟨s, hs, h⟩ := bind_ok h
    obtain ⟨rest, hrest, h⟩ := bind_ok h
    split at h
    · cases h
      exact ih hrest
    · cases h
      refine List.pairwise_cons.mpr ⟨fun f hf => ?_, ih hrest⟩
      obtain ⟨i, g', -, hmaps⟩ := maps_of_readFields hrest f hf
      rw [hmaps.position_eq]
      show position < position + 1 + i
      omega

/-! ### Checks -/

theorem firstRepeated_eq_none_iff {before names : List String} :
    firstRepeated before names = none ↔ names.Nodup ∧ ∀ name ∈ names, name ∉ before := by
  induction names generalizing before with
  | nil => simp [firstRepeated]
  | cons name names ih =>
    rw [firstRepeated]
    split
    · next hold => exact iff_of_false nofun fun h => h.2 name List.mem_cons_self hold
    · next hnew =>
      rw [ih, List.nodup_cons, List.forall_mem_cons]
      constructor
      · rintro ⟨hnodup, hothers⟩
        exact ⟨⟨fun hmem => hothers name hmem List.mem_cons_self, hnodup⟩, hnew,
          fun other hother hbefore => hothers other hother (List.mem_cons_of_mem _ hbefore)⟩
      · rintro ⟨⟨hname, hnodup⟩, -, hothers⟩
        refine ⟨hnodup, fun other hother hbefore => ?_⟩
        obtain rfl | hbefore := List.mem_cons.mp hbefore
        · exact hname hother
        · exact hothers other hother hbefore

/-- Fields that pass the checks. -/
structure IsSound (mapped : List (MappedField τ ρ)) : Prop where
  nodup : (mapped.map (·.column)).Nodup
  key_stored : ∀ f ∈ mapped, f.key.isSome → f.reference = none
  keys : (mapped.filter fun f => f.key.isSome).length ≤ 1

theorem isSound_of_fieldsFault (h : fieldsFault? mapped = none) : IsSound mapped := by
  simp only [fieldsFault?] at h
  split at h
  · cases h
  · next hone =>
    split at h
    · cases h
    · next hstored =>
      refine ⟨(firstRepeated_eq_none_iff.mp (Option.map_eq_none_iff.mp h)).1, fun f hf hkey => ?_,
        Nat.le_of_not_lt hone⟩
      simpa [hkey] using fun href => hstored
        (List.any_eq_true.mpr ⟨f, List.mem_filter.mpr ⟨hf, hkey⟩, href⟩)

/-! ### Declarations -/

theorem namedFields_ok {t : Target} {d : Declaration τ ρ} (h : namedFields t d = .ok fields) :
    fields = d.fields := by
  unfold namedFields at h
  unfold Declaration.fields
  split at h
  · cases h
  · split at h <;> cases h
    next hshape => rw [hshape]

/-- How a mapping comes about. -/
structure Mapping.IsOf (m : Mapping τ ρ) (d : Declaration τ ρ) : Prop where
  ident_eq : m.ident = d.ident
  sound : IsSound m.fields
  read : ∃ settings, readType d.attributes = .ok settings ∧
    m.table = settings.table.getD d.ident.name ∧
    readFields settings.caseStyle.apply 0 d.fields = .ok m.fields

theorem Declaration.map_ok {t : Target} {d : Declaration τ ρ} {m : Mapping τ ρ}
    (h : d.map t = .ok m) : m.IsOf d := by
  obtain ⟨settings, hsettings, h⟩ := bind_ok h
  obtain ⟨fields, hfields, h⟩ := bind_ok h
  obtain ⟨mapped, hmapped, h⟩ := bind_ok h
  cases h
  rw [namedFields_ok hfields] at hmapped
  obtain ⟨mapped', hread, hmapped⟩ := bind_ok hmapped
  cases hfault : fieldsFault? mapped' with
  | some fault =>
    rw [hfault] at hmapped
    cases hmapped
  | none =>
    rw [hfault] at hmapped
    cases hmapped
    exact ⟨rfl, isSound_of_fieldsFault hfault, settings, hsettings, rfl, hread⟩

namespace Mapping.IsOf

variable {m : Mapping τ ρ} {d : Declaration τ ρ} (h : m.IsOf d)

include h

theorem position_lt {f : MappedField τ ρ} (hf : f ∈ m.fields) :
    f.position < d.fields.length := by
  obtain ⟨settings, -, -, hread⟩ := h.read
  obtain ⟨i, g, hg, hmaps⟩ := maps_of_readFields hread f hf
  rw [hmaps.position_eq, Nat.zero_add]
  exact (List.getElem?_eq_some_iff.mp hg).1

theorem pairwise_position : m.fields.Pairwise fun f g => f.position < g.position := by
  obtain ⟨settings, -, -, hread⟩ := h.read
  exact pairwise_readFields hread

theorem nodup_columns : (m.storedFields.map (·.column)).Nodup :=
  (List.filter_sublist.map _).nodup h.sound.nodup

theorem keyField_stored {f : MappedField τ ρ} (hf : m.keyField? = some f) :
    f ∈ m.storedFields := by
  have hmem : f ∈ m.fields := List.mem_of_find?_eq_some hf
  have hkey : f.key.isSome = true := (List.find?_eq_some_iff_append.mp hf).1
  rw [storedFields, List.mem_filter, h.sound.key_stored f hmem hkey]
  exact ⟨hmem, rfl⟩

end Mapping.IsOf

/-! ### Names -/

theorem identifierFault_of_nameFaults {name : String} (h : nameFaults name = []) :
    Text.identifierFault? name = none := by
  rwa [nameFaults, Option.toList_eq_nil_iff, Option.map_eq_none_iff] at h

/-- Settings that could be read name the table by a word, and ask for a style that keeps words. -/
theorem readType_words {attributes : List TypeAttribute} {settings : TypeSettings}
    (h : readType attributes = .ok settings) :
    (∀ name, settings.table = some name → Text.IsWord name) ∧
      settings.caseStyle.keepsWords = true := by
  unfold readType at h
  split at h
  · next hfaults =>
    rw [List.flatMap_eq_nil_iff] at hfaults
    cases h
    refine ⟨fun name hname => ?_, ?_⟩
    · obtain ⟨a, ha, hname⟩ := List.exists_of_findSome?_eq_some hname
      cases a <;> cases hname
      exact Text.isWord_of_identifierFault (identifierFault_of_nameFaults (hfaults _ ha))
    · dsimp only
      generalize hstyle : attributes.findSome? _ = style
      cases style with
      | none => rfl
      | some style =>
        obtain ⟨a, ha, hname⟩ := List.exists_of_findSome?_eq_some hstyle
        have hfault := hfaults a ha
        cases a with
        | table name => cases hname
        | aliasName name => cases hname
        | caseStyle name =>
          rw [TypeAttribute.faults] at hfault
          split at hfault
          · next hnone =>
            exact Text.keepsWords_ofName hname (identifierFault_of_nameFaults hnone)
          · next hsome => exact absurd hfault hsome
  · cases h

/-- A column that is named by an attribute has a name that may be declared. -/
theorem readField_name {attributes : List (FieldAttribute ρ)} {s : FieldSettings ρ}
    (h : readField attributes = .ok s) :
    ∀ name, s.column = some name → Text.identifierFault? name = none := by
  unfold readField at h
  split at h
  · next hfaults =>
    rw [List.flatMap_eq_nil_iff] at hfaults
    cases h
    intro name hname
    obtain ⟨a, ha, hname⟩ := List.exists_of_findSome?_eq_some hname
    cases a <;> cases hname
    exact identifierFault_of_nameFaults (hfaults _ ha)
  · cases h

/-- The declaration is written in words, as the source text of any declaration is. -/
structure Declaration.IsWorded (d : Declaration τ ρ) : Prop where
  ident : Text.IsWord d.ident.name
  fields : ∀ f ∈ d.fields, Text.IsWord f.ident.name

namespace Mapping.IsOf

variable {m : Mapping τ ρ} {d : Declaration τ ρ} (h : m.IsOf d) (hd : d.IsWorded)

include h hd

theorem isWord_table : Text.IsWord m.table := by
  obtain ⟨settings, hsettings, htable, -⟩ := h.read
  rw [htable]
  cases hname : settings.table with
  | none => exact hd.ident
  | some name => exact (readType_words hsettings).1 name hname

theorem isWord_column {f : MappedField τ ρ} (hf : f ∈ m.fields) : Text.IsWord f.column := by
  obtain ⟨settings, hsettings, -, hread⟩ := h.read
  obtain ⟨i, g, hg, hmaps⟩ := maps_of_readFields hread f hf
  obtain ⟨s, hs, -, -, hcolumn⟩ := hmaps.settings
  rw [hcolumn]
  cases hname : s.column with
  | none =>
    exact Text.isWord_apply (readType_words hsettings).2 (hd.fields g (List.mem_of_getElem? hg))
  | some name => exact Text.isWord_of_identifierFault (readField_name hs name hname)

end Mapping.IsOf

end SqlCompose.Derive
