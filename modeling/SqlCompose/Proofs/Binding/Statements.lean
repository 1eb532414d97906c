import SqlCompose.Proofs.Binding.Scripts
import SqlCompose.Proofs.Insertion.Chunks

/-! Single fragments and the statements that change rows, under two bindings. -/

namespace SqlCompose

namespace Likeness

variable {K : Likeness}

/-! ### Composed fragments -/

section

variable {fs fs' : List Fragment} (hfs : List.Forall₂ K.alike fs fs')

include hfs

theorem changeFragment {c c' : FragmentCall} (h : K.FragmentCalls c c') {f f' : Fragment}
    (hf : K.alike f f') :
    Outcomes K.alike (c.change (b := K.left) fs f) (c'.change (b := K.right) fs' f') := by
  cases h with
  | replace hg => exact .ok (K.supplied hg)
  | appendText hs => exact .ok (appendText hf hs)
  | append hg => exact .ok (K.append hf (fragmentArg hfs hg))
  | parenthesize => exact .ok (parenthesized hf)
  | join hl hs =>
    exact .ok (join hs (List.rel_map (fun _ _ hg => fragmentArg hfs hg) hl))
  | wrap hw => exact (wrapperArg hw).bind fun _ _ hw => .ok (wrap hw hf)
  | save | isEmpty | text | inspection | equals => exact .ok hf

omit hfs in
theorem outputFragment {c c' : FragmentCall} (h : K.FragmentCalls c c') (f f' : Fragment) :
    Option.Rel K.Reports (c.output (b := K.left) fs f) (c'.output (b := K.right) fs' f') := by
  cases h with
  | isEmpty | equals => exact .some (.flag _ _)
  | text | inspection => exact .some (.text _ _)
  | _ => exact .none

theorem performFragmentCall {c c' : FragmentCall} (h : K.FragmentCalls c c') {f f' : Fragment}
    (hf : K.alike f f') {s s' : Session} (hs : K.Sessions s s') :
    K.Steps K.alike (c.perform (b := K.left) fs f s) (c'.perform (b := K.right) fs' f' s') := by
  have hcall : K.Steps K.alike
      (.ofCall f s ((c.change (b := K.left) fs f).map fun g => (g, c.output (b := K.left) fs g)))
      (.ofCall f' s' ((c'.change (b := K.right) fs' f').map fun g =>
        (g, c'.output (b := K.right) fs' g))) :=
    .ofCall hf hs ((changeFragment hfs h hf).map fun g g' hg => ⟨hg, outputFragment h g g'⟩)
  cases h with
  | save name => exact ⟨.ok .none, hf, hs.save name hf⟩
  | _ => exact hcall

end

variable {schema : Schema}

theorem runFragmentSteps (hS : K.PlainSchema schema) {l l' : List FragmentStep}
    (h : List.Forall₂ K.FragmentSteps l l') (number : Nat) {f f' : Fragment} (hf : K.alike f f')
    {s s' : Session} (hs : K.Sessions s s') :
    K.Runs K.alike (Fragment.run (b := K.left) schema number l f s)
      (Fragment.run (b := K.right) schema number l' f' s') := by
  induction h generalizing number f f' s s' with
  | nil => exact ⟨.ok trivial, hf, hs⟩
  | cons hstep _ ih =>
    simp only [Fragment.run]
    refine Steps.andThen ?_ _ (fun _ _ hg => .fragment hg) true
      fun _ _ _ _ hg hs => ih (number + 1) hg hs
    exact (runPreparation hS hstep.before .nil hs).step hf fun _ _ _ _ hl hs =>
      performFragmentCall hl hstep.call hf hs

/-! ### Updates -/

variable (K) in
structure Updates (u u' : RowUpdate) : Prop where
  assignments : List.Forall₂ K.alike u.assignments u'.assignments
  filter : K.Predicates u.filter u'.filter

theorem unqualified {s : Source} (hs : K.PlainSource s) {c d : ColumnRef} (h : K.Columns c d) :
    Outcomes K.alike (s.unqualified c) (s.unqualified d) := by
  cases h with
  | field path =>
    refine (columnName hs path).map fun name name' h => ?_
    obtain ⟨rfl, hname⟩ := h
    exact K.verbatim hname
  | raw h => exact .ok (K.verbatim h)
  | fragment h => exact .ok h

theorem plain_primaryKey {m : Model} (hm : K.PlainModel m) :
    Outcomes (fun c c' => c' = c ∧ K.plain c.name) m.requirePrimaryKey m.requirePrimaryKey := by
  refine .same fun c hc => ⟨rfl, hm.columns c ?_⟩
  unfold Model.requirePrimaryKey at hc
  cases hkey : m.primaryKey? with
  | none => rw [hkey] at hc; cases hc
  | some column =>
    rw [hkey] at hc
    cases hc
    exact List.mem_of_find?_eq_some hkey

/-- The table of an UPDATE or a DELETE is its own alias. -/
theorem onTable (hS : K.PlainSchema schema) {model : Model} (hm : K.PlainModel model) :
    K.PlainSource { schema, model, aliasName := model.table } :=
  ⟨hm.table, hm, hS⟩

/-- The WHERE clause, which is left out for an empty condition. -/
theorem whereClause {p p' : Predicate} (h : K.Predicates p p') :
    K.alike (if p.isEmpty then .empty else .verbatim " WHERE " ++ p.compile)
      (if p'.isEmpty then .empty else .verbatim " WHERE " ++ p'.compile) := by
  have hempty : p'.isEmpty = p.isEmpty := h.isEmpty_eq
  rw [hempty]
  split
  · exact empty
  · exact K.append (fixed (by decide)) h.body

namespace Updates

variable {u u' : RowUpdate}

theorem ofModel (hS : K.PlainSchema schema) {model : Model} (hm : K.PlainModel model) :
    K.Updates (.ofModel schema model) (.ofModel schema model) :=
  ⟨.nil, .fresh (onTable hS hm)⟩

theorem set (h : K.Updates u u') {c c' : ColumnRef} (hc : K.Columns c c') {s s' : Scalar}
    (hs : K.Scalars s s') :
    Outcomes K.Updates (u.set (b := K.left) c s) (u'.set (b := K.right) c' s') := by
  unfold RowUpdate.set
  rw [h.filter.source_eq]
  refine (unqualified h.filter.source hc).bind fun f f' hf => Outcomes.bind hs fun v w hv => ?_
  have hequals : K.alike (.verbatim " = ") (.verbatim " = ") := fixed (by decide)
  have hassignment := K.append (K.append hf hequals) (K.bound hv)
  exact .ok ⟨List.rel_append h.assignments (.cons hassignment .nil), h.filter⟩

theorem compile (h : K.Updates u u') : Outcomes K.alike u.compile u'.compile := by
  have htable : K.plain ("UPDATE " ++ u.table ++ " SET ") :=
    K.plain_append (K.plain_append (K.plain_of_not_mem (by decide)) h.filter.source.model.table)
      (K.plain_of_not_mem (by decide))
  have htable_eq : u'.table = u.table := congrArg (·.model.table) h.filter.source_eq
  unfold RowUpdate.compile
  rw [isEmpty_of_forall₂ h.assignments, htable_eq]
  split
  · exact .error _ _
  · have hlist := join (K.plain_of_not_mem (by decide) : K.plain ", ") h.assignments
    exact .ok (K.append (K.append (K.verbatim htable) hlist) (whereClause h.filter))

theorem report (h : K.Updates u u') : K.Reports u.report u'.report := by
  have hcompile := h.compile
  unfold RowUpdate.report
  generalize u.compile = x at hcompile
  generalize u'.compile = x' at hcompile
  cases hcompile with
  | ok hf => exact .fragment hf
  | error e e' => exact .failure e e'

theorem step (h : K.Updates u u') (hS : K.PlainSchema schema) (place : String)
    {t t' : UpdateStep} (ht : K.UpdateSteps t t') {s s' : Session} (hs : K.Sessions s s') :
    K.Steps K.Updates (u.step (b := K.left) schema place s t)
      (u'.step (b := K.right) schema place s' t') := by
  cases ht with
  | set hbefore hc hv =>
    refine (runPreparation hS hbefore .nil hs).step h fun l l' s s' hl hs => ?_
    exact .ofCall h hs ((h.set (columnArg hl hc) hv).map fun _ _ hu => ⟨hu, .none⟩)
  | filter hsteps =>
    refine (runPredicateScript hS hsteps _ 0 h.filter hs).finished fun p p' hp => ?_
    exact { h with filter := hp }
  | inspection => exact ⟨.ok (.some (.text _ _)), h, hs⟩

theorem run (hS : K.PlainSchema schema) {l l' : List UpdateStep}
    (hl : List.Forall₂ K.UpdateSteps l l') (number : Nat) (h : K.Updates u u') {s s' : Session}
    (hs : K.Sessions s s') :
    K.Runs K.Updates (RowUpdate.run (b := K.left) schema number l u s)
      (RowUpdate.run (b := K.right) schema number l' u' s') := by
  induction hl generalizing number u u' s s' with
  | nil => exact ⟨.ok trivial, h, hs⟩
  | cons ht _ ih =>
    simp only [RowUpdate.run]
    exact (h.step hS _ ht hs).andThen _ (fun _ _ hu => hu.report) true
      fun _ _ _ _ hu hs => ih (number + 1) hu hs

end Updates

/-! ### Deletions -/

variable (K) in
structure Deletes (d d' : RowDelete) : Prop where
  filter : K.Predicates d.filter d'.filter

namespace Deletes

variable {d d' : RowDelete}

theorem ofModel (hS : K.PlainSchema schema) {model : Model} (hm : K.PlainModel model) :
    K.Deletes (.ofModel schema model) (.ofModel schema model) :=
  ⟨.fresh (onTable hS hm)⟩

theorem ofKeys (hS : K.PlainSchema schema) {model : Model} (hm : K.PlainModel model)
    {keys keys' : List Scalar} (hkeys : List.Forall₂ K.Scalars keys keys') :
    Outcomes K.Deletes (RowDelete.ofKeys (b := K.left) schema model keys)
      (RowDelete.ofKeys (b := K.right) schema model keys') := by
  refine (plain_primaryKey hm).bind fun c c' hc => ?_
  obtain ⟨rfl, hplain⟩ := hc
  exact ((ofModel hS hm).filter.isIn (.raw hplain) hkeys).bind fun _ _ hp => .ok ⟨hp⟩

theorem compile (h : K.Deletes d d') : K.alike d.compile d'.compile := by
  have htable : K.plain ("DELETE FROM " ++ d.table) :=
    K.plain_append (K.plain_of_not_mem (by decide)) h.filter.source.model.table
  have htable_eq : d'.table = d.table := congrArg (·.model.table) h.filter.source_eq
  rw [RowDelete.compile, RowDelete.compile, htable_eq]
  exact K.append (K.verbatim htable) (whereClause h.filter)

theorem step (h : K.Deletes d d') (hS : K.PlainSchema schema) (place : String)
    {t t' : DeleteStep} (ht : K.DeleteSteps t t') {s s' : Session} (hs : K.Sessions s s') :
    K.Steps K.Deletes (d.step (b := K.left) schema place s t)
      (d'.step (b := K.right) schema place s' t') := by
  cases ht with
  | filter hsteps =>
    exact (runPredicateScript hS hsteps _ 0 h.filter hs).finished fun _ _ hp => ⟨hp⟩
  | inspection => exact ⟨.ok (.some (.text _ _)), h, hs⟩

theorem run (hS : K.PlainSchema schema) {l l' : List DeleteStep}
    (hl : List.Forall₂ K.DeleteSteps l l') (number : Nat) (h : K.Deletes d d') {s s' : Session}
    (hs : K.Sessions s s') :
    K.Runs K.Deletes (RowDelete.run (b := K.left) schema number l d s)
      (RowDelete.run (b := K.right) schema number l' d' s') := by
  induction hl generalizing number d d' s s' with
  | nil => exact ⟨.ok trivial, h, hs⟩
  | cons ht _ ih =>
    simp only [RowDelete.run]
    exact (h.step hS _ ht hs).andThen _ (fun _ _ hd => .fragment hd.compile) true
      fun _ _ _ _ hd hs => ih (number + 1) hd hs

end Deletes

/-! ### Insertions -/

section

variable {i : Insertion} (hi : K.PlainInsertion i) {rows rows' : List (List Value)}
  (hrows : List.Forall₂ (List.Forall₂ K.values) rows rows')

include hi hrows

theorem insertStatement :
    K.alike (i.statement (b := K.left) rows) (i.statement (b := K.right) rows') := by
  have hcomma : K.plain ", " := K.plain_of_not_mem (by decide)
  have hhead : K.plain i.head :=
    K.plain_append (K.plain_append (K.plain_append (K.plain_append
      (K.plain_of_not_mem (by decide)) hi.table) (K.plain_of_not_mem (by decide)))
      (plain_intercalate hcomma hi.columns)) (K.plain_of_not_mem (by decide))
  exact K.append (K.verbatim hhead)
    (join hcomma (List.rel_map (fun _ _ hrow => parenthesized (boundList hrow)) hrows))

omit hi in
/-- Ragged rows are found at the same place. -/
theorem raggedRow (width : Nat) :
    Option.Rel (List.Forall₂ K.values) (rows.find? fun row => row.length ≠ width)
      (rows'.find? fun row => row.length ≠ width) := by
  induction hrows with
  | nil => exact .none
  | cons hrow _ ih =>
    rw [List.find?_cons, List.find?_cons, hrow.length_eq]
    split
    · exact .some hrow
    · exact ih

theorem insertCompile :
    Outcomes (List.Forall₂ K.alike) (i.compile (b := K.left) rows)
      (i.compile (b := K.right) rows') := by
  have hragged := raggedRow hrows i.columns.length
  unfold Insertion.compile
  rw [isEmpty_of_forall₂ hrows]
  generalize rows.find? _ = row at hragged
  generalize rows'.find? _ = row' at hragged
  split
  · exact .error _ _
  · cases hragged with
    | some _ => exact .error _ _
    | none =>
      refine (Outcomes.same fun _ _ => rfl : Outcomes Eq i.rowsPerStatement _).bind ?_
      rintro size _ rfl
      exact .ok (List.rel_map (fun _ _ hpiece => insertStatement hi hpiece)
        (forall₂_chunks size hrows))

end

/-! ### Records -/

section

variable {ρ : Type} {T : RecordType ρ}

theorem insertRecords {i : Insertion} (hi : K.PlainInsertion i) {l l' : List ρ}
    (h : List.Forall₂ (K.Records T) l l') :
    Outcomes (List.Forall₂ K.alike) (i.compileRecords (b := K.left) T l)
      (i.compileRecords (b := K.right) T l') :=
  (Outcomes.mapM h fun _ _ hr => hr.values).bind fun _ _ hrows => insertCompile hi hrows

variable (K) in
/-- One column with a plain name, and values for it. -/
structure Assigned (p p' : Column × Value) : Prop where
  column_eq : p'.1 = p.1
  plain : K.plain p.1.name
  values : K.values p.2 p'.2

theorem zipColumns {columns : List Column} (hc : ∀ c ∈ columns, K.plain c.name)
    {vs ws : List Value} (h : List.Forall₂ K.values vs ws) :
    List.Forall₂ K.Assigned (columns.zip vs) (columns.zip ws) := by
  induction columns generalizing vs ws with
  | nil => exact .nil
  | cons c columns ih =>
    rw [List.forall_mem_cons] at hc
    cases h with
    | nil => exact .nil
    | cons hv h => exact .cons ⟨rfl, hc.1, hv⟩ (ih hc.2 h)

variable (hT : K.PlainRecordType T) {r r' : ρ} (hr : K.Records T r r')

include hT hr

theorem updateOfRecord :
    Outcomes K.Updates (RowUpdate.ofRecord (b := K.left) T r)
      (RowUpdate.ofRecord (b := K.right) T r') := by
  have hstored : ∀ c ∈ T.model.storedColumns, K.plain c.name := fun c hc =>
    hT.model.columns c (List.mem_of_mem_filter hc)
  refine (plain_primaryKey hT.model).bind fun key key' hkey => ?_
  obtain ⟨rfl, hkey⟩ := hkey
  refine hr.values.bind fun vs ws hvs => ?_
  have hassigned : List.Forall₂ K.Assigned
      ((T.model.storedColumns.zip vs).filter fun p => p.1.key.isNone)
      ((T.model.storedColumns.zip ws).filter fun p => p.1.key.isNone) :=
    List.rel_filter (fun p p' hp => by simp only [hp.column_eq]) (zipColumns hstored hvs)
  refine (Outcomes.foldlM hassigned (fun u u' p p' hu hp => ?_)
    (Updates.ofModel hT.schema hT.model)).bind fun u u' hu => hr.key.bind fun v w hv => ?_
  · rw [hp.column_eq]
    exact hu.set (.raw hp.plain) (.ok hp.values)
  · exact (hu.filter.compare .equal (.raw hkey) (.operand (.value hv))).bind fun _ _ hp =>
      .ok { hu with filter := hp }

theorem updateRecord :
    Outcomes K.alike (RowUpdate.compileRecord (b := K.left) T r)
      (RowUpdate.compileRecord (b := K.right) T r') :=
  (updateOfRecord hT hr).bind fun _ _ hu => hu.compile

theorem deleteRecord :
    Outcomes K.alike (RowDelete.compileRecord (b := K.left) T r)
      (RowDelete.compileRecord (b := K.right) T r') := by
  refine Outcomes.bind ?_ fun _ _ hd => .ok (Deletes.compile hd)
  exact hr.key.bind fun _ _ hv => Deletes.ofKeys hT.schema hT.model (.cons (.ok hv) .nil)

end

end Likeness

end SqlCompose
