import SqlCompose.Derive.Records
import SqlCompose.Proofs.Binding.Programs

/-! Bound values never reach the text of a statement. Two programs that make the same calls with
other values fail at the same calls, and compile the same texts with as many parameters. -/

namespace SqlCompose

/-! ### Outcomes of calls -/

def Report.isFailure : Report → Bool
  | failure _ => true
  | _ => false

/-- The place of a step, whether it went well, and whether its builder could be shown. -/
def Entry.outcome (e : Entry) : String × Bool × Bool :=
  (e.place, e.result.isOk, !e.state.isFailure)

/-- The outcomes of all steps, and at the end that of the run as a whole. -/
def Run.outcomes {β : Type} (report : β → Report) (r : Run β) : List (String × Bool × Bool) :=
  r.session.log.reverse.map Entry.outcome ++ [("", r.result.isOk, !(report r.builder).isFailure)]

namespace Program

/-- Which calls of a program succeed, from the first on. -/
def outcomes [b : Binding] (schema : Schema) (counters : Counters) :
    Program → List (String × Bool × Bool)
  | condition model aliasName steps =>
    (steps.run schema "" 0 { source := { schema, model, aliasName } } { counters }).outcomes
      Predicate.report
  | selection model aliasName isExpression steps =>
    (steps.run schema "" 0 { source := { schema, model, aliasName }, isExpression }
      { counters }).outcomes Projection.report
  | query head steps =>
    (steps.run schema "" 0 (head.start schema) { counters }).outcomes Query.report
  | composition steps => (Fragment.run schema 0 steps .empty { counters }).outcomes .fragment
  | update model steps =>
    (RowUpdate.run schema 0 steps (.ofModel schema model) { counters }).outcomes RowUpdate.report
  | delete model steps =>
    (RowDelete.run schema 0 steps (.ofModel schema model) { counters }).outcomes RowDelete.report
  | deleteKeys model keys steps =>
    match RowDelete.ofKeys schema model keys with
    | .ok d => (RowDelete.run schema 0 steps d { counters }).outcomes RowDelete.report
    | .error _ => [("", false, false)]
  | insert i rows => [("", (i.compile rows).isOk, true)]
  | insertRecords i T records => [("", (i.compileRecords T records).isOk, true)]
  | updateRecord T r => [("", (RowUpdate.compileRecord T r).isOk, true)]
  | deleteRecord T r => [("", (RowDelete.compileRecord T r).isOk, true)]

end Program

theorem Outcomes.isOk_eq {α β : Type} {R : α → β → Prop} {x : Except Error α}
    {y : Except Error β} (h : Outcomes R x y) : y.isOk = x.isOk := by
  cases h <;> rfl

namespace Likeness

variable {K : Likeness}

theorem Reports.isFailure_eq {r r' : Report} (h : K.Reports r r') :
    r'.isFailure = r.isFailure := by
  cases h <;> rfl

theorem Entries.outcome_eq {e e' : Entry} (h : K.Entries e e') : e'.outcome = e.outcome := by
  rw [Entry.outcome, Entry.outcome, h.place_eq, h.result.isOk_eq, h.state.isFailure_eq]

theorem Sessions.outcomes_eq {s s' : Session} (h : K.Sessions s s') :
    s'.log.reverse.map Entry.outcome = s.log.reverse.map Entry.outcome := by
  rw [List.map_reverse, List.map_reverse, List.reverse_inj]
  have hlog := h.log
  generalize s.log = l at hlog
  generalize s'.log = l' at hlog
  induction hlog with
  | nil => rfl
  | cons he _ ih => rw [List.map_cons, List.map_cons, he.outcome_eq, ih]

theorem Runs.outcomes_eq {β : Type} {R : β → β → Prop} {r r' : Run β} (h : K.Runs R r r')
    {report report' : β → Report} (hreport : ∀ b b', R b b' → K.Reports (report b) (report' b')) :
    r'.outcomes report' = r.outcomes report := by
  rw [Run.outcomes, Run.outcomes, h.session.outcomes_eq, h.result.isOk_eq,
    (hreport _ _ h.builder).isFailure_eq]

/-- A program that is a single call. -/
theorem single {α β : Type} {R : α → β → Prop} {x : Except Error α} {y : Except Error β}
    (h : Outcomes R x y) : [("", y.isOk, true)] = [("", x.isOk, true)] := by
  rw [h.isOk_eq]

/-- Two programs of the same calls fail at the same of them. -/
theorem outcomes {schema : Schema} (hS : K.PlainSchema schema) (counters : Counters)
    {P P' : Program} (h : K.Programs P P') :
    P'.outcomes (b := K.right) schema counters = P.outcomes (b := K.left) schema counters := by
  have hs : K.Sessions { counters } { counters } := fresh counters
  cases h with
  | @condition model aliasName _ _ hmodel halias hsteps =>
    have hsource : K.PlainSource { schema, model, aliasName } := ⟨halias, hmodel, hS⟩
    exact (runPredicateScript hS hsteps "" 0 (.fresh hsource) hs).outcomes_eq fun _ _ hp =>
      .fragment hp.body
  | @selection model aliasName isExpression _ _ hmodel halias hsteps =>
    have hsource : K.PlainSource { schema, model, aliasName } := ⟨halias, hmodel, hS⟩
    have hp := Projections.start hsource isExpression
    exact (runProjectionScript hS hsteps "" 0 hp hs).outcomes_eq fun _ _ hp =>
      .fragment hp.compile
  | query hhead hsteps =>
    have hq := startQuery hS hhead
    exact (runQueryScript hS hsteps "" 0 hq hs).outcomes_eq fun _ _ hq => .fragment hq.compile
  | composition hl =>
    exact (runFragmentSteps hS hl 0 empty hs).outcomes_eq fun _ _ hf => .fragment hf
  | update hmodel hl =>
    exact (Updates.run hS hl 0 (.ofModel hS hmodel) hs).outcomes_eq fun _ _ hu => hu.report
  | delete hmodel hl =>
    exact (Deletes.run hS hl 0 (.ofModel hS hmodel) hs).outcomes_eq fun _ _ hd =>
      .fragment hd.compile
  | deleteKeys hmodel hkeys hl =>
    have hkeys := Deletes.ofKeys hS hmodel hkeys
    simp only [Program.outcomes]
    generalize RowDelete.ofKeys (b := K.left) schema _ _ = x at hkeys
    generalize RowDelete.ofKeys (b := K.right) schema _ _ = x' at hkeys
    cases hkeys with
    | error _ _ => rfl
    | ok hd =>
      exact (Deletes.run hS hl 0 hd hs).outcomes_eq fun _ _ hd => .fragment hd.compile
  | insert hi hrows => exact single (insertCompile hi hrows)
  | insertRecords hi hl => exact single (insertRecords hi hl)
  | updateRecord hT hr => exact single (updateRecord hT hr)
  | deleteRecord hT hr => exact single (deleteRecord hT hr)

end Likeness

/-! ### Other values -/

/-- The texts are the same, and there are as many parameters. -/
def Fragment.SameText (f f' : Fragment) : Prop :=
  f'.sql = f.sql ∧ f'.params.length = f.params.length

/-- Any value may stand for any other, and so in the fragments that the caller supplies. -/
def Vocabulary.anyValues : Vocabulary where
  plain _ := True
  values _ _ := True
  given := Fragment.SameText

/-- Placeholders on both sides. -/
def Likeness.sameText : Likeness :=
  { Vocabulary.anyValues with
    left := .placeholders
    right := .placeholders
    alike := Fragment.SameText
    plain_of_not_mem := fun _ => trivial
    plain_append := fun _ _ => trivial
    plain_lowercase := fun _ => trivial
    values_refl := fun _ => trivial
    verbatim := fun _ => ⟨rfl, rfl⟩
    append := by
      rintro f f' g g' ⟨hf, hf'⟩ ⟨hg, hg'⟩
      refine ⟨?_, ?_⟩
      · rw [Fragment.sql_append, Fragment.sql_append, hf, hg]
      · rw [Fragment.params_append, Fragment.params_append, List.length_append,
          List.length_append, hf', hg']
    bound := fun _ => ⟨rfl, rfl⟩
    supplied := id }

/-- Programs that make the same calls, with values of any sort in the places of values. Lists of
values are of the same length, and every scalar that can be stored has one that can be stored in
its place. -/
def Program.SameCalls (P P' : Program) : Prop :=
  Vocabulary.anyValues.Programs P P'

namespace Vocabulary

/-- Scalars that can be stored may stand for each other, whatever is stored for them. -/
theorem anyValues_scalars {s s' : Scalar} {v w : Value} (h : s.toValue = .ok v)
    (h' : s'.toValue = .ok w) : anyValues.Scalars s s' := by
  rw [Scalars, h, h']
  exact .ok trivial

theorem anyValues_plainModel (m : Model) : anyValues.PlainModel m :=
  ⟨trivial, trivial, fun _ _ => trivial⟩

theorem anyValues_plainSchema (schema : Schema) : anyValues.PlainSchema schema :=
  fun m _ => anyValues_plainModel m

/-- Records of a declared type may stand for each other if all their fields can be stored. -/
theorem anyValues_records (mappings : List Derive.MemberMapping) (m : Derive.MemberMapping)
    {r r' : Derive.Record} (hr : ∀ s ∈ r, ∃ v, s.toValue = .ok v)
    (hr' : ∀ s ∈ r', ∃ v, s.toValue = .ok v) :
    anyValues.Records (Derive.recordType mappings m) r r' := by
  have hstored {r : Derive.Record} (hr : ∀ s ∈ r, ∃ v, s.toValue = .ok v)
      (f : Derive.MappedField (Option ScalarType) Nat) :
      ∃ v, (Derive.Mapping.scalar f r).toValue = .ok v := by
    unfold Derive.Mapping.scalar
    cases hs : r[f.position]? with
    | none => exact ⟨.null, rfl⟩
    | some s => exact hr s (List.mem_of_getElem? hs)
  have hfield (f : Derive.MappedField (Option ScalarType) Nat) :
      anyValues.Scalars (Derive.Mapping.scalar f r) (Derive.Mapping.scalar f r') := by
    obtain ⟨v, hv⟩ := hstored hr f
    obtain ⟨w, hw⟩ := hstored hr' f
    exact anyValues_scalars hv hw
  refine ⟨Outcomes.mapM (R := Eq) (List.forall₂_refl m.storedFields) ?_, ?_⟩
  · rintro f _ rfl
    exact hfield f
  · show Outcomes _ (m.key r) (m.key r')
    unfold Derive.Mapping.key
    cases m.keyField? with
    | none => exact .error _ _
    | some f => exact hfield f

end Vocabulary

/-- Programs of the same calls fail at the same of them, and all statements that they compile
have the same texts and equally many parameters. -/
theorem Program.sameText_of_sameCalls {P P' : Program} (h : P.SameCalls P') (schema : Schema)
    (counters : Counters) :
    P'.outcomes schema counters = P.outcomes schema counters ∧
      List.Forall₂ Fragment.SameText (P.compiled schema counters)
        (P'.compiled schema counters) :=
  have hS : Likeness.sameText.PlainSchema schema := Vocabulary.anyValues_plainSchema schema
  ⟨Likeness.sameText.outcomes hS counters h, Likeness.sameText.programs hS counters h⟩

/-- A condition with one failing test, and a clause for every sort of value. The values of the
second program are NULL, a negative number, and texts that look like SQL. -/
theorem Program.sameText_of_other_values :
    let model : Model := { typeName := "Employee", table := "employee" }
    let column (name : String) : ColumnArg := .given (.raw name)
    let program (fallback : Scalar) (ages : List Scalar) (text : String) (count : Int64)
        (supplied : Value) : Program := .query { model } <|
      .scoped false (.project (.call false .done
        (.applyWith .coalesce [fallback] (column "name") none) .done)) <|
      .scoped false (.filter <|
        .call true .done (.test [.between] [.column (column "age")]) <|
        .call false .done (.isIn (column "age") ages) <|
        .call false .done .not <|
        .call false .done (.search .anywhere (column "name") text) .done) <|
      .call false .done (.limit count) <|
      .call false .done (.union .union (.given ⟨"SELECT ?", [supplied]⟩)) .done
    let P := program (.text "?") [.signed 1, .signed 2] "A" 10 (.integer 5)
    let P' := program .absent [.text "1) OR (1", .boolean true] "; DELETE FROM employee" (-1) .null
    let sql := "SELECT COALESCE(emp.name, ?) AS name FROM employee AS emp" ++
      " WHERE emp.age IN (?, ?) AND emp.name NOT LIKE ? LIMIT ? UNION SELECT ?"
    P.SameCalls P' ∧
    (P.compiled ⟨[]⟩ ⟨[]⟩).head? = some ⟨sql, [.text "?", .integer 1, .integer 2, .text "%A%",
      .integer 10, .integer 5]⟩ ∧
    (P'.compiled ⟨[]⟩ ⟨[]⟩).head? = some ⟨sql, [.null, .text "1) OR (1", .integer 1,
      .text "%; DELETE FROM employee%", .integer (-1), .null]⟩ ∧
    P'.outcomes ⟨[]⟩ ⟨[]⟩ = P.outcomes ⟨[]⟩ ⟨[]⟩ ∧
    List.Forall₂ Fragment.SameText (P.compiled ⟨[]⟩ ⟨[]⟩) (P'.compiled ⟨[]⟩ ⟨[]⟩) := by
  intro model column program P P' sql
  have hcolumn (name : String) : Vocabulary.anyValues.ColumnArgs (column name) (column name) :=
    .given (.raw trivial)
  have hhead : Vocabulary.anyValues.PlainHead { model } :=
    ⟨Vocabulary.anyValues_plainModel model, fun _ _ => trivial⟩
  have hage : List.Forall₂ Vocabulary.anyValues.Scalars [.signed 1, .signed 2]
      [.text "1) OR (1", .boolean true] :=
    .cons (.ok trivial) (.cons (.ok trivial) .nil)
  have hP : P.SameCalls P' := .query hhead <|
    .scoped _ (.project (.call _ .done (.applyWith _ (.cons (.ok trivial) .nil) (hcolumn _)
      fun _ _ => trivial) .done)) <|
    .scoped _ (.filter <| .call _ .done (.test _ (.cons (.column (hcolumn _)) .nil)) <|
      .call _ .done (.isIn (hcolumn _) hage) <|
      .call _ .done .not <|
      .call _ .done (.search _ (hcolumn _) fun _ => trivial) .done) <|
    .call _ .done (.limit trivial) <|
    .call _ .done (.union _ (.given ⟨rfl, rfl⟩)) .done
  exact ⟨hP, by decide +kernel, by decide +kernel, sameText_of_sameCalls hP ⟨[]⟩ ⟨[]⟩⟩

end SqlCompose
