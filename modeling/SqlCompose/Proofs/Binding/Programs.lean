import SqlCompose.Proofs.Binding.Statements

/-! Programs under two bindings: the fragments that two programs of the same calls compile are
alike, one by one. -/

namespace SqlCompose

namespace Likeness

variable {K : Likeness}

/-! ### What a run has shown -/

theorem Reports.fragments {r r' : Report} (h : K.Reports r r') :
    List.Forall₂ K.alike r.fragments r'.fragments := by
  cases h with
  | fragment hf => exact .cons hf .nil
  | flag | text | failure => exact .nil

theorem Entries.fragments {e e' : Entry} (h : K.Entries e e') :
    List.Forall₂ K.alike e.fragments e'.fragments := by
  obtain ⟨place, result, state⟩ := e
  obtain ⟨place', result', state'⟩ := e'
  refine List.rel_append ?_ h.state.fragments
  cases h.result with
  | error _ _ => exact .nil
  | ok houtput =>
    cases houtput with
    | none => exact .nil
    | some hr => exact hr.fragments

theorem Sessions.fragments {s s' : Session} (h : K.Sessions s s') :
    List.Forall₂ K.alike s.fragments s'.fragments :=
  List.rel_append (List.rel_map (fun _ _ hp => hp.2) h.saved)
    (List.rel_flatMap h.log fun _ _ he => he.fragments)

theorem Runs.fragments {β : Type} {R : β → β → Prop} {r r' : Run β} (h : K.Runs R r r')
    {report report' : β → Report} (hreport : ∀ b b', R b b' → K.Reports (report b) (report' b')) :
    List.Forall₂ K.alike (r.fragments report) (r'.fragments report') :=
  List.rel_append (hreport _ _ h.builder).fragments h.session.fragments

/-- Sessions that start with the same counters. -/
theorem fresh (counters : Counters) : K.Sessions { counters } { counters } :=
  ⟨rfl, .nil, .nil⟩

theorem optional {x x' : Except Error Fragment} (h : Outcomes K.alike x x') :
    List.Forall₂ K.alike x.toOption.toList x'.toOption.toList := by
  cases h with
  | ok hf => exact .cons hf .nil
  | error _ _ => exact .nil

theorem batch {x x' : Except Error (List Fragment)} (h : Outcomes (List.Forall₂ K.alike) x x') :
    List.Forall₂ K.alike (x.toOption.getD []) (x'.toOption.getD []) := by
  cases h with
  | ok hl => exact hl
  | error _ _ => exact .nil

/-! ### Programs -/

theorem programs {schema : Schema} (hS : K.PlainSchema schema) (counters : Counters)
    {P P' : Program} (h : K.Programs P P') :
    List.Forall₂ K.alike (P.compiled (b := K.left) schema counters)
      (P'.compiled (b := K.right) schema counters) := by
  have hs : K.Sessions { counters } { counters } := fresh counters
  cases h with
  | @condition model aliasName _ _ hmodel halias hsteps =>
    have hsource : K.PlainSource { schema, model, aliasName } := ⟨halias, hmodel, hS⟩
    exact (runPredicateScript hS hsteps "" 0 (.fresh hsource) hs).fragments fun _ _ hp =>
      .fragment hp.body
  | @selection model aliasName isExpression _ _ hmodel halias hsteps =>
    have hsource : K.PlainSource { schema, model, aliasName } := ⟨halias, hmodel, hS⟩
    have hp := Projections.start hsource isExpression
    exact (runProjectionScript hS hsteps "" 0 hp hs).fragments fun _ _ hp =>
      .fragment hp.compile
  | query hhead hsteps =>
    have hq := startQuery hS hhead
    exact (runQueryScript hS hsteps "" 0 hq hs).fragments fun _ _ hq => .fragment hq.compile
  | composition hl =>
    exact (runFragmentSteps hS hl 0 empty hs).fragments fun _ _ hf => .fragment hf
  | update hmodel hl =>
    exact (Updates.run hS hl 0 (.ofModel hS hmodel) hs).fragments fun _ _ hu => hu.report
  | delete hmodel hl =>
    exact (Deletes.run hS hl 0 (.ofModel hS hmodel) hs).fragments fun _ _ hd =>
      .fragment hd.compile
  | deleteKeys hmodel hkeys hl =>
    have hkeys := Deletes.ofKeys hS hmodel hkeys
    simp only [Program.compiled]
    generalize RowDelete.ofKeys (b := K.left) schema _ _ = x at hkeys
    generalize RowDelete.ofKeys (b := K.right) schema _ _ = x' at hkeys
    cases hkeys with
    | error _ _ => exact .nil
    | ok hd =>
      exact (Deletes.run hS hl 0 hd hs).fragments fun _ _ hd => .fragment hd.compile
  | insert hi hrows => exact batch (insertCompile hi hrows)
  | insertRecords hi hl => exact batch (insertRecords hi hl)
  | updateRecord hT hr => exact optional (updateRecord hT hr)
  | deleteRecord hT hr => exact optional (deleteRecord hT hr)

end Likeness

end SqlCompose
