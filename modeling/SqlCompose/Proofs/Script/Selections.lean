import SqlCompose.Proofs.Projection.History
import SqlCompose.Proofs.Script.Steps

/-! Histories of the projections in a script. What a script does to a projection, with the steps
that fail and are passed over, is a history; so the items that a script selects, and the operands of
an expression, are those that its log tells. -/

namespace SqlCompose

/-- What the steps of a script do to its projection, up to the step that ends it. A call for which
something could not be built is not made. -/
def ProjectionScript.history [b : Binding] (schema : Schema) :
    ProjectionScript → (base : String) → (number : Nat) → Projection → Session →
      Projection.History
  | .done, _, _, _, _ => .done
  | .call attempt before c rest, base, number, p, s =>
    let prepared := before.run schema [] s
    let f := Finished.ofPrepared p prepared fun fragments s => .ofCall p s (c.perform fragments p)
    let next := f.follow (base ++ toString number) Projection.report attempt .done
      fun p s => rest.history schema base (number + 1) p s
    match prepared.1 with
    | .ok fragments => .call fragments c next
    | .error _ => next
  | .group attempt aliasName steps rest, base, number, p, s =>
    let place := base ++ toString number
    let operand : Projection := .expression p.source
    let r := steps.run schema (place ++ ".") 0 operand s
    .group aliasName r.result (steps.history schema (place ++ ".") 0 operand s) <|
      (p.finishGroup aliasName r).follow place Projection.report attempt .done
        fun p s => rest.history schema base (number + 1) p s

/-- A script and its history go on, and stop, at the same step. -/
theorem Finished.select_follow (f : Finished Projection) {place : String}
    {state : Projection → Report} {attempt : Bool}
    {next : Projection → Session → Projection.History} {run : Projection → Session → Run Projection}
    (h : ∀ s, (next f.builder s).run f.builder = (run f.builder s).builder) :
    (f.follow place state attempt .done next).run f.builder =
      (f.andThen place state attempt run).builder :=
  andThen_follow (R := fun (hist : Projection.History) p => hist.run f.builder = p) rfl h

theorem ProjectionScript.run_history (schema : Schema) :
    (steps : ProjectionScript) → (base : String) → (number : Nat) → (p : Projection) →
      (s : Session) →
      (steps.history schema base number p s).run p = (steps.run schema base number p s).builder
  | .done, _, _, _, _ => rfl
  | .call attempt before c rest, base, number, p, s => by
    rw [ProjectionScript.history, ProjectionScript.run]
    generalize before.run schema [] s = prepared
    obtain ⟨_ | fragments, s⟩ := prepared
    · exact Finished.select_follow _ fun s => rest.run_history schema base (number + 1) p s
    · show Projection.History.run _ ((c.edit fragments).on p).2 = _
      rw [c.on_edit_eq fragments s p]
      exact Finished.select_follow _ fun s => rest.run_history schema base (number + 1) _ s
  | .group attempt aliasName steps rest, base, number, p, s => by
    rw [ProjectionScript.history, ProjectionScript.run]
    let r := steps.run schema (base ++ toString number ++ ".") 0 (.expression p.source) s
    let inside := steps.history schema (base ++ toString number ++ ".") 0 (.expression p.source) s
    have hinside : Edit.on (.of fun g => (r.result, inside.run g)) (.expression p.source) =
        (r.result, r.builder) :=
      Prod.ext rfl (steps.run_history schema (base ++ toString number ++ ".") 0 _ s)
    rw [Projection.History.run, Projection.on_group_eq aliasName hinside]
    exact Finished.select_follow _ fun s => rest.run_history schema base (number + 1) _ s

/-- The items that a script selects, or the operands of the expression it composes, are those in
its log. -/
theorem ProjectionScript.compile_run (schema : Schema) (steps : ProjectionScript)
    (source : Source) (isExpression : Bool) (base : String) (number : Nat) (s : Session) :
    let start : Projection := { source, isExpression }
    (steps.run schema base number start s).builder.compile =
      Projection.Log.text isExpression ((steps.history schema base number start s).log source) := by
  intro start
  rw [← steps.run_history schema base number start s]
  exact (steps.history schema base number start s).compile_run source isExpression

end SqlCompose
