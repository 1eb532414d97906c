import SqlCompose.Proofs.Script.Calls

/-! Single steps of a script. Something else can be computed along a script, going on and stopping
at the same steps as the script itself; a step either succeeds or leaves its builder alone. -/

namespace SqlCompose

namespace Finished

variable {β γ : Type}

/-- What comes after a step: `next`, unless the step failed and was not an attempt. -/
def follow (f : Finished β) (place : String) (state : β → Report) (attempt : Bool) (stop : γ)
    (next : β → Session → γ) : γ :=
  let s := f.session.record ⟨place, f.result, state f.builder⟩
  match f.result with
  | .ok _ => next f.builder s
  | .error _ => if attempt then next f.builder s else stop

/-- A script and what is said about it go on, and stop, at the same step. -/
theorem andThen_follow {R : γ → β → Prop} {f : Finished β} {place : String} {state : β → Report}
    {attempt : Bool} {stop : γ} {next : β → Session → γ} {run : β → Session → Run β}
    (hstop : R stop f.builder) (hnext : ∀ s, R (next f.builder s) (run f.builder s).builder) :
    R (f.follow place state attempt stop next) (f.andThen place state attempt run).builder := by
  simp only [follow, andThen]
  cases f.result with
  | ok _ => exact hnext _
  | error e => cases attempt with
    | true => exact hnext _
    | false => exact hstop

/-- A step that succeeded is put before the others; one that failed is left out. -/
def keep (f : Finished β) (put : γ → γ) (rest : γ) : γ :=
  match f.result with
  | .ok _ => put rest
  | .error _ => rest

theorem keep_ok {f : Finished β} {out : Option Report} (h : f.result = .ok out) (put : γ → γ)
    (rest : γ) : f.keep put rest = put rest := by
  rw [keep, h]

theorem keep_error {f : Finished β} {e : Error} (h : f.result = .error e) (put : γ → γ)
    (rest : γ) : f.keep put rest = rest := by
  rw [keep, h]

/-- A call on a builder, with what is built for it, succeeds and gives the next builder, or fails
and leaves the builder as it was. -/
theorem ofPrepared_cases (b : β) (prepared : Except Error (List Fragment) × Session)
    (perform : List Fragment → Except Error (β × Option Report)) :
    let f := ofPrepared b prepared fun fragments s => .ofCall b s (perform fragments)
    (∃ out, f.result = .ok out ∧
      perform (prepared.1.toOption.getD []) = .ok (f.builder, out)) ∨
    ((∃ e, f.result = .error e) ∧ f.builder = b) := by
  obtain ⟨_ | fragments, s⟩ := prepared
  · exact .inr ⟨⟨_, rfl⟩, rfl⟩
  · simp only [ofPrepared, Except.toOption, Option.getD_some]
    cases perform fragments with
    | error e => exact .inr ⟨⟨e, rfl⟩, rfl⟩
    | ok r => exact .inl ⟨r.2, rfl, rfl⟩

end Finished

/-- A nested condition whose script has run is added, or the condition is as it was. -/
theorem Predicate.finishScope_cases (p : Predicate) (r : Run Predicate) :
    (∃ out, (p.finishScope r).result = .ok out ∧
      p.nest r.builder.compile = .ok (p.finishScope r).builder) ∨
    ((∃ e, (p.finishScope r).result = .error e) ∧ (p.finishScope r).builder = p) := by
  obtain ⟨result, n, s⟩ := r
  cases result with
  | error e => exact .inr ⟨⟨e, rfl⟩, rfl⟩
  | ok _ =>
    simp only [finishScope, Except.bind]
    cases p.nest n.compile with
    | error e => exact .inr ⟨⟨e, rfl⟩, rfl⟩
    | ok q => exact .inl ⟨none, rfl, rfl⟩

theorem Projection.finishGroup_cases (p : Projection) (aliasName : String) (r : Run Projection) :
    (∃ out, (p.finishGroup aliasName r).result = .ok out ∧
      (p.finishGroup aliasName r).builder = p.group aliasName r.builder.compile) ∨
    ((∃ e, (p.finishGroup aliasName r).result = .error e) ∧
      (p.finishGroup aliasName r).builder = p) := by
  obtain ⟨result, n, s⟩ := r
  cases result with
  | error e => exact .inr ⟨⟨e, rfl⟩, rfl⟩
  | ok _ => exact .inl ⟨none, rfl, rfl⟩

end SqlCompose
