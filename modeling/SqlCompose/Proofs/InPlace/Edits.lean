import SqlCompose.Error
import SqlCompose.Proofs.Except

/-! Builders that are changed in their place. The calls of this library give a new builder or an
error; here a call makes one change after the other, and a failure leaves whatever has been changed
by then. An edit is exact for a call if this makes no difference. -/

namespace SqlCompose

/-- Changes of a builder in its place, up to the first failure. -/
abbrev Edit (β : Type) := ExceptT Error (StateM β)

namespace Edit

variable {β γ α : Type}

/-- How an edit of a builder ends, and what it leaves of the builder. -/
def on (e : Edit β α) (b : β) : Except Error α × β :=
  StateT.run (ExceptT.run e) b

/-- The edit with this outcome. -/
def of (f : β → Except Error α × β) : Edit β α :=
  ExceptT.mk f

/-- Edits a new builder, which is gone if that fails. -/
def aside (start : γ) (e : Edit γ Unit) : Edit β γ :=
  match e.on start with
  | (.ok _, c) => pure c
  | (.error err, _) => throw err

/-! ### Single steps -/

@[simp] theorem on_pure (a : α) (b : β) : on (pure a) b = (.ok a, b) := rfl

@[simp] theorem on_get (b : β) : on get b = (.ok b, b) := rfl

@[simp] theorem on_modify (f : β → β) (b : β) : on (modify f) b = (.ok (), f b) := rfl

@[simp] theorem on_modifyGet (f : β → α × β) (b : β) :
    on (modifyGet f) b = (.ok (f b).1, (f b).2) := rfl

/-- A computation on the way that changes nothing. -/
@[simp] theorem on_liftM (x : Except Error α) (b : β) : on (liftM x) b = (x, b) := rfl

@[simp] theorem on_aside (start : γ) (e : Edit γ Unit) (b : β) :
    (aside start e).on b = ((e.on start).1.map fun _ => (e.on start).2, b) := by
  unfold aside
  cases e.on start with
  | mk result c => cases result <;> rfl

theorem on_bind (e : Edit β α) (f : α → Edit β γ) (b : β) :
    on (e >>= f) b =
      match e.on b with
      | (.ok a, b') => (f a).on b'
      | (.error err, b') => (.error err, b') := by
  show StateT.run (ExceptT.run e >>= ExceptT.bindCont f) b = _
  rw [StateT.run_bind]
  show StateT.run (ExceptT.bindCont f (e.on b).1) (e.on b).2 = _
  cases e.on b with
  | mk result b' => cases result <;> rfl

/-! ### Edits and calls -/

/-- The edit ends as the call does, and leaves the builder that the call gives. If the call fails,
the builder is as it was. -/
def Exact (e : Edit β Unit) (call : β → Except Error β) : Prop :=
  ∀ b, e.on b = ((call b).map fun _ => (), (call b).toOption.getD b)

/-- The edit ends as the call does. After a failure, the builder may be anything. -/
structure Follows (e : Edit β Unit) (call : β → Except Error β) : Prop where
  result_eq : ∀ b, (e.on b).1 = (call b).map fun _ => ()
  builder_eq : ∀ {b b'}, call b = .ok b' → (e.on b).2 = b'

section

variable {e e' : Edit β Unit} {call call' : β → Except Error β}

theorem Exact.follows (h : e.Exact call) : e.Follows call where
  result_eq b := by rw [h b]
  builder_eq {b b'} hcall := by
    rw [h b, hcall]
    rfl

theorem exact_modify (f : β → β) : (modify f : Edit β Unit).Exact fun b => .ok (f b) :=
  fun _ => rfl

theorem exact_pure : (pure () : Edit β Unit).Exact .ok :=
  fun _ => rfl

/-- What is computed before the first change may fail. -/
theorem exact_bind {x : Except Error α} {f : α → Edit β Unit} {call : α → β → Except Error β}
    (h : ∀ a, (f a).Exact (call a)) :
    (liftM x >>= f : Edit β Unit).Exact fun b => x >>= fun a => call a b := by
  intro b
  rw [on_bind, on_liftM]
  cases x with
  | error err => rfl
  | ok a => exact h a b

theorem Follows.bind (h : e.Follows call) (h' : e'.Follows call') :
    (e >>= fun _ => e').Follows fun b => call b >>= call' where
  result_eq b := by
    have hresult := h.result_eq b
    have hbuilder := @h.builder_eq b
    rw [on_bind]
    generalize e.on b = left at hresult hbuilder ⊢
    obtain ⟨result, b'⟩ := left
    subst hresult
    cases hcall : call b with
    | error err => rfl
    | ok b'' =>
      cases hbuilder hcall
      exact h'.result_eq b'
  builder_eq {b b'} hcall := by
    obtain ⟨b'', hb'', hcall⟩ := bind_ok hcall
    have hleft : e.on b = (.ok (), b'') := by
      rw [← h.builder_eq hb'']
      exact Prod.ext ((h.result_eq b).trans (by rw [hb'']; rfl)) rfl
    rw [on_bind, hleft]
    exact h'.builder_eq hcall

/-- One edit for each element of a list. -/
theorem follows_forM {e : α → Edit β Unit} {call : β → α → Except Error β} (l : List α)
    (h : ∀ a, (e a).Follows fun b => call b a) :
    (l.forM e).Follows fun b => l.foldlM call b := by
  induction l with
  | nil => exact exact_pure.follows
  | cons a l ih => exact (h a).bind ih

end

end Edit

end SqlCompose
