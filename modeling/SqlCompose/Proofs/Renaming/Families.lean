import Mathlib.Data.List.Forall2
import SqlCompose.Error

/-! Families: what one program gives under every history that it can come after. A relation says of
a family which of its members belong together; it is lifted to computations, which all succeed or
all fail, to optional values and to lists, which all have the same form. -/

namespace SqlCompose

variable {ι α β γ : Type}

/-- The same value under all histories. -/
def Same (x : ι → α) : Prop :=
  ∃ a, ∀ i, x i = a

/-- Computations that all give results, in relation to each other, or all fail in the same way. -/
inductive JointOutcome (R : (ι → α) → Prop) : (ι → Except Error α) → Prop
  | ok {a : ι → α} (h : R a) : JointOutcome R fun i => .ok (a i)
  | error (e : Error) : JointOutcome R fun _ => .error e

/-- Values that are all there, in relation to each other, or are all missing. -/
inductive JointOption (R : (ι → α) → Prop) : (ι → Option α) → Prop
  | none : JointOption R fun _ => .none
  | some {a : ι → α} (h : R a) : JointOption R fun i => .some (a i)

/-- Lists of one length, with members in relation to each other. -/
inductive JointList (R : (ι → α) → Prop) : (ι → List α) → Prop
  | nil : JointList R fun _ => []
  | cons {a : ι → α} {l : ι → List α} (h : R a) (hl : JointList R l) :
      JointList R fun i => a i :: l i

variable {R : (ι → α) → Prop} {S : (ι → β) → Prop} {T : (ι → γ) → Prop}

theorem Same.rfl {a : α} : Same fun _ : ι => a :=
  ⟨a, fun _ => .refl a⟩

theorem Same.map {x : ι → α} (h : Same x) (f : α → β) : Same fun i => f (x i) := by
  obtain ⟨a, hx⟩ := h
  exact ⟨f a, fun i => congrArg f (hx i)⟩

theorem Same.map₂ {x : ι → α} {y : ι → β} (hx : Same x) (hy : Same y) (f : α → β → γ) :
    Same fun i => f (x i) (y i) := by
  obtain ⟨a, ha⟩ := hx
  obtain ⟨b, hb⟩ := hy
  exact ⟨f a b, fun i => congrArg₂ f (ha i) (hb i)⟩

/-! ### Computations -/

namespace JointOutcome

theorem bind {x : ι → Except Error α} {f : ι → α → Except Error β} (h : JointOutcome R x)
    (hf : ∀ a, R a → JointOutcome S fun i => f i (a i)) : JointOutcome S fun i => x i >>= f i := by
  cases h with
  | ok h => exact hf _ h
  | error e => exact .error e

theorem map {x : ι → Except Error α} {f : ι → α → β} (h : JointOutcome R x)
    (hf : ∀ a, R a → S fun i => f i (a i)) : JointOutcome S fun i => (x i).map (f i) := by
  cases h with
  | ok h => exact .ok (hf _ h)
  | error e => exact .error e

/-- One computation, whatever the history. -/
theorem same {x : Except Error α} (h : ∀ a, R fun _ => a) : JointOutcome R fun _ => x := by
  cases x with
  | ok a => exact .ok (h a)
  | error e => exact .error e

theorem cases {x : ι → Except Error α} (h : JointOutcome R x) :
    (∃ a, (∀ i, x i = .ok (a i)) ∧ R a) ∨ ∃ e, ∀ i, x i = .error e := by
  cases h with
  | ok h => exact .inl ⟨_, fun _ => rfl, h⟩
  | error e => exact .inr ⟨e, fun _ => rfl⟩

theorem isOk {x : ι → Except Error α} (h : JointOutcome R x) : Same fun i => (x i).isOk := by
  cases h with
  | ok _ | error _ => exact .rfl

end JointOutcome

theorem JointOption.cases {x : ι → Option α} (h : JointOption R x) :
    (∀ i, x i = .none) ∨ ∃ a, (∀ i, x i = .some (a i)) ∧ R a := by
  cases h with
  | none => exact .inl fun _ => rfl
  | some h => exact .inr ⟨_, fun _ => rfl, h⟩

/-! ### Lists -/

namespace JointList

theorem append {l l' : ι → List α} (h : JointList R l) (h' : JointList R l') :
    JointList R fun i => l i ++ l' i := by
  induction h with
  | nil => exact h'
  | cons h _ ih => exact .cons h ih

theorem map {f : ι → α → β} {l : ι → List α} (h : JointList R l)
    (hf : ∀ a, R a → S fun i => f i (a i)) : JointList S fun i => (l i).map (f i) := by
  induction h with
  | nil => exact .nil
  | cons h _ ih => exact .cons (hf _ h) ih

/-- One list, mapped under each history. -/
theorem mapSame {f : ι → α → β} (l : List α) (hf : ∀ a, S fun i => f i a) :
    JointList S fun i => l.map (f i) := by
  induction l with
  | nil => exact .nil
  | cons a l ih => exact .cons (hf a) ih

theorem flatMap {f : α → List β} {l : ι → List α} (h : JointList R l)
    (hf : ∀ a, R a → JointList S fun i => f (a i)) : JointList S fun i => (l i).flatMap f := by
  induction h with
  | nil => exact .nil
  | cons h _ ih =>
    simp only [List.flatMap_cons]
    exact (hf _ h).append ih

theorem mapM {f : ι → α → Except Error β} {l : ι → List α} (h : JointList R l)
    (hf : ∀ a, R a → JointOutcome S fun i => f i (a i)) :
    JointOutcome (JointList S) fun i => (l i).mapM (f i) := by
  induction h with
  | nil => exact .ok .nil
  | cons h _ ih =>
    simp only [List.mapM_cons]
    refine (hf _ h).bind fun b hb => ih.bind fun rest hrest => ?_
    exact .ok (.cons hb hrest)

theorem mapMSame {f : ι → α → Except Error β} (l : List α)
    (hf : ∀ a, JointOutcome S fun i => f i a) :
    JointOutcome (JointList S) fun i => l.mapM (f i) := by
  induction l with
  | nil => exact .ok .nil
  | cons a l ih =>
    simp only [List.mapM_cons]
    refine (hf a).bind fun b hb => ih.bind fun rest hrest => ?_
    exact .ok (.cons hb hrest)

theorem foldlM {f : γ → α → Except Error γ} {l : ι → List α} (h : JointList R l)
    (hf : ∀ c a, T c → R a → JointOutcome T fun i => f (c i) (a i)) {c : ι → γ} (hc : T c) :
    JointOutcome T fun i => (l i).foldlM f (c i) := by
  induction h generalizing c with
  | nil => exact .ok hc
  | cons h _ ih =>
    simp only [List.foldlM_cons]
    exact (hf _ _ hc h).bind fun _ => ih

theorem foldr {f : α → β → β} {l : ι → List α} (h : JointList R l)
    (hf : ∀ a b, R a → S b → S fun i => f (a i) (b i)) {b : ι → β} (hb : S b) :
    S fun i => (l i).foldr f (b i) := by
  induction h with
  | nil => exact hb
  | cons h _ ih => exact hf _ _ h ih

theorem getElem? {l : ι → List α} (h : JointList R l) (k : Nat) :
    JointOption R fun i => (l i)[k]? := by
  induction h generalizing k with
  | nil => exact .none
  | cons h _ ih =>
    cases k with
    | zero => exact .some h
    | succ k => exact ih k

/-- One list, if each of its members is one and the same. -/
theorem allSame {l : ι → List α} (h : JointList Same l) : Same l := by
  induction h with
  | nil => exact .rfl
  | cons h _ ih => exact h.map₂ ih (· :: ·)

theorem length {l : ι → List α} (h : JointList R l) : Same fun i => (l i).length := by
  induction h with
  | nil => exact .rfl
  | cons _ _ ih => exact ih.map (· + 1)

theorem isEmpty {l : ι → List α} (h : JointList R l) : Same fun i => (l i).isEmpty := by
  cases h with
  | nil | cons _ _ => exact .rfl

end JointList

end SqlCompose
