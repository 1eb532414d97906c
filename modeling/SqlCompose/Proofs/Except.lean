import Mathlib.Data.List.Forall2

/-! Computations that can fail: what is known of their parts when they succeed. -/

namespace SqlCompose

variable {ε α β : Type}

/-- A computation in two parts succeeds if both parts do. -/
theorem bind_ok {x : Except ε α} {f : α → Except ε β} {r : β} (h : x >>= f = .ok r) :
    ∃ a, x = .ok a ∧ f a = .ok r := by
  cases x with
  | error e => cases h
  | ok a => exact ⟨a, rfl, h⟩

/-- The first part of a computation that is known to succeed. -/
theorem bind_of_ok {x : Except ε α} {a : α} (h : x = .ok a) (f : α → Except ε β) :
    x >>= f = f a := by
  rw [h]
  rfl

theorem map_ok {x : Except ε α} {f : α → β} {r : β} (h : x.map f = .ok r) :
    ∃ a, x = .ok a ∧ f a = r := by
  cases x with
  | error e => cases h
  | ok a => exact ⟨a, rfl, Except.ok.inj h⟩

theorem map_inj {f : α → β} (hf : f.Injective) {x y : Except ε α} :
    x.map f = y.map f ↔ x = y := by
  cases x <;> cases y <;> simp [Except.map, hf.eq_iff]

/-- A list is treated element by element. -/
theorem mapM_cons_ok {f : α → Except ε β} {a : α} {l : List α} {r : List β}
    (h : (a :: l).mapM f = .ok r) : ∃ b bs, f a = .ok b ∧ l.mapM f = .ok bs ∧ r = b :: bs := by
  rw [List.mapM_cons] at h
  obtain ⟨b, hb, h⟩ := bind_ok h
  obtain ⟨bs, hbs, h⟩ := bind_ok h
  cases h
  exact ⟨b, bs, hb, hbs, rfl⟩

theorem mapM_cons_of_ok {f : α → Except ε β} {a : α} {b : β} {l : List α} {bs : List β}
    (ha : f a = .ok b) (hl : l.mapM f = .ok bs) : (a :: l).mapM f = .ok (b :: bs) := by
  rw [List.mapM_cons, ha, hl]
  rfl

/-- Two elements of a list, one after the other. -/
theorem map_mapM_pair {γ : Type} (f : α → Except ε β) (g : List β → γ) (x y : α) :
    ([x, y].mapM f).map g = do
      let a ← f x
      let b ← f y
      return g [a, b] := by
  rw [List.mapM_cons, List.mapM_cons]
  cases f x with
  | error e => rfl
  | ok a => cases f y <;> rfl

/-- Two computations from the same two parts that never have the same result are the same only if
one of the parts fails. -/
theorem bind_pair_eq_iff {γ : Type} {x : Except ε α} {y : Except ε β} {f g : α → β → γ}
    (hne : ∀ a b, y = .ok b → f a b ≠ g a b) :
    (do let a ← x; let b ← y; return f a b) = (do let a ← x; let b ← y; return g a b) ↔
      (∃ e, x = .error e) ∨ ∃ e, y = .error e := by
  cases x with
  | error e => exact iff_of_true rfl (.inl ⟨e, rfl⟩)
  | ok a =>
    cases y with
    | error e => exact iff_of_true rfl (.inr ⟨e, rfl⟩)
    | ok b => exact iff_of_false (fun h => hne a b rfl (Except.ok.inj h)) (by simp)

theorem mapM_ok_iff {f : α → Except ε β} {l : List α} {r : List β} :
    l.mapM f = .ok r ↔ List.Forall₂ (fun a b => f a = .ok b) l r := by
  constructor
  · intro h
    induction l generalizing r with
    | nil => cases h; exact .nil
    | cons a l ih =>
      obtain ⟨b, bs, hb, hbs, rfl⟩ := mapM_cons_ok h
      exact .cons hb (ih hbs)
  · intro h
    induction h with
    | nil => rfl
    | cons hb _ ih => exact mapM_cons_of_ok hb ih

theorem length_mapM_ok {f : α → Except ε β} {l : List α} {r : List β} (h : l.mapM f = .ok r) :
    r.length = l.length :=
  (mapM_ok_iff.mp h).length_eq.symm

theorem mapM_getElem {f : α → Except ε β} {l : List α} {r : List β} (h : l.mapM f = .ok r) {i : Nat}
    {a : α} (ha : l[i]? = some a) : ∃ b, r[i]? = some b ∧ f a = .ok b := by
  induction l generalizing r i with
  | nil => cases ha
  | cons a' l ih =>
    obtain ⟨b, bs, hb, hbs, rfl⟩ := mapM_cons_ok h
    cases i with
    | zero =>
      cases ha
      exact ⟨b, rfl, hb⟩
    | succ i => exact ih hbs ha

theorem mem_mapM_ok {f : α → Except ε β} {l : List α} {r : List β} (h : l.mapM f = .ok r) :
    ∀ b ∈ r, ∃ a ∈ l, f a = .ok b := by
  induction l generalizing r with
  | nil =>
    cases h
    simp
  | cons a l ih =>
    obtain ⟨b, bs, hb, hbs, rfl⟩ := mapM_cons_ok h
    rw [List.forall_mem_cons]
    refine ⟨⟨a, List.mem_cons_self, hb⟩, fun b' hb' => ?_⟩
    obtain ⟨a', ha', heq⟩ := ih hbs b' hb'
    exact ⟨a', List.mem_cons_of_mem a ha', heq⟩

/-- A list is given up at the first element that fails. -/
theorem mapM_error_iff {f : α → Except ε β} {l : List α} {e : ε} :
    l.mapM f = .error e ↔ ∃ before a after, l = before ++ a :: after ∧
      (∀ x ∈ before, ∃ b, f x = .ok b) ∧ f a = .error e := by
  constructor
  · intro h
    induction l with
    | nil => cases h
    | cons a l ih =>
      rw [List.mapM_cons] at h
      cases ha : f a with
      | error e' =>
        rw [ha] at h
        cases h
        exact ⟨[], a, l, rfl, nofun, ha⟩
      | ok b =>
        cases hl : l.mapM f with
        | error e' =>
          rw [ha, hl] at h
          cases h
          obtain ⟨before, a', after, rfl, hbefore, ha'⟩ := ih hl
          exact ⟨a :: before, a', after, rfl, List.forall_mem_cons.mpr ⟨⟨b, ha⟩, hbefore⟩, ha'⟩
        | ok bs =>
          rw [ha, hl] at h
          cases h
  · rintro ⟨before, a, after, rfl, hbefore, ha⟩
    induction before with
    | nil =>
      rw [List.nil_append, List.mapM_cons, ha]
      rfl
    | cons x before ih =>
      obtain ⟨⟨b, hb⟩, hbefore⟩ := List.forall_mem_cons.mp hbefore
      rw [List.cons_append, List.mapM_cons, hb, ih hbefore]
      rfl

theorem mapM_error {f : α → Except ε β} {l : List α} {e : ε} (h : l.mapM f = .error e) :
    ∃ a ∈ l, f a = .error e := by
  obtain ⟨before, a, after, rfl, -, ha⟩ := mapM_error_iff.mp h
  exact ⟨a, List.mem_append_right before List.mem_cons_self, ha⟩

/-- A list on which nothing fails. -/
theorem exists_mapM_ok {f : α → Except ε β} {l : List α} (h : ∀ a ∈ l, ∃ b, f a = .ok b) :
    ∃ r, l.mapM f = .ok r := by
  induction l with
  | nil => exact ⟨[], rfl⟩
  | cons a l ih =>
    rw [List.forall_mem_cons] at h
    obtain ⟨⟨b, hb⟩, hl⟩ := h
    obtain ⟨bs, hbs⟩ := ih hl
    exact ⟨b :: bs, mapM_cons_of_ok hb hbs⟩

/-- What every step keeps holds at the end. -/
theorem foldlM_keeps {P : β → Prop} {f : β → α → Except ε β} {l : List α}
    (h : ∀ b, P b → ∀ a ∈ l, ∀ b', f b a = .ok b' → P b') {b r : β} (hb : P b)
    (hr : l.foldlM f b = .ok r) : P r := by
  induction l generalizing b with
  | nil =>
    cases hr
    exact hb
  | cons a l ih =>
    rw [List.foldlM_cons] at hr
    obtain ⟨b', hb', hr⟩ := bind_ok hr
    exact ih (fun b hb a ha => h b hb a (List.mem_cons_of_mem _ ha))
      (h b hb a List.mem_cons_self b' hb') hr

end SqlCompose
