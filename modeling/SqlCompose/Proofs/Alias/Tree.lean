import Mathlib.Data.Nat.Init
import Mathlib.Tactic.SplitIfs
import SqlCompose.Alias.Tree

/-! The shape of alias trees. Every scope but the first is listed as a child of an earlier
one, so the search from the first scope meets all of them. -/

namespace SqlCompose.AliasTree

/-- The aliases of all scopes, in the order in which the scopes were opened. -/
def aliases (t : AliasTree) : List String :=
  t.scopes.map (·.aliasName)

@[simp] theorem length_aliases (t : AliasTree) : t.aliases.length = t.scopes.length := by
  simp [aliases]

@[simp] theorem aliases_withRoot (name : String) (counter : CounterId) :
    (withRoot name counter).aliases = [Text.lowercase name] := rfl

@[simp] theorem aliases_withCounter (t : AliasTree) (counter : CounterId) :
    (t.withCounter counter).aliases = t.aliases := rfl

/-- A new scope is the last one, and no other changes its alias. -/
@[simp] theorem aliases_addScope (t : AliasTree) (parent : Nat) (name : String) :
    (t.addScope parent name).aliases = t.aliases ++ [name] := by
  simp only [aliases, addScope, List.map_append, List.map_cons, List.map_nil]
  congr 1
  apply List.ext_getElem?
  intro i
  simp only [List.getElem?_map, List.getElem?_modify]
  cases t.scopes[i]? with
  | none => rfl
  | some node => by_cases h : parent = i <;> simp [h]

theorem aliasName_eq (t : AliasTree) (scope : Nat) :
    t.aliasName scope = (t.aliases[scope]?).getD "" := by
  simp [aliasName, aliases]

theorem getElem?_addScope_of_lt (t : AliasTree) (parent : Nat) (name : String) {i : Nat}
    (hi : i < t.scopes.length) :
    (t.addScope parent name).scopes[i]? =
      if parent = i then
        some { t.scopes[i] with children := t.scopes[i].children ++ [t.scopes.length] }
      else some t.scopes[i] := by
  simp only [addScope]
  rw [List.getElem?_append_left (by simpa using hi), List.getElem?_modify,
    List.getElem?_eq_getElem hi]
  by_cases hp : parent = i <;> simp [hp]

theorem getElem?_addScope_last (t : AliasTree) (parent : Nat) (name : String) :
    (t.addScope parent name).scopes[t.scopes.length]? = some ⟨name, []⟩ := by
  rw [addScope, List.getElem?_append_right (by simp)]
  simp

/-! ### Well-formed trees -/

/-- Children come after their parents, and every scope but the first is a child. -/
structure WellFormed (t : AliasTree) : Prop where
  nonempty : 0 < t.scopes.length
  ordered : ∀ (i : Nat) (node : AliasScope), t.scopes[i]? = some node →
    ∀ k ∈ node.children, i < k ∧ k < t.scopes.length
  covered : ∀ k, 0 < k → k < t.scopes.length →
    ∃ (i : Nat) (node : AliasScope), t.scopes[i]? = some node ∧ k ∈ node.children

theorem wellFormed_withRoot (name : String) (counter : CounterId) :
    (withRoot name counter).WellFormed where
  nonempty := by simp [withRoot]
  ordered i node h k hk := by
    match i, h with
    | 0, h => cases h; simp at hk
  covered k h0 hk := by
    simp only [withRoot, List.length_singleton] at hk
    omega

theorem WellFormed.withCounter {t : AliasTree} (h : t.WellFormed) (counter : CounterId) :
    (t.withCounter counter).WellFormed :=
  ⟨h.nonempty, h.ordered, h.covered⟩

@[simp] theorem length_addScope (t : AliasTree) (parent : Nat) (name : String) :
    (t.addScope parent name).scopes.length = t.scopes.length + 1 := by
  simp [addScope]

/-- A node of the extended tree: an old one, possibly with the new child, or the new one. -/
theorem addScope_node {t : AliasTree} {parent : Nat} {name : String} {i : Nat}
    {node : AliasScope} (h : (t.addScope parent name).scopes[i]? = some node) :
    (∃ old, t.scopes[i]? = some old ∧
      ∀ k ∈ node.children, k ∈ old.children ∨ k = t.scopes.length) ∨
    node.children = [] := by
  by_cases hi : i < t.scopes.length
  · left
    refine ⟨t.scopes[i], List.getElem?_eq_getElem hi, ?_⟩
    rw [getElem?_addScope_of_lt t parent name hi] at h
    split_ifs at h <;> cases h
    · simp
    · exact fun k hk => .inl hk
  · right
    have hlen := (List.getElem?_eq_some_iff.mp h).1
    rw [length_addScope] at hlen
    obtain rfl : i = t.scopes.length := by omega
    rw [getElem?_addScope_last] at h
    cases h
    rfl

theorem WellFormed.addScope {t : AliasTree} (h : t.WellFormed) {parent : Nat}
    (hp : parent < t.scopes.length) (name : String) : (t.addScope parent name).WellFormed where
  nonempty := by simp
  ordered i node hn k hk := by
    rw [length_addScope]
    rcases addScope_node hn with ⟨old, hold, hc⟩ | hc
    · rcases hc k hk with hk | rfl
      · have := h.ordered i old hold k hk
        omega
      · have := (List.getElem?_eq_some_iff.mp hold).1
        omega
    · simp [hc] at hk
  covered k h0 hk := by
    rw [length_addScope] at hk
    by_cases hlast : k = t.scopes.length
    · -- the new scope hangs below `parent`
      refine ⟨parent, _, (getElem?_addScope_of_lt t parent name hp).trans (if_pos rfl), ?_⟩
      simp [hlast]
    · obtain ⟨i, node, hn, hc⟩ := h.covered k h0 (by omega)
      have hi := (List.getElem?_eq_some_iff.mp hn).1
      have hnode : t.scopes[i] = node := (List.getElem?_eq_some_iff.mp hn).2
      rw [← hnode] at hc
      by_cases hpi : parent = i
      · exact ⟨i, _, (getElem?_addScope_of_lt t parent name hi).trans (if_pos hpi),
          List.mem_append_left _ hc⟩
      · exact ⟨i, _, (getElem?_addScope_of_lt t parent name hi).trans (if_neg hpi), hc⟩

/-! ### The search -/

theorem search_succ {t : AliasTree} {name : String} {scope : Nat} {node : AliasScope}
    (h : t.scopes[scope]? = some node) (depth : Nat) :
    t.search name (depth + 1) scope =
      (node.aliasName == name || node.children.any (t.search name depth)) := by
  rw [search, h]

theorem search_mono {t : AliasTree} {name : String} {depth scope : Nat}
    (h : t.search name depth scope = true) : t.search name (depth + 1) scope = true := by
  induction depth generalizing scope with
  | zero => simp [search] at h
  | succ depth ih =>
    cases hn : t.scopes[scope]? with
    | none => simp [search, hn] at h
    | some node =>
      rw [search_succ hn] at h ⊢
      rcases Bool.or_eq_true_iff.mp h with h | h
      · simp [h]
      · obtain ⟨k, hk, hs⟩ := List.any_eq_true.mp h
        rw [List.any_eq_true.mpr ⟨k, hk, ih hs⟩, Bool.or_true]

theorem search_le {t : AliasTree} {name : String} {depth more scope : Nat}
    (h : t.search name depth scope = true) (hle : depth ≤ more) :
    t.search name more scope = true := by
  induction more, hle using Nat.le_induction with
  | base => exact h
  | succ _ _ ih => exact search_mono ih

/-- What is found below a scope is found from the root: each step up to a parent costs one
level of depth and makes the number of the scope smaller. -/
theorem search_root {t : AliasTree} (h : t.WellFormed) {name : String} (scope : Nat) :
    ∀ depth, scope < t.scopes.length → t.search name depth scope = true →
      t.search name (depth + scope) 0 = true := by
  induction scope using Nat.strong_induction_on with
  | _ scope ih =>
    intro depth hlt hs
    rcases Nat.eq_zero_or_pos scope with rfl | hpos
    · exact hs
    · obtain ⟨i, node, hn, hc⟩ := h.covered scope hpos hlt
      have hi := (h.ordered i node hn scope hc).1
      have hup : t.search name (depth + 1) i = true := by
        rw [search_succ hn, List.any_eq_true.mpr ⟨scope, hc, hs⟩, Bool.or_true]
      exact search_le (ih i hi (depth + 1) (by omega) hup) (by omega)

theorem exists_of_search {t : AliasTree} {name : String} {depth scope : Nat}
    (h : t.search name depth scope = true) : name ∈ t.aliases := by
  induction depth generalizing scope with
  | zero => simp [search] at h
  | succ depth ih =>
    cases hn : t.scopes[scope]? with
    | none => simp [search, hn] at h
    | some node =>
      rw [search_succ hn] at h
      rcases Bool.or_eq_true_iff.mp h with h | h
      · rw [← eq_of_beq h]
        exact List.mem_map_of_mem (List.mem_of_getElem? hn)
      · obtain ⟨k, -, hs⟩ := List.any_eq_true.mp h
        exact ih hs

/-- The search tells exactly whether some scope has the alias. -/
theorem isTaken_iff {t : AliasTree} (h : t.WellFormed) (name : String) :
    t.isTaken name = true ↔ name ∈ t.aliases := by
  constructor
  · exact exists_of_search
  · intro hm
    obtain ⟨node, hnode, rfl⟩ := List.mem_map.mp hm
    obtain ⟨i, hi, rfl⟩ := List.getElem_of_mem hnode
    have hs : t.search (t.scopes[i].aliasName) 1 i = true := by
      rw [search_succ (List.getElem?_eq_getElem hi)]
      simp
    exact search_le (search_root h i 1 hi hs) (by omega)

end SqlCompose.AliasTree
