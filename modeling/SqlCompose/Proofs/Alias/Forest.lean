import Mathlib.Data.List.Perm.Basic
import SqlCompose.Proofs.Alias.Retries

/-! Scopes as a tree. The scopes of a query are kept in a list, each with the numbers of those that
were opened in it. Drawn from the query down they make up a tree: a new scope becomes a leaf of it,
and no scope is met twice or left out. So a search that goes down the children meets every alias
and comes to an end. -/

namespace SqlCompose

/-- Trees of scopes side by side: the first one, as its root and what is below it, and the rest. -/
inductive Forest where
  | nil
  | tree (root : Nat) (below rest : Forest)

namespace Forest

/-- The roots of the trees. -/
def roots : Forest → List Nat
  | nil => []
  | tree root _ rest => root :: rest.roots

/-- All scopes, those below a scope right after it. -/
def scopes : Forest → List Nat
  | nil => []
  | tree root below rest => root :: (below.scopes ++ rest.scopes)

/-- One more tree at the end, a single scope. -/
def addLast (scope : Nat) : Forest → Forest
  | nil => tree scope nil nil
  | tree root below rest => tree root below (rest.addLast scope)

/-- One more scope in `parent`, as its last child. -/
def addChild (parent scope : Nat) : Forest → Forest
  | nil => nil
  | tree root below rest =>
    tree root
      (if root = parent then (below.addChild parent scope).addLast scope
        else below.addChild parent scope)
      (rest.addChild parent scope)

@[simp] theorem roots_addLast (scope : Nat) (f : Forest) :
    (f.addLast scope).roots = f.roots ++ [scope] := by
  induction f with
  | nil => rfl
  | tree root below rest _ ih => exact congrArg (root :: ·) ih

@[simp] theorem scopes_addLast (scope : Nat) (f : Forest) :
    (f.addLast scope).scopes = f.scopes ++ [scope] := by
  induction f with
  | nil => rfl
  | tree root below rest _ ih =>
    rw [addLast, scopes, ih, scopes, List.cons_append, List.append_assoc]

@[simp] theorem roots_addChild (parent scope : Nat) (f : Forest) :
    (f.addChild parent scope).roots = f.roots := by
  induction f with
  | nil => rfl
  | tree root below rest _ ih => exact congrArg (root :: ·) ih

/-- The new scope is met as often as its parent is, and every other one as often as before. -/
theorem count_addChild (parent scope k : Nat) (f : Forest) :
    (f.addChild parent scope).scopes.count k =
      f.scopes.count k + if k = scope then f.scopes.count parent else 0 := by
  induction f with
  | nil => simp [addChild, scopes]
  | tree root below rest ihbelow ihrest =>
    by_cases hroot : root = parent
    · simp only [addChild, if_pos hroot, scopes, scopes_addLast, List.count_append,
        List.count_cons, List.count_nil, ihbelow, ihrest]
      by_cases hk : k = scope
      · simp [hk, hroot]
        omega
      · simp [hk, Ne.symm hk]
    · simp only [addChild, if_neg hroot, scopes, List.count_append, List.count_cons, ihbelow,
        ihrest]
      by_cases hk : k = scope
      · simp [hk, hroot]
        omega
      · simp [hk]

/-- In a scope that is met once a new one is met once, and none is lost. -/
theorem perm_addChild {f : Forest} {opened : List Nat} (h : f.scopes.Perm opened)
    (hnodup : opened.Nodup) {parent : Nat} (hp : parent ∈ opened) (scope : Nat) :
    (f.addChild parent scope).scopes.Perm (opened ++ [scope]) := by
  have honce : f.scopes.count parent = 1 := by
    rw [h.count_eq, List.count_eq_one_of_mem hnodup hp]
  rw [List.perm_iff_count]
  intro k
  rw [count_addChild, honce, h.count_eq, List.count_append]
  by_cases hk : k = scope
  · simp [hk]
  · simp [hk, Ne.symm hk]

/-! ### Forests and lists of children -/

/-- The children of every scope are the roots below it. -/
def Draws (t : AliasTree) : Forest → Prop
  | nil => True
  | tree root below rest =>
    (∃ node, t.scopes[root]? = some node ∧ node.children = below.roots) ∧
      below.Draws t ∧ rest.Draws t

/-- Lists of children can be drawn in one way only. -/
theorem Draws.unique {t : AliasTree} {f g : Forest} (hf : f.Draws t) (hg : g.Draws t)
    (hroots : f.roots = g.roots) : f = g := by
  induction f generalizing g with
  | nil =>
    cases g with
    | nil => rfl
    | tree => cases hroots
  | tree root below rest ihbelow ihrest =>
    cases g with
    | nil => cases hroots
    | tree root' below' rest' =>
      obtain ⟨rfl, hrest⟩ := List.cons.inj hroots
      obtain ⟨⟨node, hnode, hchildren⟩, hfbelow, hfrest⟩ := hf
      obtain ⟨⟨node', hnode', hchildren'⟩, hgbelow, hgrest⟩ := hg
      cases hnode.symm.trans hnode'
      rw [ihbelow hfbelow hgbelow (hchildren.symm.trans hchildren'), ihrest hfrest hgrest hrest]

theorem Draws.withCounter {t : AliasTree} {f : Forest} (h : f.Draws t) (counter : CounterId) :
    f.Draws (t.withCounter counter) := by
  induction f with
  | nil => trivial
  | tree root below rest ihbelow ihrest => exact ⟨h.1, ihbelow h.2.1, ihrest h.2.2⟩

theorem Draws.addLast {t : AliasTree} {f : Forest} (h : f.Draws t) {scope : Nat}
    {node : AliasScope} (hnode : t.scopes[scope]? = some node) (hleaf : node.children = []) :
    (f.addLast scope).Draws t := by
  induction f with
  | nil => exact ⟨⟨node, hnode, hleaf⟩, trivial, trivial⟩
  | tree root below rest _ ih => exact ⟨h.1, h.2.1, ih h.2.2⟩

/-- A scope that is opened in a tree becomes a leaf of its drawing. -/
theorem Draws.addScope {t : AliasTree} {f : Forest} (h : f.Draws t) (parent : Nat)
    (name : String) : (f.addChild parent t.nextScope).Draws (t.addScope parent name) := by
  have hnew := AliasTree.getElem?_addScope_last t parent name
  induction f with
  | nil => trivial
  | tree root below rest ihbelow ihrest =>
    obtain ⟨⟨node, hnode, hchildren⟩, hbelow, hrest⟩ := h
    obtain ⟨hlt, rfl⟩ := List.getElem?_eq_some_iff.mp hnode
    have hroot := AliasTree.getElem?_addScope_of_lt t parent name hlt
    rw [addChild]
    by_cases hparent : root = parent
    · rw [if_pos hparent.symm] at hroot
      rw [if_pos hparent]
      refine ⟨⟨_, hroot, ?_⟩, (ihbelow hbelow).addLast hnew rfl, ihrest hrest⟩
      rw [roots_addLast, roots_addChild, ← hchildren]
      rfl
    · rw [if_neg (Ne.symm hparent)] at hroot
      rw [if_neg hparent]
      exact ⟨⟨_, hroot, hchildren.trans (roots_addChild ..).symm⟩, ihbelow hbelow, ihrest hrest⟩

end Forest

namespace AliasTree

/-! ### Trees of opened scopes -/

/-- Trees that come about by opening scopes, with the scopes that were opened so far: the query
itself, and then one after the other, each in one that was opened before. -/
inductive Opened : AliasTree → List Nat → Prop
  | withRoot (name : String) (counter : CounterId) : Opened (withRoot name counter) [0]
  | withCounter {t : AliasTree} {opened : List Nat} (h : Opened t opened) (counter : CounterId) :
      Opened (t.withCounter counter) opened
  | allocate {t : AliasTree} {opened : List Nat} (h : Opened t opened) {parent : Nat}
      (hp : parent ∈ opened) (proposal : String) (cs : Counters) :
      Opened (t.allocate parent proposal cs).1 (opened ++ [t.nextScope])

variable {t : AliasTree} {opened : List Nat}

theorem Opened.eq_range (h : t.Opened opened) : opened = List.range t.scopes.length := by
  induction h with
  | withRoot => rfl
  | withCounter _ _ ih => exact ih
  | @allocate t opened _ parent _ proposal cs ih =>
    have hlength : (t.allocate parent proposal cs).1.scopes.length = t.scopes.length + 1 :=
      length_addScope ..
    rw [ih, hlength, List.range_succ, nextScope]

theorem Opened.reachable (h : t.Opened opened) : t.Reachable := by
  induction h with
  | withRoot name counter => exact .withRoot name counter
  | withCounter _ counter ih => exact .withCounter ih counter
  | allocate h hp proposal cs ih =>
    rw [h.eq_range, List.mem_range] at hp
    exact .allocate ih hp proposal cs

/-- The scopes are drawn as one tree below the query, each of them once. -/
theorem Opened.exists_forest (h : t.Opened opened) :
    ∃ below : Forest, (Forest.tree 0 below .nil).Draws t ∧
      (Forest.tree 0 below .nil).scopes.Perm opened := by
  induction h with
  | withRoot name counter => exact ⟨.nil, ⟨⟨_, rfl, rfl⟩, trivial, trivial⟩, .refl _⟩
  | withCounter _ counter ih =>
    obtain ⟨below, hdraws, hperm⟩ := ih
    exact ⟨below, hdraws.withCounter counter, hperm⟩
  | @allocate t opened h parent hp proposal cs ih =>
    obtain ⟨below, hdraws, hperm⟩ := ih
    have hnodup : opened.Nodup := h.eq_range ▸ List.nodup_range
    exact ⟨_, hdraws.addScope parent _, Forest.perm_addChild hperm hnodup hp t.nextScope⟩

/-- The lists of children of opened scopes are those of one tree and no other. Its root is the query
itself, and it contains every scope once. Children have greater numbers than their parents. A
search for an alias that goes down the children from the query ends, with one answer only: whether
some scope has the alias. -/
theorem scopes_form_tree (h : t.Opened opened) :
    (∃ below : Forest,
      (∀ f : Forest, f.roots = [0] ∧ f.Draws t ↔ f = .tree 0 below .nil) ∧
      (Forest.tree 0 below .nil).scopes.Perm opened) ∧
    opened = List.range t.scopes.length ∧
    (∀ (parent : Nat) (node : AliasScope), t.scopes[parent]? = some node →
      ∀ child ∈ node.children, parent < child) ∧
    ∀ name, (∀ found, t.Walk name 0 found ↔ found = t.isTaken name) ∧
      (t.isTaken name = true ↔ ∃ node ∈ t.scopes, node.aliasName = name) := by
  have hwf := h.reachable.wellFormed
  obtain ⟨below, hdraws, hperm⟩ := h.exists_forest
  refine ⟨⟨below, fun f => ⟨fun hf => ?_, ?_⟩, hperm⟩, h.eq_range,
    fun parent node hnode child hchild => (hwf.ordered parent node hnode child hchild).1,
    fun name => ⟨fun found => ⟨fun hwalk => ?_, ?_⟩, ?_⟩⟩
  · exact hf.2.unique hdraws hf.1
  · rintro rfl
    exact ⟨rfl, hdraws⟩
  · exact hwalk.unique (walk_isTaken hwf name)
  · rintro rfl
    exact walk_isTaken hwf name
  · rw [isTaken_iff hwf, aliases, List.mem_map]

/-- Scopes opened in the query, in the first of them and in the query again. The second has the name
of the first. -/
theorem scopes_form_tree_of_joins :
    let cs : Counters := ⟨[]⟩
    let t := ((withRoot "e" .shared).allocate 0 "d" cs).1
    let u := ((t.allocate 1 "D" cs).1.allocate 0 "x" cs).1
    let drawing : Forest := .tree 0 (.tree 1 (.tree 2 .nil .nil) (.tree 3 .nil .nil)) .nil
    u.Opened [0, 1, 2, 3] ∧ u.aliases = ["e", "d", "d1", "x"] ∧
    (∀ f : Forest, f.roots = [0] ∧ f.Draws u ↔ f = drawing) ∧
    drawing.scopes.Perm [0, 1, 2, 3] ∧ u.Walk "x" 0 true ∧ u.Walk "d2" 0 false := by
  intro cs t u drawing
  have ht : t.Opened [0, 1] := .allocate (.withRoot "e" .shared) (by decide) "d" cs
  have hu : u.Opened [0, 1, 2, 3] :=
    .allocate (.allocate ht (by decide) "D" cs) (by decide) "x" cs
  have hdrawing : drawing.Draws u :=
    ⟨⟨_, rfl, rfl⟩, ⟨⟨_, rfl, rfl⟩, ⟨⟨_, rfl, rfl⟩, trivial, trivial⟩, ⟨_, rfl, rfl⟩, trivial,
      trivial⟩, trivial⟩
  obtain ⟨⟨below, hdraws, hperm⟩, -, -, hsearch⟩ := scopes_form_tree hu
  have hbelow : drawing = .tree 0 below .nil := (hdraws drawing).mp ⟨rfl, hdrawing⟩
  rw [← hbelow] at hperm
  simp only [← hbelow] at hdraws
  exact ⟨hu, by decide +kernel, hdraws, hperm, ((hsearch "x").1 true).mpr (by decide +kernel),
    ((hsearch "d2").1 false).mpr (by decide +kernel)⟩

end AliasTree

end SqlCompose
