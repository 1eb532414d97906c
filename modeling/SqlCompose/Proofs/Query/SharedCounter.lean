import Mathlib.Data.List.DropRight
import Mathlib.Logic.Function.Basic
import SqlCompose.Proofs.Alias.Retries
import SqlCompose.Proofs.Query.Aliases
import SqlCompose.Script.Run

/-! Queries that share a counter. The counter is asked only when the name that is proposed for a
scope is taken in the scope's own query, so its numbers tell apart the scopes for which one query
gets the same proposal, but the first of them has the proposal itself as its alias, in every query.
Two queries have an alias in common if they have a proposal in common, and hardly ever
otherwise. -/

namespace SqlCompose

/-! ### Single allocations -/

namespace AliasTree

variable (t : AliasTree) (base : String) (tries : Nat) (cs : Counters)

/-- The search ends with its first candidate, or with a number that it took. -/
theorem firstFree_cases (candidate : String) :
    (t.firstFree base tries candidate cs).1 = candidate ∨
      ∃ n ∈ t.numbersTaken base tries candidate cs,
        (t.firstFree base tries candidate cs).1 = base ++ toString n.toNat := by
  induction tries generalizing candidate cs with
  | zero => exact .inl rfl
  | succ tries ih =>
    rw [firstFree, numbersTaken]
    split
    · refine .inr ?_
      rcases ih (cs.take t.counter).2 (base ++ toString (cs.take t.counter).1.toNat) with
        hfirst | ⟨n, hn, hname⟩
      · exact ⟨_, List.mem_cons_self, hfirst⟩
      · exact ⟨n, List.mem_cons_of_mem _ hn, hname⟩
    · exact .inl rfl

/-- A proposal is not passed over unless a scope has it. -/
theorem firstFree_eq_or_mem :
    (t.firstFree base tries base cs).1 = base ∨ base ∈ t.aliases := by
  cases tries with
  | zero => exact .inl rfl
  | succ tries =>
    by_cases h : t.isTaken base = true
    · exact .inr (exists_of_search h)
    · rw [firstFree, if_neg h]
      exact .inl rfl

end AliasTree

/-! ### Workspaces -/

/-- Queries under construction that take their numbers from one counter. Each is given by the scope
that is being filled, its own or that of a join in it, which holds the tree of its aliases.
`proposals` are the names that were proposed for its scopes, in lower case, and `taken` the numbers
that the counter has given, with the query for which each of them was taken, if it was one of
these. -/
structure Workspace (ι : Type) where
  scope : ι → QueryScope
  counters : Counters
  proposals : ι → List String
  taken : List (Option ι × UInt64) := []

namespace Workspace

variable {ι : Type}

/-- The aliases of all scopes of a query. -/
def aliases (w : Workspace ι) (i : ι) : List String :=
  (w.scope i).tree.aliases

/-- A new query in the place of another. -/
def create [DecidableEq ι] (w : Workspace ι) (i : ι) (schema : Schema) (model : Model)
    (aliasName : String) (counter : CounterId) : Workspace ι :=
  { w with
    scope := Function.update w.scope i (Query.aliased schema model aliasName counter).scope
    proposals := Function.update w.proposals i [Text.lowercase aliasName] }

/-- Opens a join in a query, which goes on in the join's scope. -/
def openJoin [DecidableEq ι] (w : Workspace ι) (i : ι) (kind : JoinKind) (model : Model)
    (proposal : String) : Workspace ι :=
  let (j, counters) := (w.scope i).openJoin kind model proposal w.counters
  let base := Text.lowercase proposal
  let tree := (w.scope i).tree
  let numbers := tree.numbersTaken base tree.scopes.length base w.counters
  { scope := Function.update w.scope i j.scope
    counters
    proposals := Function.update w.proposals i (w.proposals i ++ [base])
    taken := w.taken ++ numbers.map (some i, ·) }

/-- Queries created and extended in any interleaving, all with the given counter. A call that opens
no scope, or that closes one, goes on in some scope with the same tree of aliases. The counter may
be used by others, and so may other counters. -/
inductive Reachable [DecidableEq ι] (counter : CounterId) : Workspace ι → Prop
  | start (heads : ι → Schema × Model × String) (counters : Counters) :
      Reachable counter
        { scope i :=
            (Query.aliased (heads i).1 (heads i).2.1 (heads i).2.2 counter).scope
          counters
          proposals i := [Text.lowercase (heads i).2.2] }
  | create {w : Workspace ι} (h : Reachable counter w) (i : ι) (schema : Schema) (model : Model)
      (aliasName : String) : Reachable counter (w.create i schema model aliasName counter)
  | openJoin {w : Workspace ι} (h : Reachable counter w) (i : ι) (kind : JoinKind) (model : Model)
      (proposal : String) : Reachable counter (w.openJoin i kind model proposal)
  | call {w : Workspace ι} (h : Reachable counter w) (i : ι) (q : QueryScope)
      (hq : q.tree = (w.scope i).tree) :
      Reachable counter { w with scope := Function.update w.scope i q }
  | take {w : Workspace ι} (h : Reachable counter w) :
      Reachable counter
        { w with
          counters := (w.counters.take counter).2
          taken := w.taken ++ [(none, (w.counters.take counter).1)] }
  | elsewhere {w : Workspace ι} (h : Reachable counter w) (counters : Counters)
      (hc : counters.peek counter = w.counters.peek counter) :
      Reachable counter { w with counters }

/-- An alias comes from a proposal: it is the proposal itself, or has a number taken for it. -/
def Named (taken : List (Option ι × UInt64)) (i : ι) (proposal name : String) : Prop :=
  name = proposal ∨ ∃ n, (some i, n) ∈ taken ∧ name = proposal ++ toString n.toNat

theorem Named.mono {taken taken' : List (Option ι × UInt64)} (h : taken ⊆ taken') {i : ι}
    {proposal name : String} (hn : Named taken i proposal name) :
    Named taken' i proposal name := by
  refine hn.imp_right ?_
  rintro ⟨n, hn, hname⟩
  exact ⟨n, h hn, hname⟩

/-- What holds of the queries at any time, with the number that the counter gave first. -/
structure Coherent (counter : CounterId) (first : UInt64) (w : Workspace ι) : Prop where
  counter_eq : ∀ i, (w.scope i).tree.counter = counter
  taken_eq : w.taken.map Prod.snd = Counters.numbersFrom first w.taken.length
  peek_eq : w.counters.peek counter = first + UInt64.ofNat w.taken.length
  named : ∀ i, List.Forall₂ (Named w.taken i) (w.proposals i) (w.aliases i)
  proposed : ∀ i, w.proposals i ⊆ w.aliases i

namespace Coherent

variable {counter : CounterId} {first : UInt64} {w : Workspace ι}

/-- The counter gives some numbers, for queries of the workspace or for others. -/
theorem advance (h : w.Coherent counter first) (cs : Counters) (new : List (Option ι × UInt64))
    (hnew : new.map Prod.snd = Counters.numbersFrom (w.counters.peek counter) new.length)
    (hpeek : cs.peek counter = w.counters.peek counter + UInt64.ofNat new.length) :
    Coherent counter first { w with counters := cs, taken := w.taken ++ new } where
  counter_eq := h.counter_eq
  taken_eq := by
    rw [List.map_append, h.taken_eq, hnew, h.peek_eq, List.length_append, Counters.numbersFrom_add]
  peek_eq := by
    rw [hpeek, h.peek_eq, List.length_append, UInt64.ofNat_add, UInt64.add_assoc]
  named i := (h.named i).imp fun p name => Named.mono (List.subset_append_left ..)
  proposed := h.proposed

/-- A query is filled in another scope, or replaced. -/
theorem update [DecidableEq ι] (h : w.Coherent counter first) (i : ι) (q : QueryScope)
    (proposals : List String) (hcounter : q.tree.counter = counter)
    (hnamed : List.Forall₂ (Named w.taken i) proposals q.tree.aliases)
    (hproposed : proposals ⊆ q.tree.aliases) :
    Coherent counter first
      { w with
        scope := Function.update w.scope i q
        proposals := Function.update w.proposals i proposals } := by
  refine ⟨fun j => ?_, h.taken_eq, h.peek_eq, fun j => ?_, fun j => ?_⟩
  all_goals
    rcases eq_or_ne j i with rfl | hj
  · simpa using hcounter
  · simpa [hj] using h.counter_eq j
  · simpa [aliases] using hnamed
  · simpa [aliases, hj] using h.named j
  · simpa [aliases] using hproposed
  · simpa [aliases, hj] using h.proposed j

theorem openJoin [DecidableEq ι] (h : w.Coherent counter first) (i : ι) (kind : JoinKind)
    (model : Model) (proposal : String) :
    (w.openJoin i kind model proposal).Coherent counter first := by
  let base := Text.lowercase proposal
  let t := (w.scope i).tree
  let numbers := t.numbersTaken base t.scopes.length base w.counters
  let found := t.firstFree base t.scopes.length base w.counters
  have hcounter : t.counter = counter := h.counter_eq i
  have hnumbers : numbers = Counters.numbersFrom (w.counters.peek counter) numbers.length :=
    hcounter ▸ t.numbersTaken_eq base t.scopes.length base w.counters
  have hpeek : found.2.peek counter = w.counters.peek counter + UInt64.ofNat numbers.length :=
    hcounter ▸ (t.peek_firstFree base t.scopes.length base w.counters).1
  have hadvance := h.advance found.2 (numbers.map (some i, ·))
    (by rw [List.map_map, List.length_map]; exact (List.map_id' numbers).trans hnumbers)
    (by rw [List.length_map]; exact hpeek)
  have haliases : ((w.scope i).openJoin kind model proposal w.counters).1.scope.tree.aliases =
      t.aliases ++ [found.1] := AliasTree.aliases_addScope ..
  have hnamed : Named (w.taken ++ numbers.map (some i, ·)) i base found.1 := by
    refine (t.firstFree_cases base t.scopes.length w.counters base).imp_right ?_
    rintro ⟨n, hn, hname⟩
    exact ⟨n, List.mem_append_right _ (List.mem_map_of_mem hn), hname⟩
  have hproposed : base ∈ t.aliases ++ [found.1] := by
    rcases t.firstFree_eq_or_mem base t.scopes.length w.counters with heq | hmem
    · exact List.mem_append_right _ (List.mem_singleton.mpr heq.symm)
    · exact List.mem_append_left _ hmem
  refine hadvance.update i ((w.scope i).openJoin kind model proposal w.counters).1.scope
    (w.proposals i ++ [base]) (h.counter_eq i) ?_ ?_
  · rw [haliases]
    exact List.rel_append (hadvance.named i) (.cons hnamed .nil)
  · rw [haliases, List.append_subset]
    exact ⟨List.subset_append_of_subset_left _ (h.proposed i), by simpa using hproposed⟩

end Coherent

theorem Reachable.coherent [DecidableEq ι] {counter : CounterId} {w : Workspace ι}
    (h : w.Reachable counter) : ∃ first, w.Coherent counter first := by
  induction h with
  | start heads counters =>
    refine ⟨counters.peek counter, fun i => rfl, rfl, by simp, fun i => ?_, fun i => ?_⟩
    · exact .cons (.inl rfl) .nil
    · exact List.Subset.refl _
  | create h i schema model aliasName ih =>
    obtain ⟨first, ih⟩ := ih
    exact ⟨first, ih.update i _ _ rfl (.cons (.inl rfl) .nil) (List.Subset.refl _)⟩
  | openJoin h i kind model proposal ih =>
    obtain ⟨first, ih⟩ := ih
    exact ⟨first, ih.openJoin i kind model proposal⟩
  | @call w h i q hq ih =>
    obtain ⟨first, ih⟩ := ih
    have hnext := ih.update i q (w.proposals i)
      (hq ▸ ih.counter_eq i) (by rw [hq]; exact ih.named i) (by rw [hq]; exact ih.proposed i)
    rw [Function.update_eq_self] at hnext
    exact ⟨first, hnext⟩
  | @take w h ih =>
    obtain ⟨first, ih⟩ := ih
    exact ⟨first, ih.advance _ _ (by simp [Counters.take, Counters.numbersFrom])
      (w.counters.peek_take counter)⟩
  | elsewhere h counters hc ih =>
    obtain ⟨first, ih⟩ := ih
    exact ⟨first, ih.counter_eq, ih.taken_eq, hc.trans ih.peek_eq, ih.named, ih.proposed⟩

/-! ### Common aliases -/

/-- A name without the digits at its end. -/
def stem (name : String) : List Char :=
  name.toList.rdropWhile Char.isDigit

theorem stem_append_number (name : String) (n : Nat) : stem (name ++ toString n) = stem name := by
  rw [stem, stem, String.toList_append, List.rdropWhile, List.rdropWhile, List.reverse_append]
  refine congrArg List.reverse (List.dropWhile_append_of_pos fun c hc => ?_)
  rw [List.mem_reverse] at hc
  have hdigits : (toString n).toList = Nat.toDigits 10 n := Nat.toList_repr
  rw [hdigits] at hc
  exact Nat.isDigit_of_mem_toDigits (by decide) (by decide) hc

theorem Named.stem_eq {taken : List (Option ι × UInt64)} {i : ι} {proposal name : String}
    (h : Named taken i proposal name) : stem name = stem proposal := by
  rcases h with rfl | ⟨n, -, rfl⟩
  · rfl
  · exact stem_append_number proposal n.toNat

namespace Coherent

variable {counter : CounterId} {first : UInt64} {w : Workspace ι} (h : w.Coherent counter first)

include h

/-- The counter gives no number twice before it has come round. -/
theorem nodup_taken (hw : w.taken.length ≤ UInt64.size) : (w.taken.map Prod.snd).Nodup :=
  h.taken_eq ▸ Counters.nodup_numbersFrom first hw

/-- With a number, the same proposal becomes different names in different queries. -/
theorem eq_proposal (hw : w.taken.length ≤ UInt64.size) {i j : ι} (hij : i ≠ j)
    {proposal name : String} (hi : Named w.taken i proposal name)
    (hj : Named w.taken j proposal name) : name = proposal := by
  rcases hi with hi | ⟨m, hm, hi⟩
  · exact hi
  rcases hj with hj | ⟨n, hn, hj⟩
  · exact hj
  have hnumber : m = n := by
    rw [hi] at hj
    exact UInt64.toNat_inj.mp (AliasTree.repr_injective ((String.append_right_inj _).mp hj))
  subst hnumber
  have hsame := List.inj_on_of_nodup_map (h.nodup_taken hw) hm hn rfl
  exact absurd (Option.some.inj (congrArg Prod.fst hsame)) hij

theorem exists_proposal {i : ι} {name : String} (hname : name ∈ w.aliases i) :
    ∃ proposal ∈ w.proposals i, Named w.taken i proposal name := by
  have hnamed := h.named i
  generalize w.proposals i = proposals, w.aliases i = names at hname hnamed ⊢
  induction hnamed with
  | nil => cases hname
  | @cons proposal first' proposals _ hfirst _ ih =>
    rcases List.mem_cons.mp hname with rfl | hname
    · exact ⟨proposal, List.mem_cons_self, hfirst⟩
    · obtain ⟨p, hp, hname⟩ := ih hname
      exact ⟨p, List.mem_cons_of_mem _ hp, hname⟩

end Coherent

/-- Two queries with one counter, created and extended in any interleaving, before the counter has
come round. Whatever is proposed in both of them is an alias of both. Two scopes that got the same
proposal have the same alias only if neither has a number. And unless two proposals differ in the
digits at their ends alone, which a number could make up for, the queries have an alias in common if
and only if they have a proposal in common. -/
theorem aliases_shared_iff [DecidableEq ι] {counter : CounterId} {w : Workspace ι}
    (h : w.Reachable counter) (hw : w.taken.length ≤ UInt64.size) {i j : ι} (hij : i ≠ j) :
    (∀ k, (w.proposals k).length = (w.aliases k).length) ∧
    (∀ p ∈ w.proposals i, p ∈ w.proposals j → p ∈ w.aliases i ∧ p ∈ w.aliases j) ∧
    (∀ p a, (p, a) ∈ (w.proposals i).zip (w.aliases i) →
      (p, a) ∈ (w.proposals j).zip (w.aliases j) → a = p) ∧
    ((∀ p ∈ w.proposals i, ∀ p' ∈ w.proposals j, stem p = stem p' → p = p') →
      ((∃ a ∈ w.aliases i, a ∈ w.aliases j) ↔ ∃ p ∈ w.proposals i, p ∈ w.proposals j)) := by
  obtain ⟨first, h⟩ := h.coherent
  have hshared : ∀ p ∈ w.proposals i, p ∈ w.proposals j → p ∈ w.aliases i ∧ p ∈ w.aliases j :=
    fun p hi hj => ⟨h.proposed i hi, h.proposed j hj⟩
  refine ⟨fun k => (h.named k).length_eq, hshared, fun p a hi hj => ?_, fun hstem => ⟨?_, ?_⟩⟩
  · exact h.eq_proposal hw hij ((List.forall₂_iff_zip.mp (h.named i)).2 hi)
      ((List.forall₂_iff_zip.mp (h.named j)).2 hj)
  · rintro ⟨a, hi, hj⟩
    obtain ⟨p, hp, hnamed⟩ := h.exists_proposal hi
    obtain ⟨p', hp', hnamed'⟩ := h.exists_proposal hj
    obtain rfl := hstem p hp p' hp' (hnamed.stem_eq.symm.trans hnamed'.stem_eq)
    exact ⟨p, hp, hp'⟩
  · rintro ⟨p, hi, hj⟩
    exact ⟨p, hshared p hi hj⟩

/-- Two queries on one table that take turns in joining it to itself. The second scopes of the two
have different numbers, but the first have the same alias. -/
theorem aliases_shared_iff_of_turns :
    let employee : Model := { typeName := "Employee", table := "Employee" }
    let start : Workspace Bool :=
      { scope _ := (Query.aliased ⟨[]⟩ employee "Emp" .shared).scope
        counters := ⟨[]⟩
        proposals _ := [Text.lowercase "Emp"] }
    let w := ((start.openJoin false .inner employee "Emp").openJoin true .left employee "Emp")
    w.aliases false = ["emp", "emp1"] ∧ w.aliases true = ["emp", "emp2"] ∧
    w.Reachable .shared ∧ w.taken.length ≤ UInt64.size ∧ false ≠ true ∧
    ((∃ a ∈ w.aliases false, a ∈ w.aliases true) ↔
      ∃ p ∈ w.proposals false, p ∈ w.proposals true) := by
  intro employee start w
  have h : w.Reachable .shared :=
    ((Reachable.start (fun _ => (⟨[]⟩, employee, "Emp")) ⟨[]⟩).openJoin false .inner employee
      "Emp").openJoin true .left employee "Emp"
  have hw : w.taken.length ≤ UInt64.size := by decide +kernel
  have hstem : ∀ p ∈ w.proposals false, ∀ p' ∈ w.proposals true, stem p = stem p' → p = p' := by
    decide +kernel
  exact ⟨by decide +kernel, by decide +kernel, h, hw, Bool.false_ne_true,
    (aliases_shared_iff h hw Bool.false_ne_true).2.2.2 hstem⟩

-- a number makes up for the end of a proposal: no proposal is in both queries, but "e1" is an alias
-- of both
example :
    let employee : Model := { typeName := "Employee", table := "Employee" }
    let name (second : Bool) := if second then "e1" else "e"
    let start : Workspace Bool :=
      { scope i := (Query.aliased ⟨[]⟩ employee (name i) .shared).scope
        counters := ⟨[]⟩
        proposals i := [Text.lowercase (name i)] }
    let w := start.openJoin false .inner employee "E"
    (∀ p ∈ w.proposals false, p ∉ w.proposals true) ∧
      "e1" ∈ w.aliases false ∧ "e1" ∈ w.aliases true := by
  decide +kernel

/-- The aliases of two queries with one counter are not always different: a subquery on the table of
its query has the alias of the query, and hides it. -/
theorem alias_shared_with_subquery :
    let employee : Model := { typeName := "Employee", table := "Employee" }
    let subquery : QueryScript :=
      .scoped false (.project (.call false .done (.apply [] (.given (.raw "boss")) none) .done))
        .done
    let steps : QueryScript :=
      .scoped false (.filter (.call false (.query { model := employee } subquery .done)
        (.inQuery (.given (.raw "id")) (.built 0)) .done)) .done
    ((steps.run ⟨[]⟩ "" 0 (Query.ofModel ⟨[]⟩ employee .shared) {}).builder.compile =
      ⟨"SELECT emp.* FROM Employee AS emp WHERE emp.id IN " ++
        "(SELECT emp.boss AS boss FROM Employee AS emp)", []⟩) ∧
    ¬∀ w : Workspace Bool, w.Reachable .shared → ∀ a ∈ w.aliases false, a ∉ w.aliases true := by
  intro employee subquery steps
  refine ⟨by decide +kernel, fun h => ?_⟩
  exact h _ (.start (fun _ => (⟨[]⟩, employee, employee.defaultAlias)) ⟨[]⟩) "emp"
    (by decide +kernel) (by decide +kernel)

end Workspace

end SqlCompose
