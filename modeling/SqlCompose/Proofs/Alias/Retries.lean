import SqlCompose.Proofs.Alias.Allocation

/-! Allocation as a loop without bounds. It asks whether a candidate is taken by a walk through the
whole tree, and takes number after number from the counter until a candidate is free. The walk ends
since children come after their parents. The loop ends since a tree of `n` scopes cannot have taken
`n + 1` candidates; it ends with the first of them that is free. -/

namespace SqlCompose

/-! ### Counters -/

namespace Counters

theorem lookup_filter_ne {id other : CounterId} (h : other ≠ id) (l : List (CounterId × UInt64)) :
    (l.filter fun entry => entry.1 != id).lookup other = l.lookup other := by
  induction l with
  | nil => rfl
  | cons entry l ih =>
    obtain ⟨k, n⟩ := entry
    by_cases hk : k = id
    · subst hk
      have hbeq : (other == k) = false := beq_eq_false_iff_ne.mpr h
      simp [List.lookup_cons, hbeq, ih]
    · simp [List.lookup_cons, hk, ih]

/-- Only the counter itself is moved. -/
theorem peek_put_of_ne {id other : CounterId} (h : other ≠ id) (cs : Counters) (n : UInt64) :
    (cs.put id n).peek other = cs.peek other := by
  have hbeq : (other == id) = false := beq_eq_false_iff_ne.mpr h
  simp only [peek, put, List.lookup_cons, hbeq, lookup_filter_ne h]

/-- The next `k` numbers of a counter, from a number on. -/
def numbersFrom (start : UInt64) (k : Nat) : List UInt64 :=
  (List.range k).map fun i => start + UInt64.ofNat i

theorem numbersFrom_succ (start : UInt64) (k : Nat) :
    numbersFrom start (k + 1) = start :: numbersFrom (start + 1) k := by
  rw [numbersFrom, List.range_succ_eq_map, List.map_cons, List.map_map, numbersFrom]
  congr 1
  · simp
  · exact List.map_congr_left fun i _ => (add_one_add_ofNat start i).symm

theorem numbersFrom_add (start : UInt64) (k l : Nat) :
    numbersFrom start (k + l) = numbersFrom start k ++ numbersFrom (start + UInt64.ofNat k) l := by
  rw [numbersFrom, List.range_add, List.map_append, List.map_map, numbersFrom, numbersFrom]
  congr 1
  refine List.map_congr_left fun i _ => ?_
  rw [Function.comp_apply, UInt64.ofNat_add, UInt64.add_assoc]

theorem nodup_numbersFrom (start : UInt64) {k : Nat} (h : k ≤ UInt64.size) :
    (numbersFrom start k).Nodup := by
  refine List.Nodup.map_on (fun i hi j hj => ?_) List.nodup_range
  rw [List.mem_range] at hi hj
  exact add_ofNat_injective (by omega) (by omega)

end Counters

namespace AliasTree

/-! ### Walks through the tree -/

mutual

/-- The answer of a search for an alias in a scope and in everything below it. -/
inductive Walk (t : AliasTree) (name : String) : (scope : Nat) → (found : Bool) → Prop
  | here {scope : Nat} {node : AliasScope} (hn : t.scopes[scope]? = some node)
      (h : node.aliasName = name) : Walk t name scope true
  | down {scope : Nat} {node : AliasScope} {found : Bool} (hn : t.scopes[scope]? = some node)
      (h : node.aliasName ≠ name) (children : WalkAny t name node.children found) :
      Walk t name scope found

/-- The answer of a search in one scope after the other, up to the first in which it is found. -/
inductive WalkAny (t : AliasTree) (name : String) : (scopes : List Nat) → (found : Bool) → Prop
  | nil : WalkAny t name [] false
  | found {scope : Nat} (h : Walk t name scope true) (rest : List Nat) :
      WalkAny t name (scope :: rest) true
  | next {scope : Nat} {rest : List Nat} {found : Bool} (h : Walk t name scope false)
      (hrest : WalkAny t name rest found) : WalkAny t name (scope :: rest) found

end

theorem walkAny_of_walk {t : AliasTree} {name : String} {answer : Nat → Bool} {scopes : List Nat}
    (h : ∀ k ∈ scopes, t.Walk name k (answer k)) : t.WalkAny name scopes (scopes.any answer) := by
  induction scopes with
  | nil => exact .nil
  | cons scope rest ih =>
    rw [List.forall_mem_cons] at h
    rw [List.any_cons]
    cases ha : answer scope with
    | true => exact .found (ha ▸ h.1) rest
    | false => exact .next (ha ▸ h.1) (ih h.2)

/-- A walk ends, and a search that is deep enough has its answer: no way down from a scope is longer
than there are scopes after it. -/
theorem walk_search {t : AliasTree} (h : t.WellFormed) (name : String) (depth : Nat) :
    ∀ scope, scope < t.scopes.length → t.scopes.length ≤ scope + depth →
      t.Walk name scope (t.search name depth scope) := by
  induction depth with
  | zero => intro scope hlt hle; omega
  | succ depth ih =>
    intro scope hlt hle
    have hn : t.scopes[scope]? = some t.scopes[scope] := List.getElem?_eq_getElem hlt
    rw [search_succ hn]
    by_cases hname : t.scopes[scope].aliasName = name
    · rw [beq_iff_eq.mpr hname, Bool.true_or]
      exact .here hn hname
    · rw [beq_eq_false_iff_ne.mpr hname, Bool.false_or]
      refine .down hn hname (walkAny_of_walk fun k hk => ?_)
      obtain ⟨hlt, hk⟩ := h.ordered scope _ hn k hk
      exact ih k hk (by omega)

theorem walk_isTaken {t : AliasTree} (h : t.WellFormed) (name : String) :
    t.Walk name 0 (t.isTaken name) :=
  walk_search h name _ 0 h.nonempty (by omega)

mutual

theorem Walk.unique {t : AliasTree} {name : String} {scope : Nat} {a b : Bool} :
    t.Walk name scope a → t.Walk name scope b → a = b
  | .here _ _, .here _ _ => rfl
  | .here hn h, .down hn' h' _ => by cases hn.symm.trans hn'; exact absurd h h'
  | .down hn h _, .here hn' h' => by cases hn.symm.trans hn'; exact absurd h' h
  | .down hn _ children, .down hn' _ children' => by
    cases hn.symm.trans hn'
    exact children.unique children'

theorem WalkAny.unique {t : AliasTree} {name : String} {scopes : List Nat} {a b : Bool} :
    t.WalkAny name scopes a → t.WalkAny name scopes b → a = b
  | .nil, .nil => rfl
  | .found _ _, .found _ _ => rfl
  | .found h _, .next h' _ => nomatch h.unique h'
  | .next h _, .found h' _ => nomatch h.unique h'
  | .next _ hrest, .next _ hrest' => hrest.unique hrest'

end

/-- A walk from the first scope finds exactly the aliases of the tree. -/
theorem walk_iff {t : AliasTree} (h : t.WellFormed) {name : String} {found : Bool} :
    t.Walk name 0 found ↔ found = decide (name ∈ t.aliases) := by
  have hwalk := walk_isTaken h name
  rw [show t.isTaken name = decide (name ∈ t.aliases) from
    Bool.eq_iff_iff.mpr ((isTaken_iff h name).trans decide_eq_true_iff.symm)] at hwalk
  constructor
  · exact fun hfound => hfound.unique hwalk
  · rintro rfl
    exact hwalk

/-! ### Numbers taken -/

/-- The numbers that a bounded search takes from the counter, in order. -/
def numbersTaken (t : AliasTree) (base : String) :
    (tries : Nat) → (candidate : String) → Counters → List UInt64
  | 0, _, _ => []
  | tries + 1, candidate, cs =>
    if t.isTaken candidate then
      let (n, cs) := cs.take t.counter
      n :: t.numbersTaken base tries (base ++ toString n.toNat) cs
    else []

theorem length_numbersTaken_le (t : AliasTree) (base : String) (tries : Nat) (candidate : String)
    (cs : Counters) : (t.numbersTaken base tries candidate cs).length ≤ tries := by
  induction tries generalizing candidate cs with
  | zero => exact Nat.le_refl 0
  | succ tries ih =>
    rw [numbersTaken]
    split
    · exact Nat.succ_le_succ (ih _ _)
    · exact Nat.zero_le _

/-- The numbers are those that the counter gives one after the other. -/
theorem numbersTaken_eq (t : AliasTree) (base : String) (tries : Nat) (candidate : String)
    (cs : Counters) :
    t.numbersTaken base tries candidate cs =
      Counters.numbersFrom (cs.peek t.counter)
        (t.numbersTaken base tries candidate cs).length := by
  induction tries generalizing candidate cs with
  | zero => rfl
  | succ tries ih =>
    rw [numbersTaken]
    split
    · have hnext := ih (base ++ toString (cs.take t.counter).1.toNat) (cs.take t.counter).2
      rw [cs.peek_take] at hnext
      rw [List.length_cons, Counters.numbersFrom_succ, ← hnext]
      rfl
    · rfl

/-- The counter is moved by as many numbers as are taken, and no other counter is. -/
theorem peek_firstFree (t : AliasTree) (base : String) (tries : Nat) (candidate : String)
    (cs : Counters) :
    (t.firstFree base tries candidate cs).2.peek t.counter =
        cs.peek t.counter + UInt64.ofNat (t.numbersTaken base tries candidate cs).length ∧
      ∀ id, id ≠ t.counter → (t.firstFree base tries candidate cs).2.peek id = cs.peek id := by
  induction tries generalizing candidate cs with
  | zero => exact ⟨by simp [firstFree, numbersTaken], fun _ _ => rfl⟩
  | succ tries ih =>
    rw [firstFree, numbersTaken]
    split
    · obtain ⟨hcounter, hothers⟩ :=
        ih (base ++ toString (cs.take t.counter).1.toNat) (cs.take t.counter).2
      rw [cs.peek_take, Counters.add_one_add_ofNat] at hcounter
      exact ⟨hcounter, fun id hid => (hothers id hid).trans (cs.peek_put_of_ne hid _)⟩
    · exact ⟨by simp, fun _ _ => rfl⟩

/-! ### The loop -/

/-- The loop that looks for a free alias, from a candidate and a state of the counters on: the
numbers it takes, the alias it ends with, and the counters it leaves. -/
inductive Retries (t : AliasTree) (base : String) :
    (candidate : String) → Counters → (numbers : List UInt64) → (name : String) → Counters → Prop
  | free {candidate : String} {cs : Counters} (h : t.Walk candidate 0 false) :
      Retries t base candidate cs [] candidate cs
  | taken {candidate : String} {cs : Counters} {numbers : List UInt64} {name : String}
      {cs' : Counters} (h : t.Walk candidate 0 true)
      (rest : Retries t base (base ++ toString (cs.take t.counter).1.toNat)
        (cs.take t.counter).2 numbers name cs') :
      Retries t base candidate cs ((cs.take t.counter).1 :: numbers) name cs'

/-- A bounded search that ends with a free alias is a run of the loop. -/
theorem retries_firstFree {t : AliasTree} (h : t.WellFormed) {base : String} {tries : Nat} :
    ∀ {candidate : String} {cs : Counters},
      t.isTaken (t.firstFree base tries candidate cs).1 = false →
        t.Retries base candidate cs (t.numbersTaken base tries candidate cs)
          (t.firstFree base tries candidate cs).1 (t.firstFree base tries candidate cs).2 := by
  induction tries with
  | zero =>
    intro candidate cs hfree
    have hwalk := walk_isTaken h candidate
    rw [show t.isTaken candidate = false from hfree] at hwalk
    exact .free hwalk
  | succ tries ih =>
    intro candidate cs hfree
    have hwalk := walk_isTaken h candidate
    cases hc : t.isTaken candidate with
    | false =>
      rw [hc] at hwalk
      rw [firstFree, numbersTaken, if_neg (by simp [hc]), if_neg (by simp [hc])]
      exact .free hwalk
    | true =>
      rw [hc] at hwalk
      rw [firstFree, if_pos hc] at hfree
      rw [firstFree, numbersTaken, if_pos hc, if_pos hc]
      exact .taken hwalk (ih hfree)

/-- The loop comes to an end. -/
theorem retries_of_wellFormed {t : AliasTree} (h : t.WellFormed)
    (hw : t.scopes.length ≤ UInt64.size) (base : String) (cs : Counters) :
    t.Retries base base cs (t.numbersTaken base t.scopes.length base cs)
      (t.firstFree base t.scopes.length base cs).1
      (t.firstFree base t.scopes.length base cs).2 := by
  refine retries_firstFree h ?_
  rw [Bool.eq_false_iff]
  exact fun htaken => firstFree_not_mem h hw base cs ((isTaken_iff h _).mp htaken)

/-- The loop ends with its first candidate, or with the first number that makes one free. -/
theorem Retries.first_free {t : AliasTree} {base candidate name : String} {cs cs' : Counters}
    {numbers : List UInt64} (hwf : t.WellFormed)
    (h : t.Retries base candidate cs numbers name cs') :
    (candidate ∉ t.aliases ∧ numbers.length = 0 ∧ name = candidate) ∨
    (candidate ∈ t.aliases ∧ ∃ i, numbers.length = i + 1 ∧
      name = numbered base (cs.peek t.counter) i ∧ name ∉ t.aliases ∧
      ∀ j < i, numbered base (cs.peek t.counter) j ∈ t.aliases) := by
  induction h with
  | free h =>
    have hfree := (walk_iff hwf).mp h
    exact .inl ⟨by simpa using hfree, rfl, rfl⟩
  | @taken candidate cs numbers name cs' h _ ih =>
    have htaken : candidate ∈ t.aliases := by simpa using (walk_iff hwf).mp h
    have hfirst : base ++ toString (cs.take t.counter).1.toNat =
        numbered base (cs.peek t.counter) 0 := by
      simp [numbered, Counters.take]
    rw [hfirst, cs.peek_take] at ih
    refine .inr ⟨htaken, ?_⟩
    rcases ih with ⟨hfree, hlength, rfl⟩ | ⟨hmem, i, hlength, hname, hfree, hbefore⟩
    · exact ⟨0, by simp [hlength], rfl, hfree, fun j hj => absurd hj j.not_lt_zero⟩
    · rw [numbered_succ] at hname
      refine ⟨i + 1, by simp [hlength], hname, hfree, fun j hj => ?_⟩
      cases j with
      | zero => exact hmem
      | succ j => exact numbered_succ base _ j ▸ hbefore j (by omega)

/-! ### Allocation -/

/-- Trees that come about by opening scopes under scopes of the same tree, with any proposals,
states of the counters and changes of the counter in between. -/
inductive Reachable : AliasTree → Prop
  | withRoot (name : String) (counter : CounterId) : Reachable (withRoot name counter)
  | withCounter {t : AliasTree} (h : Reachable t) (counter : CounterId) :
      Reachable (t.withCounter counter)
  | allocate {t : AliasTree} (h : Reachable t) {parent : Nat} (hp : parent < t.scopes.length)
      (proposal : String) (cs : Counters) : Reachable (t.allocate parent proposal cs).1

theorem Reachable.wellFormed {t : AliasTree} (h : t.Reachable) : t.WellFormed := by
  induction h with
  | withRoot name counter => exact wellFormed_withRoot name counter
  | withCounter _ counter ih => exact ih.withCounter counter
  | allocate _ hp _ _ ih => exact ih.addScope hp _

/-- Allocation as the loop runs it, without bounds: it ends, after at most as many numbers as the
tree has scopes. The alias is the proposal in lower case if no scope has it, and otherwise this with
the first of the counter's numbers, one after the other and from `0` on again after the last, for
which no scope has the result. The counter has moved by the numbers that were tried. The new scope
has the next number and is the last child of its parent, and no other scope is changed. -/
theorem allocate_first_free {t : AliasTree} (h : t.Reachable) (hw : t.scopes.length < UInt64.size)
    {parent : Nat} (hp : parent < t.scopes.length) (proposal : String) (cs : Counters) :
    let base := Text.lowercase proposal
    let value (i : Nat) : UInt64 := cs.peek t.counter + UInt64.ofNat i
    let u := (t.allocate parent proposal cs).1
    let cs' := (t.allocate parent proposal cs).2
    ∃ k ≤ t.scopes.length, ∃ name,
      t.Retries base base cs ((List.range k).map value) name cs' ∧
      (base ∉ t.aliases → k = 0 ∧ name = base) ∧
      (base ∈ t.aliases → ∃ i, k = i + 1 ∧ name = base ++ toString (value i).toNat ∧
        name ∉ t.aliases ∧ ∀ j < i, base ++ toString (value j).toNat ∈ t.aliases) ∧
      (cs'.peek t.counter = value k ∧ ∀ id, id ≠ t.counter → cs'.peek id = cs.peek id) ∧
      u.counter = t.counter ∧ u.scopes.length = t.scopes.length + 1 ∧
      u.scopes[t.nextScope]? = some ⟨name, []⟩ ∧
      u.scopes[parent]? =
        some ⟨t.scopes[parent].aliasName, t.scopes[parent].children ++ [t.nextScope]⟩ ∧
      ∀ i < t.scopes.length, i ≠ parent → u.scopes[i]? = t.scopes[i]? := by
  intro base value u cs'
  have hretries := retries_of_wellFormed h.wellFormed (Nat.le_of_lt hw) base cs
  have hu : u = t.addScope parent (t.firstFree base t.scopes.length base cs).1 := rfl
  refine ⟨_, length_numbersTaken_le t base t.scopes.length base cs, _,
    numbersTaken_eq t base t.scopes.length base cs ▸ hretries, ?_, ?_,
    peek_firstFree t base t.scopes.length base cs, rfl, ?_, ?_, ?_, ?_⟩
  · rcases hretries.first_free h.wellFormed with ⟨-, hk, hname⟩ | ⟨htaken, -⟩
    · exact fun _ => ⟨hk, hname⟩
    · exact fun hfree => absurd htaken hfree
  · rcases hretries.first_free h.wellFormed with ⟨hfree, -⟩ | ⟨-, hfirst⟩
    · exact fun htaken => absurd htaken hfree
    · exact fun _ => hfirst
  · rw [hu, length_addScope]
  · rw [hu, addScope, nextScope, List.getElem?_append_right (by simp)]
    simp
  · rw [hu, getElem?_addScope_of_lt t parent _ hp, if_pos rfl]
    rfl
  · intro i hi hne
    rw [hu, getElem?_addScope_of_lt t parent _ hi, if_neg hne.symm, List.getElem?_eq_getElem hi]

/-- The number that the counter gives first is taken already, by a scope that was opened when the
counter was there before; the next number is `0`. -/
theorem allocate_first_free_of_wrap :
    let cs : Counters := ⟨[(.named "c", 18446744073709551615)]⟩
    let t := ((withRoot "e" (.named "c")).allocate 0 "E" cs).1
    t.Reachable ∧ t.scopes.length < UInt64.size ∧ 1 < t.scopes.length ∧
    t.aliases = ["e", "e18446744073709551615"] ∧
    (t.allocate 1 "E" cs).1.aliases = ["e", "e18446744073709551615", "e0"] ∧
    (t.allocate 1 "E" cs).2.peek (.named "c") = 1 ∧
    ∃ k ≤ t.scopes.length, ∃ name,
      t.Retries "e" "e" cs ((List.range k).map fun i => 18446744073709551615 + UInt64.ofNat i) name
        (t.allocate 1 "E" cs).2 := by
  intro cs t
  have h : t.Reachable := .allocate (.withRoot "e" (.named "c")) (by decide +kernel) "E" cs
  have hw : t.scopes.length < UInt64.size := by decide +kernel
  have hp : 1 < t.scopes.length := by decide +kernel
  obtain ⟨k, hk, name, hretries, -⟩ := allocate_first_free h hw hp "E" cs
  have hbase : Text.lowercase "E" = "e" := by decide +kernel
  have hpeek : cs.peek t.counter = 18446744073709551615 := by decide +kernel
  rw [hbase, hpeek] at hretries
  exact ⟨h, hw, hp, by decide +kernel, by decide +kernel, by decide +kernel, k, hk, name, hretries⟩

end AliasTree

end SqlCompose
