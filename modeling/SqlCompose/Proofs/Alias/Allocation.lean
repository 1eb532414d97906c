import Mathlib.Data.List.Nodup
import SqlCompose.Proofs.Alias.Tree

/-! Allocation of aliases. A candidate is the proposal itself or the proposal with a number
of the counter; a tree with `n` scopes cannot have taken `n + 1` different candidates, so
the search ends with an alias that is free. Numbers repeat only after `2 ^ 64` of them. -/

namespace SqlCompose

/-! ### Counters -/

namespace Counters

theorem peek_put (cs : Counters) (id : CounterId) (n : UInt64) : (cs.put id n).peek id = n := by
  simp [peek, put]

theorem peek_take (cs : Counters) (id : CounterId) :
    (cs.take id).2.peek id = cs.peek id + 1 :=
  cs.peek_put ..

/-- A counter does not come back to a number within `2 ^ 64` of them. -/
theorem add_ofNat_injective {start : UInt64} {i j : Nat} (hi : i < UInt64.size)
    (hj : j < UInt64.size) (h : start + UInt64.ofNat i = start + UInt64.ofNat j) : i = j := by
  have hw := congrArg UInt64.toNat ((UInt64.add_right_inj start).mp h)
  rwa [UInt64.toNat_ofNat_of_lt' hi, UInt64.toNat_ofNat_of_lt' hj] at hw

theorem add_one_add_ofNat (start : UInt64) (i : Nat) :
    start + 1 + UInt64.ofNat i = start + UInt64.ofNat (i + 1) := by
  rw [UInt64.ofNat_add, UInt64.add_assoc, UInt64.add_comm 1]
  rfl

end Counters

namespace AliasTree

/-! ### Candidates -/

/-- The candidate that the counter gives `i` numbers after `start`. -/
def numbered (base : String) (start : UInt64) (i : Nat) : String :=
  base ++ toString (start + UInt64.ofNat i).toNat

theorem repr_injective {m n : Nat} (h : m.repr = n.repr) : m = n := by
  have ht := congrArg String.toList h
  rw [Nat.toList_repr, Nat.toList_repr] at ht
  have hd := congrArg (fun ds => Nat.ofDigitChars 10 ds 0) ht
  simpa only [Nat.ofDigitChars_ten_toDigits] using hd

theorem numbered_ne_base (base : String) (start : UInt64) (i : Nat) :
    numbered base start i ≠ base := by
  intro h
  rw [numbered, String.append_eq_left_iff] at h
  exact Nat.repr_ne_empty h

theorem numbered_injective {base : String} {start : UInt64} {i j : Nat} (hi : i < UInt64.size)
    (hj : j < UInt64.size) (h : numbered base start i = numbered base start j) : i = j := by
  have hn := repr_injective ((String.append_right_inj base).mp h)
  exact Counters.add_ofNat_injective hi hj (UInt64.toNat_inj.mp hn)

theorem numbered_succ (base : String) (start : UInt64) (i : Nat) :
    numbered base (start + 1) i = numbered base start (i + 1) := by
  rw [numbered, Counters.add_one_add_ofNat, numbered]

/-- The proposal, and with the next `tries` numbers of a counter. -/
def candidates (base : String) (start : UInt64) (tries : Nat) : List String :=
  base :: (List.range tries).map (numbered base start)

theorem nodup_candidates (base : String) (start : UInt64) {tries : Nat} (h : tries ≤ UInt64.size) :
    (candidates base start tries).Nodup := by
  rw [candidates, List.nodup_cons]
  constructor
  · simp only [List.mem_map, not_exists, not_and]
    exact fun i _ => numbered_ne_base base start i
  · refine List.Nodup.map_on (fun i hi j hj => ?_) List.nodup_range
    rw [List.mem_range] at hi hj
    exact numbered_injective (by omega) (by omega)

/-! ### The search for a free alias -/

/-- The search ends with a taken alias only if all its candidates are taken. -/
theorem candidates_taken {t : AliasTree} {base : String} {tries : Nat} {candidate : String}
    {cs : Counters} (h : t.isTaken (t.firstFree base tries candidate cs).1 = true) :
    t.isTaken candidate = true ∧
      ∀ i < tries, t.isTaken (numbered base (cs.peek t.counter) i) = true := by
  induction tries generalizing candidate cs with
  | zero => exact ⟨h, by simp⟩
  | succ tries ih =>
    by_cases hc : t.isTaken candidate = true
    · rw [firstFree, if_pos hc] at h
      obtain ⟨h0, hs⟩ := ih h
      refine ⟨hc, fun i hi => ?_⟩
      cases i with
      | zero => simpa [numbered, Counters.take] using h0
      | succ i =>
        have := hs i (by omega)
        rwa [cs.peek_put, numbered_succ] at this
    · rw [firstFree, if_neg hc] at h
      exact absurd h hc

theorem firstFree_not_mem {t : AliasTree} (h : t.WellFormed) (hw : t.scopes.length ≤ UInt64.size)
    (base : String) (cs : Counters) :
    (t.firstFree base t.scopes.length base cs).1 ∉ t.aliases := by
  intro hm
  obtain ⟨h0, hs⟩ := candidates_taken ((isTaken_iff h _).mpr hm)
  -- one candidate more than there are scopes
  have hsub : candidates base (cs.peek t.counter) t.scopes.length ⊆ t.aliases := by
    intro name hn
    rw [candidates, List.mem_cons, List.mem_map] at hn
    rcases hn with rfl | ⟨i, hi, rfl⟩
    · exact (isTaken_iff h _).mp h0
    · exact (isTaken_iff h _).mp (hs i (List.mem_range.mp hi))
  have hle := (nodup_candidates base (cs.peek t.counter) hw).length_le_of_subset hsub
  simp only [candidates, List.length_cons, List.length_map, List.length_range, aliases] at hle
  omega

/-- Allocation adds one scope, with an alias that no scope of the tree has. -/
theorem allocate_eq {t : AliasTree} (h : t.WellFormed) (hw : t.scopes.length ≤ UInt64.size)
    (parent : Nat) (proposal : String) (cs : Counters) :
    ∃ name, name ∉ t.aliases ∧ (t.allocate parent proposal cs).1 = t.addScope parent name :=
  ⟨_, firstFree_not_mem h hw (Text.lowercase proposal) cs, rfl⟩

end AliasTree

end SqlCompose
