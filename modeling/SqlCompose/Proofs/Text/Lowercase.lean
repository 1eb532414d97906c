import SqlCompose.Text.Letters

/-! Which characters the lower case of a text can have: those of the text, and letters. A
question mark is no letter, and so none comes in. -/

namespace SqlCompose.Text

theorem ofNat_ne_question {n : Nat} (h : n ≠ 63) : Char.ofNat n ≠ '?' := by
  intro heq
  by_cases hvalid : n.isValidChar
  · have hn : Char.ofNat n = Char.ofNatAux n hvalid := dif_pos hvalid
    exact h (congrArg Char.toNat (hn.symm.trans heq))
  · have hnull : Char.ofNat n = Char.ofNat 0 := dif_neg hvalid
    exact absurd (hnull.symm.trans heq) (by decide)

/-- What comes before the small letters is in lower case only if it was there already. -/
theorem eq_of_toLower_eq {c d : Char} (hd : d.toNat < 'a'.toNat) (h : c.toLower = d) : c = d := by
  unfold Char.toLower at h
  split at h
  · next hupper =>
    have hval : c.val + ('a'.val - 'A'.val) = d.val := congrArg Char.val h
    have hlow := UInt32.le_iff_toNat_le.mp hupper.1
    have hhigh := UInt32.le_iff_toNat_le.mp hupper.2
    have hnat := congrArg UInt32.toNat hval
    rw [UInt32.toNat_add] at hnat
    simp at hd hlow hhigh hnat
    omega
  · exact h

theorem toLower_ne_question {c : Char} (h : c ≠ '?') : c.toLower ≠ '?' :=
  fun heq => h (eq_of_toLower_eq (by decide) heq)

/-- All shifts lead to code points above that of the question mark. -/
theorem lowerShifts_above : ∀ s ∈ lowerShifts, 63 < (s.span.first : Int) + s.distance := by
  decide +kernel

theorem lowerExpansions_above : ∀ p ∈ lowerExpansions, ∀ n ∈ p.2, 63 < n := by
  decide

theorem shifted?_ne_question {c d : Char} (h : shifted? lowerShifts c = some d) : d ≠ '?' := by
  obtain ⟨s, hs, rfl⟩ := Option.map_eq_some_iff.mp h
  have habove := lowerShifts_above s (List.mem_of_find?_eq_some hs)
  have hspan := List.find?_some hs
  have hfirst : s.span.first ≤ c.toNat := by
    simp only [Span.contains, Bool.and_eq_true, decide_eq_true_eq] at hspan
    exact hspan.1.1
  exact ofNat_ne_question (by omega)

theorem question_not_mem_lowerChar {c : Char} (h : c ≠ '?') : '?' ∉ lowerChar c := by
  unfold lowerChar
  split
  · simpa using (toLower_ne_question h).symm
  · unfold mapCase
    split
    · next cs hcs =>
      have hmem : (c.toNat, cs) ∈ lowerExpansions := by
        obtain ⟨l, l', heq, -⟩ := List.lookup_eq_some_iff.mp hcs
        rw [heq]
        exact List.mem_append_right _ List.mem_cons_self
      intro hquestion
      obtain ⟨n, hn, heq⟩ := List.mem_map.mp hquestion
      have habove := lowerExpansions_above _ hmem n hn
      exact ofNat_ne_question (by omega) heq
    · cases hshift : shifted? lowerShifts c with
      | none => simpa using h.symm
      | some d => simpa using (shifted?_ne_question hshift).symm

theorem question_not_mem_lowerFrom {before cs : List Char} (h : '?' ∉ cs) :
    '?' ∉ lowerFrom before cs := by
  induction cs generalizing before with
  | nil => simp [lowerFrom]
  | cons c cs ih =>
    rw [List.mem_cons, not_or] at h
    rw [lowerFrom, List.mem_append, not_or]
    refine ⟨?_, ih h.2⟩
    split
    · split <;> decide
    · exact question_not_mem_lowerChar (Ne.symm h.1)

theorem question_not_mem_lowercase {s : String} (h : '?' ∉ s.toList) :
    '?' ∉ (lowercase s).toList := by
  rw [lowercase, String.toList_ofList]
  exact question_not_mem_lowerFrom h

end SqlCompose.Text
