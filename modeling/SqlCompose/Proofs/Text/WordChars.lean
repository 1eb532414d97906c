import SqlCompose.Sql.Token
import SqlCompose.Text.Identifier
import SqlCompose.Text.Words

/-! Names that are words for SQL: all of their characters are word characters. Declared names are
words, and converting a word to another case gives a word again, unless the style puts blanks or
hyphens between the parts. -/

namespace SqlCompose.Text

open Token (isWordChar)

/-- A text of characters of names. It may be empty. -/
def IsWord (s : String) : Prop :=
  ∀ c ∈ s.toList, isWordChar c = true

instance (s : String) : Decidable (IsWord s) :=
  decidable_of_iff (s.toList.all isWordChar = true) List.all_eq_true

/-! ### Characters -/

/-- A property of the first 128 characters, checked one by one. -/
theorem forall_ascii {p : Char → Bool} (h : ∀ n < 128, p (Char.ofNat n) = true) {c : Char}
    (hc : c.toNat < 128) : p c = true := by
  have hthis := h c.toNat hc
  rwa [Char.ofNat_toNat] at hthis

theorem isWordChar_of_le {c : Char} (h : 128 ≤ c.toNat) : isWordChar c = true := by
  simp [isWordChar, h]

theorem isWordChar_ofNat {n : Nat} (hlow : 128 ≤ n) (hvalid : n.isValidChar) :
    isWordChar (Char.ofNat n) = true := by
  have hn : Char.ofNat n = Char.ofNatAux n hvalid := dif_pos hvalid
  rw [hn]
  exact isWordChar_of_le hlow

/-- A shift that leads from characters beyond the first 128 to word characters. -/
def Shift.KeepsWords (s : Shift) : Prop :=
  s.span.last < 128 ∨
    (128 ≤ s.span.first + s.distance ∧
      (s.span.last + s.distance < 0xD800 ∨
        (0xDFFF < s.span.first + s.distance ∧ s.span.last + s.distance < 0x110000))) ∨
    (s.span.first = s.span.last ∧
      isWordChar (Char.ofNat (s.span.first + s.distance).toNat) = true)

instance (s : Shift) : Decidable s.KeepsWords :=
  inferInstanceAs (Decidable (_ ∨ _ ∨ _))

theorem Shift.KeepsWords.isWordChar {s : Shift} (h : s.KeepsWords) {n : Nat} (hn : 128 ≤ n)
    (hspan : s.span.contains n = true) :
    Token.isWordChar (Char.ofNat (n + s.distance).toNat) = true := by
  simp only [Span.contains, Bool.and_eq_true, decide_eq_true_eq] at hspan
  obtain ⟨⟨hfirst, hlast⟩, -⟩ := hspan
  rcases h with h | ⟨hlow, hvalid⟩ | ⟨hone, hword⟩
  · omega
  · refine isWordChar_ofNat (by omega) ?_
    rcases hvalid with hvalid | hvalid
    · exact .inl (by omega)
    · exact .inr ⟨by omega, by omega⟩
  · have heq : n = s.span.first := by omega
    rw [heq]
    exact hword

theorem isWordChar_mapCase {expansions : List (Nat × List Nat)} {shifts : List Shift}
    (hexpansions : ∀ p ∈ expansions, ∀ n ∈ p.2, isWordChar (Char.ofNat n) = true)
    (hshifts : ∀ s ∈ shifts, s.KeepsWords) {c : Char} (hc : 128 ≤ c.toNat) :
    ∀ d ∈ mapCase expansions shifts c, isWordChar d = true := by
  intro d hd
  unfold mapCase at hd
  split at hd
  · next codes hcodes =>
    obtain ⟨l, l', heq, -⟩ := List.lookup_eq_some_iff.mp hcodes
    obtain ⟨n, hn, rfl⟩ := List.mem_map.mp hd
    exact hexpansions (c.toNat, codes) (heq ▸ List.mem_append_right _ List.mem_cons_self) n hn
  · rw [List.mem_singleton.mp hd]
    cases hshift : shifted? shifts c with
    | none => exact isWordChar_of_le hc
    | some e =>
      obtain ⟨s, hs, rfl⟩ := Option.map_eq_some_iff.mp hshift
      exact (hshifts s (List.mem_of_find?_eq_some hs)).isWordChar hc
        (List.find?_eq_some_iff_append.mp hs).1

theorem lowerExpansions_words :
    ∀ p ∈ lowerExpansions, ∀ n ∈ p.2, isWordChar (Char.ofNat n) = true := by
  decide +kernel

theorem lowerShifts_words : ∀ s ∈ lowerShifts, s.KeepsWords := by
  decide +kernel

theorem upperExpansions_words :
    ∀ p ∈ upperExpansions, ∀ n ∈ p.2, isWordChar (Char.ofNat n) = true := by
  decide +kernel

theorem upperShifts_words : ∀ s ∈ upperShifts, s.KeepsWords := by
  decide +kernel

theorem isWordChar_lowerChar {c : Char} (h : isWordChar c = true) :
    ∀ d ∈ lowerChar c, isWordChar d = true := by
  unfold lowerChar
  split
  · next hascii =>
    have hlower : (!isWordChar c || isWordChar c.toLower) = true :=
      forall_ascii (p := fun c => !isWordChar c || isWordChar c.toLower) (by decide +kernel)
        (of_decide_eq_true hascii)
    simpa [h] using hlower
  · next hascii =>
    exact isWordChar_mapCase lowerExpansions_words lowerShifts_words
      (Nat.le_of_not_lt fun hlt => hascii (decide_eq_true hlt))

theorem isWordChar_upperChar {c : Char} (h : isWordChar c = true) :
    ∀ d ∈ upperChar c, isWordChar d = true := by
  unfold upperChar
  split
  · next hascii =>
    have hupper : (!isWordChar c || isWordChar c.toUpper) = true :=
      forall_ascii (p := fun c => !isWordChar c || isWordChar c.toUpper) (by decide +kernel)
        (of_decide_eq_true hascii)
    simpa [h] using hupper
  · next hascii =>
    exact isWordChar_mapCase upperExpansions_words upperShifts_words
      (Nat.le_of_not_lt fun hlt => hascii (decide_eq_true hlt))

/-! ### Parts of names -/

/-- The styles that put neither blanks nor hyphens between the parts of a name. -/
def CaseStyle.keepsWords : CaseStyle → Bool
  | identity | lowerSnake | upperSnake | lowerCamel | upperCamel => true
  | lowerKebab | upperKebab | title | train => false

section

variable {p : Char → Prop}

/-- The parts of a name have no other characters than the name. -/
theorem forall_piecesFrom {run cs : List Char} (hrun : ∀ c ∈ run, p c) (hcs : ∀ c ∈ cs, p c) :
    ∀ piece ∈ piecesFrom run cs, ∀ c ∈ piece, p c := by
  fun_induction piecesFrom run cs with
  | case1 => simp
  | case2 run => simpa using hrun
  | case3 run d cs halpha ih =>
    rw [List.forall_mem_cons] at hcs
    exact ih (List.forall_mem_cons.mpr ⟨hcs.1, hrun⟩) hcs.2
  | case4 run d cs halpha hempty ih =>
    exact ih (by simp) (List.forall_mem_cons.mp hcs).2
  | case5 run d cs halpha hempty ih =>
    rw [List.forall_mem_cons]
    exact ⟨by simpa using hrun, ih (by simp) (List.forall_mem_cons.mp hcs).2⟩

theorem forall_wordsFrom {mode : CaseMode} {word cs : List Char} (hword : ∀ c ∈ word, p c)
    (hcs : ∀ c ∈ cs, p c) : ∀ w ∈ wordsFrom mode word cs, ∀ c ∈ w, p c := by
  fun_induction wordsFrom mode word cs with
  | case1 => simp
  | case2 mode word c =>
    simp only [List.mem_singleton, forall_eq, List.mem_reverse]
    exact List.forall_mem_cons.mpr ⟨(List.forall_mem_cons.mp hcs).1, hword⟩
  | case3 mode word c next rest hends ih =>
    rw [List.forall_mem_cons] at hcs ⊢
    refine ⟨?_, ih (by simp) hcs.2⟩
    simpa only [List.mem_reverse] using List.forall_mem_cons.mpr ⟨hcs.1, hword⟩
  | case4 mode word c next rest hends hcapital ih =>
    rw [List.forall_mem_cons] at hcs ⊢
    exact ⟨by simpa using hword, ih (List.forall_mem_singleton.mpr hcs.1) hcs.2⟩
  | case5 mode word c next rest hends hcapital ih =>
    rw [List.forall_mem_cons] at hcs
    exact ih (List.forall_mem_cons.mpr ⟨hcs.1, hword⟩) hcs.2

theorem forall_words {s : String} (h : ∀ c ∈ s.toList, p c) : ∀ w ∈ words s, ∀ c ∈ w, p c := by
  intro w hw
  obtain ⟨piece, hpiece, hw⟩ := List.mem_flatMap.mp hw
  exact forall_wordsFrom (by simp) (forall_piecesFrom (by simp) h piece hpiece) w hw

/-! ### Ways of writing -/

/-- A kind of characters that stays the same when letters change their case. -/
structure IsCaseClosed (p : Char → Prop) : Prop where
  lower : ∀ c, p c → ∀ d ∈ lowerChar c, p d
  upper : ∀ c, p c → ∀ d ∈ upperChar c, p d
  sigma : p 'Σ' → p 'ς'

theorem forall_ofList {cs : List Char} (h : ∀ c ∈ cs, p c) : ∀ c ∈ (String.ofList cs).toList, p c := by
  rwa [String.toList_ofList]

theorem forall_append {s t : String} (hs : ∀ c ∈ s.toList, p c) (ht : ∀ c ∈ t.toList, p c) :
    ∀ c ∈ (s ++ t).toList, p c := by
  rw [String.toList_append]
  exact List.forall_mem_append.mpr ⟨hs, ht⟩

theorem forall_intercalate {separator : String} (hseparator : ∀ c ∈ separator.toList, p c)
    {names : List String} (h : ∀ name ∈ names, ∀ c ∈ name.toList, p c) :
    ∀ c ∈ (separator.intercalate names).toList, p c := by
  induction names with
  | nil => simp
  | cons name names ih =>
    rw [List.forall_mem_cons] at h
    cases names with
    | nil =>
      rw [String.intercalate_singleton]
      exact h.1
    | cons name' names =>
      rw [String.intercalate_cons_cons]
      exact forall_append (forall_append h.1 hseparator) (ih h.2)

theorem forall_joinWords {separator : String} (hseparator : ∀ c ∈ separator.toList, p c)
    {write : List Char → List Char} (hwrite : ∀ word, (∀ c ∈ word, p c) → ∀ c ∈ write word, p c)
    {ws : List (List Char)} (h : ∀ w ∈ ws, ∀ c ∈ w, p c) :
    ∀ c ∈ (joinWords separator write ws).toList, p c :=
  forall_intercalate hseparator
    (List.forall_mem_map.mpr fun w hw => forall_ofList (hwrite w (h w hw)))

variable (hp : IsCaseClosed p)

include hp

theorem forall_lowerWord (word : List Char) (h : ∀ c ∈ word, p c) : ∀ c ∈ lowerWord word, p c := by
  fun_induction lowerWord word with
  | case1 => exact h
  | case2 => exact List.forall_mem_singleton.mpr (hp.sigma (h _ List.mem_cons_self))
  | case3 c rest _ ih =>
    obtain ⟨hc, hrest⟩ := List.forall_mem_cons.mp h
    exact List.forall_mem_append.mpr ⟨hp.lower c hc, ih hrest⟩

theorem forall_upperWord (word : List Char) (h : ∀ c ∈ word, p c) : ∀ c ∈ upperWord word, p c := by
  intro c hc
  obtain ⟨d, hd, hc⟩ := List.mem_flatMap.mp hc
  exact hp.upper d (h d hd) c hc

theorem forall_capitalizeWord (word : List Char) (h : ∀ c ∈ word, p c) :
    ∀ c ∈ capitalizeWord word, p c := by
  cases word with
  | nil => exact h
  | cons c rest =>
    obtain ⟨hc, hrest⟩ := List.forall_mem_cons.mp h
    exact List.forall_mem_append.mpr ⟨hp.upper c hc, forall_lowerWord hp rest hrest⟩

/-- Converting a name to one of the styles without blanks and hyphens brings in no other characters
than letters in another case and underscores. -/
theorem forall_apply (hunderscore : p '_') {style : CaseStyle} (hstyle : style.keepsWords = true)
    {name : String} (h : ∀ c ∈ name.toList, p c) : ∀ c ∈ (style.apply name).toList, p c := by
  have hwords : ∀ w ∈ words name, ∀ c ∈ w, p c := forall_words h
  have hempty : ∀ c ∈ "".toList, p c := by simp
  have hseparator : ∀ c ∈ "_".toList, p c := by simpa using hunderscore
  cases style with
  | identity => exact h
  | lowerSnake => exact forall_joinWords hseparator (forall_lowerWord hp) hwords
  | upperSnake => exact forall_joinWords hseparator (forall_upperWord hp) hwords
  | lowerCamel =>
    simp only [CaseStyle.apply]
    split
    · exact hempty
    · next w ws heq =>
      rw [heq, List.forall_mem_cons] at hwords
      exact forall_append (forall_ofList (forall_lowerWord hp w hwords.1))
        (forall_joinWords hempty (forall_capitalizeWord hp) hwords.2)
  | upperCamel => exact forall_joinWords hempty (forall_capitalizeWord hp) hwords
  | lowerKebab | upperKebab | title | train => cases hstyle

end

/-- Converting a word to one of these styles gives a word. -/
theorem isWord_apply {style : CaseStyle} (hstyle : style.keepsWords = true) {name : String}
    (h : IsWord name) : IsWord (style.apply name) :=
  forall_apply ⟨fun _ => isWordChar_lowerChar, fun _ => isWordChar_upperChar, fun _ => by decide⟩
    (by decide) hstyle h

/-! ### Plain identifiers -/

/-- The characters of plain identifiers are all among the first 128. -/
def isPlainChar (c : Char) : Bool :=
  c.isAlphanum || c == '_' || c == '*'

theorem isAscii_of_le {c d : Char} (h : c.val ≤ d.val) (hd : isAscii d = true) :
    isAscii c = true :=
  decide_eq_true (Nat.lt_of_le_of_lt (UInt32.le_iff_toNat_le.mp h) (of_decide_eq_true hd))

theorem isAscii_of_isPlainChar {c : Char} (h : isPlainChar c = true) : isAscii c = true := by
  simp only [isPlainChar, Bool.or_eq_true, beq_iff_eq] at h
  rcases h with (halphanum | rfl) | rfl
  · have hcases : (c.isUpper = true ∨ c.isLower = true) ∨ c.isDigit = true :=
      (Bool.or_eq_true_iff.mp halphanum).imp_left Bool.or_eq_true_iff.mp
    rcases hcases with (hupper | hlower) | hdigit
    · exact isAscii_of_le (of_decide_eq_true hupper).2 (show isAscii 'Z' = true by decide)
    · exact isAscii_of_le (of_decide_eq_true (Bool.and_eq_true_iff.mp hlower).2)
        (show isAscii 'z' = true by decide)
    · exact isAscii_of_le (of_decide_eq_true (Bool.and_eq_true_iff.mp hdigit).2)
        (show isAscii '9' = true by decide)
  · decide
  · decide

theorem isCaseClosed_isPlainChar : IsCaseClosed fun c => isPlainChar c = true := by
  refine ⟨fun c hc => ?_, fun c hc => ?_, by decide⟩
  · have hascii := isAscii_of_isPlainChar hc
    have hlower : (!isPlainChar c || isPlainChar c.toLower) = true :=
      forall_ascii (p := fun c => !isPlainChar c || isPlainChar c.toLower) (by decide +kernel)
        (of_decide_eq_true hascii)
    simpa [lowerChar, hascii, hc] using hlower
  · have hascii := isAscii_of_isPlainChar hc
    have hupper : (!isPlainChar c || isPlainChar c.toUpper) = true :=
      forall_ascii (p := fun c => !isPlainChar c || isPlainChar c.toUpper) (by decide +kernel)
        (of_decide_eq_true hascii)
    simpa [upperChar, hascii, hc] using hupper

/-- Converting a plain identifier to one of these styles gives a plain identifier. -/
theorem isPlainIdentifier_apply {style : CaseStyle} (hstyle : style.keepsWords = true)
    {name : String} (h : isPlainIdentifier name = true) :
    isPlainIdentifier (style.apply name) = true :=
  List.all_eq_true.mpr
    (forall_apply isCaseClosed_isPlainChar (by decide) hstyle (List.all_eq_true.mp h))

/-! ### Declared names -/

theorem forall_of_identifierFault {s : String} (h : identifierFault? s = none) :
    ∀ c ∈ s.toList, (c.isAlphanum || c == '_') = true := by
  unfold identifierFault? at h
  split at h
  · cases h
  · next first rest hs =>
    split at h
    · next hfirst =>
      rw [Option.map_eq_none_iff, List.find?_eq_none] at h
      rw [hs, List.forall_mem_cons]
      constructor
      · simp only [Bool.or_eq_true, Char.isAlphanum] at hfirst ⊢
        exact hfirst.imp_left .inl
      · intro c hc
        simpa only [Bool.not_eq_true', Bool.not_eq_false] using h c hc
    · cases h

/-- A name that may be declared is a word. -/
theorem isWord_of_identifierFault {s : String} (h : identifierFault? s = none) : IsWord s := by
  intro c hc
  rw [isWordChar, forall_of_identifierFault h c hc, Bool.true_or]

/-- A name that may be declared is a plain identifier. -/
theorem isPlainIdentifier_of_identifierFault {s : String} (h : identifierFault? s = none) :
    isPlainIdentifier s = true := by
  refine List.all_eq_true.mpr fun c hc => ?_
  rw [forall_of_identifierFault h c hc, Bool.true_or]

/-- Styles that may be asked for by name keep words. -/
theorem keepsWords_ofName {name : String} {style : CaseStyle}
    (h : CaseStyle.ofName? name = some style) (hname : identifierFault? name = none) :
    style.keepsWords = true := by
  unfold CaseStyle.ofName? at h
  split at h <;> cases h <;> first | rfl | (revert hname; decide)

end SqlCompose.Text
