import Mathlib.Data.List.Infix
import SqlCompose.Predicate
import SqlCompose.Proofs.Text.Lowercase
import SqlCompose.Sql.Pattern

/-! The texts that fit a LIKE pattern. A pattern that is put together from parts fits the texts that
fall into pieces which fit the parts, so a pattern for a search fits the texts that have a piece,
in the place that is asked for, which fits the search text as a pattern. -/

namespace SqlCompose

namespace Pattern

variable {p q s t : List Char} {c : Char}

/-! ### Parts of patterns -/

theorem anySuffix_iff {found : List Char → Bool} :
    anySuffix found s = true ↔ ∃ before rest, s = before ++ rest ∧ found rest = true := by
  induction s with
  | nil => simp [anySuffix]
  | cons d s ih =>
    rw [anySuffix, Bool.or_eq_true, ih]
    constructor
    · rintro (h | ⟨before, rest, rfl, h⟩)
      · exact ⟨[], d :: s, rfl, h⟩
      · exact ⟨d :: before, rest, rfl, h⟩
    · rintro ⟨before, rest, heq, h⟩
      cases before with
      | nil => exact .inl (heq ▸ h)
      | cons e before =>
        cases heq
        exact .inr ⟨before, rest, rfl, h⟩

theorem fits_nil : fits [] s = true ↔ s = [] := by
  rw [fits, List.isEmpty_iff]

theorem fits_percent :
    fits ('%' :: p) s = true ↔ ∃ before rest, s = before ++ rest ∧ fits p rest = true := by
  rw [fits, anySuffix_iff]

/-- The characters that one character of a pattern stands for. -/
def Takes (c d : Char) : Prop :=
  c = '_' ∨ sameLetter c d = true

theorem fits_cons (hc : c ≠ '%') :
    fits (c :: p) s = true ↔ ∃ d rest, s = d :: rest ∧ Takes c d ∧ fits p rest = true := by
  by_cases hone : c = '_'
  · subst hone
    cases s with
    | nil => simp [fits]
    | cons d rest => simp [fits, Takes]
  · cases s with
    | nil => simp [fits]
    | cons d rest => simp [fits, hone, Takes]

theorem fits_append :
    fits (p ++ q) s = true ↔
      ∃ a b, s = a ++ b ∧ fits p a = true ∧ fits q b = true := by
  induction p generalizing s with
  | nil => simp [fits_nil]
  | cons c p ih =>
    rw [List.cons_append]
    by_cases hc : c = '%'
    · subst hc
      simp only [fits_percent, ih]
      constructor
      · rintro ⟨before, _, rfl, a, b, rfl, ha, hb⟩
        exact ⟨before ++ a, b, (List.append_assoc ..).symm, ⟨before, a, rfl, ha⟩, hb⟩
      · rintro ⟨_, b, rfl, ⟨before, a, rfl, ha⟩, hb⟩
        exact ⟨before, a ++ b, List.append_assoc .., a, b, rfl, ha, hb⟩
    · simp only [fits_cons hc, ih]
      constructor
      · rintro ⟨d, _, rfl, hd, a, b, rfl, ha, hb⟩
        exact ⟨d :: a, b, rfl, ⟨d, a, rfl, hd, ha⟩, hb⟩
      · rintro ⟨_, b, rfl, ⟨d, a, rfl, hd, ha⟩, hb⟩
        exact ⟨d, a ++ b, rfl, hd, a, b, rfl, ha, hb⟩

/-- With a percent sign behind it, a pattern has to fit the beginning of a text. -/
theorem fits_append_percent :
    fits (p ++ ['%']) s = true ↔ ∃ part, part <+: s ∧ fits p part = true := by
  have hpercent (rest : List Char) : fits ['%'] rest = true :=
    fits_percent.mpr ⟨rest, [], (List.append_nil rest).symm, rfl⟩
  rw [fits_append]
  constructor
  · rintro ⟨part, rest, rfl, hpart, -⟩
    exact ⟨part, List.prefix_append part rest, hpart⟩
  · rintro ⟨part, ⟨rest, rfl⟩, hpart⟩
    exact ⟨part, rest, rfl, hpart, hpercent rest⟩

/-- With a percent sign before it, a pattern has to fit the end of a text. -/
theorem fits_percent_append :
    fits ('%' :: p) s = true ↔ ∃ part, part <:+ s ∧ fits p part = true := by
  rw [fits_percent]
  constructor
  · rintro ⟨before, part, rfl, hpart⟩
    exact ⟨part, List.suffix_append before part, hpart⟩
  · rintro ⟨part, ⟨before, rfl⟩, hpart⟩
    exact ⟨before, part, rfl, hpart⟩

/-! ### Plain texts -/

/-- Texts in which every character stands for itself. -/
def IsPlain (t : List Char) : Prop :=
  ∀ c ∈ t, c ≠ '%' ∧ c ≠ '_'

/-- A plain text fits itself only, up to ASCII case. -/
theorem fits_plain (ht : IsPlain t) :
    fits t s = true ↔ t.map Char.toLower = s.map Char.toLower := by
  induction t generalizing s with
  | nil => simp [fits_nil]
  | cons c t ih =>
    obtain ⟨⟨hpercent, hone⟩, ht⟩ := List.forall_mem_cons.mp ht
    rw [fits_cons hpercent]
    cases s with
    | nil => simp
    | cons d s =>
      rw [List.map_cons, List.map_cons, List.cons.injEq, ← ih ht]
      constructor
      · rintro ⟨e, rest, heq, htakes, hrest⟩
        cases heq
        exact ⟨eq_of_beq (htakes.resolve_left hone), hrest⟩
      · rintro ⟨heq, hrest⟩
        exact ⟨d, s, rfl, .inr (beq_iff_eq.mpr heq), hrest⟩

/-- The shortest text that fits a pattern and has no pattern characters itself. -/
def sample (t : List Char) : List Char :=
  (t.filter (· ≠ '%')).map fun c => if c = '_' then 'a' else c

theorem fits_sample (t : List Char) : fits t (sample t) = true := by
  induction t with
  | nil => rfl
  | cons c t ih =>
    by_cases hc : c = '%'
    · subst hc
      exact fits_percent.mpr ⟨[], sample t, rfl, ih⟩
    · rw [fits_cons hc]
      refine ⟨if c = '_' then 'a' else c, sample t, by simp [sample, hc], ?_, ih⟩
      by_cases hone : c = '_'
      · exact .inl hone
      · rw [if_neg hone]
        exact .inr (beq_self_eq_true _)

theorem isPlain_sample (t : List Char) : IsPlain (sample t) := by
  intro c hc
  obtain ⟨d, hd, rfl⟩ := List.mem_map.mp hc
  have hpercent : d ≠ '%' := by simpa using (List.mem_filter.mp hd).2
  split
  · decide
  · next hone => exact ⟨hpercent, hone⟩

/-- The characters of a plain text stay plain in lower case, and no others become plain. -/
theorem isPlain_map_toLower : IsPlain (t.map Char.toLower) ↔ IsPlain t := by
  have hpercent (c : Char) : c.toLower = '%' ↔ c = '%' :=
    ⟨Text.eq_of_toLower_eq (by decide), by rintro rfl; rfl⟩
  have hone (c : Char) : c.toLower = '_' ↔ c = '_' :=
    ⟨Text.eq_of_toLower_eq (by decide), by rintro rfl; rfl⟩
  simp only [IsPlain, List.forall_mem_map, ne_eq, hpercent, hone]

end Pattern

/-! ### Patterns of searches -/

namespace Predicate

variable {anchor : Anchor}

/-- A part of a text, where an anchor asks for it. -/
def Anchor.IsPart (anchor : Anchor) (part s : List Char) : Prop :=
  match anchor with
  | anywhere => part <:+: s
  | start => part <+: s
  | finish => part <:+ s

/-- A search text is found in a text, up to ASCII case. -/
def Anchor.Finds (anchor : Anchor) (text s : String) : Prop :=
  anchor.IsPart (text.toList.map Char.toLower) (s.toList.map Char.toLower)

namespace Anchor

theorem isPart_self (anchor : Anchor) (s : List Char) : anchor.IsPart s s := by
  cases anchor with
  | anywhere => exact List.infix_rfl
  | start => exact List.prefix_rfl
  | finish => exact List.suffix_rfl

theorem IsPart.subset {part s : List Char} (h : anchor.IsPart part s) : part ⊆ s := by
  cases anchor with
  | anywhere => exact List.IsInfix.subset h
  | start => exact List.IsPrefix.subset h
  | finish => exact List.IsSuffix.subset h

theorem isPart_map_iff {f : Char → Char} {x s : List Char} :
    anchor.IsPart x (s.map f) ↔ ∃ part, anchor.IsPart part s ∧ x = part.map f := by
  cases anchor with
  | anywhere => exact List.infix_map_iff
  | start => exact List.prefix_map_iff
  | finish => exact List.suffix_map_iff

/-- A text fits the pattern of a search if some part of it, where the anchor asks for it, fits the
search text as a pattern. -/
theorem fits_pattern (anchor : Anchor) (text s : String) :
    Pattern.fits (anchor.pattern text).toList s.toList = true ↔
      ∃ part, anchor.IsPart part s.toList ∧ Pattern.fits text.toList part = true := by
  cases anchor with
  | anywhere =>
    have hpattern : (anywhere.pattern text).toList = '%' :: (text.toList ++ ['%']) := by
      simp [pattern]
    simp only [hpattern, Pattern.fits_percent_append, Pattern.fits_append_percent, IsPart,
      List.infix_iff_prefix_suffix]
    constructor
    · rintro ⟨rest, hrest, part, hpart, hfits⟩
      exact ⟨part, ⟨rest, hpart, hrest⟩, hfits⟩
    · rintro ⟨part, ⟨rest, hpart, hrest⟩, hfits⟩
      exact ⟨rest, hrest, part, hpart, hfits⟩
  | start =>
    have hpattern : (start.pattern text).toList = text.toList ++ ['%'] := by simp [pattern]
    rw [hpattern]
    exact Pattern.fits_append_percent
  | finish =>
    have hpattern : (finish.pattern text).toList = '%' :: text.toList := by simp [pattern]
    rw [hpattern]
    exact Pattern.fits_percent_append

/-- A search for a plain text finds the text. -/
theorem fits_pattern_plain {text : String} (htext : Pattern.IsPlain text.toList) (s : String) :
    Pattern.fits (anchor.pattern text).toList s.toList = true ↔ anchor.Finds text s := by
  simp only [fits_pattern, Pattern.fits_plain htext, Finds, isPart_map_iff]

/-- Only a search for a plain text finds just the text. -/
theorem isPlain_of_fits_pattern {text : String}
    (h : ∀ s : String, Pattern.fits (anchor.pattern text).toList s.toList = true ↔ anchor.Finds text s) :
    Pattern.IsPlain text.toList := by
  let sample := String.ofList (Pattern.sample text.toList)
  have hsample : sample.toList = Pattern.sample text.toList := String.toList_ofList
  have hfits : Pattern.fits (anchor.pattern text).toList sample.toList = true := by
    rw [fits_pattern, hsample]
    exact ⟨_, anchor.isPart_self _, Pattern.fits_sample _⟩
  have hfound := (h sample).mp hfits
  rw [Finds, hsample] at hfound
  rw [← Pattern.isPlain_map_toLower]
  intro c hc
  exact Pattern.isPlain_map_toLower.mpr (Pattern.isPlain_sample text.toList) c (hfound.subset hc)

end Anchor

end Predicate

end SqlCompose
