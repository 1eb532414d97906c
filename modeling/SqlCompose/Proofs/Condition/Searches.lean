import SqlCompose.Proofs.Condition.History
import SqlCompose.Proofs.Condition.Meaning
import SqlCompose.Proofs.Sql.Patterns

/-! What searches for a text find. The search text becomes a part of a LIKE pattern as it is, so a
plain text is found wherever it occurs, and the pattern characters of another keep their meaning. A
search in several columns holds for the rows where it would in one of them. -/

namespace SqlCompose

/-! ### Alternatives -/

namespace Truth

theorem or_eq_true {a b : Option Bool} : or a b = some true ↔ a = some true ∨ b = some true := by
  rcases a with - | - | - <;> rcases b with - | - | - <;> decide

theorem or_eq_false {a b : Option Bool} : or a b = some false ↔ a = some false ∧ b = some false := by
  rcases a with - | - | - <;> rcases b with - | - | - <;> decide

end Truth

namespace Condition

variable {ρ : Valuation} {first : Condition} {rest : List Condition}

theorem eval_alternatives_true :
    (chain first (rest.map (Connective.or, ·))).eval ρ = some true ↔
      ∃ c ∈ first :: rest, c.eval ρ = some true := by
  induction rest generalizing first with
  | nil => simp [chain]
  | cons next rest ih =>
    simp only [List.map_cons, chain, eval, Truth.or_eq_true, ih, List.exists_mem_cons_iff]

theorem eval_alternatives_false :
    (chain first (rest.map (Connective.or, ·))).eval ρ = some false ↔
      ∀ c ∈ first :: rest, c.eval ρ = some false := by
  induction rest generalizing first with
  | nil => simp [chain]
  | cons next rest ih =>
    simp only [List.map_cons, chain, eval, Truth.or_eq_false, ih, List.forall_mem_cons]

end Condition

/-! ### Columns -/

/-- A column's text is the spelling of an operand. -/
def Source.Reads (s : Source) (c : ColumnRef) (a : Term) : Prop :=
  ∃ f ts, s.qualify c = .ok f ∧ Lexes f ts ∧ TermSpelling ts a

/-- An operand is a text that fits a pattern. -/
def Term.Fits (ρ : Valuation) (pattern : String) (a : Term) : Prop :=
  ∃ value, a.value ρ = .text value ∧ Pattern.fits pattern.toList value.toList = true

variable {ρ : Valuation} {pattern : String} {a : Term}

theorem Condition.eval_like_true :
    (like false a (.literal (.text pattern))).eval ρ = some true ↔ a.Fits ρ pattern := by
  simp only [eval, Truth.negateIf, Bool.false_eq_true, if_false, likeTerms, Term.Fits]
  cases a.value ρ <;> simp [Term.value]

theorem Condition.eval_like_false :
    (like false a (.literal (.text pattern))).eval ρ = some false ↔
      a.value ρ ≠ .null ∧ ¬ a.Fits ρ pattern := by
  simp only [eval, Truth.negateIf, Bool.false_eq_true, if_false, likeTerms, Term.Fits]
  cases a.value ρ <;> simp [Term.value]

namespace Predicate

/-! ### One column -/

section

variable [b : Binding] {p : Predicate} {negate : Bool}
  (h : p.pending.operators = Operator.negation negate)

include h

/-- A search in a column binds its pattern after whatever the column binds. -/
theorem search_eq (anchor : Anchor) (column : ColumnRef) (text : String) :
    p.search anchor column text = (p.source.qualify column).map fun f =>
      Mark.apply p (.tested (Test.infixed f (Operator.texts (Operator.negation negate ++ [.like]))
        (.bound (.text (anchor.pattern text))))) := by
  have ht := Test.withNullTest_of_ne (t := ⟨Operator.negation negate ++ [.like],
    [.column column, .value (.text (anchor.pattern text))]⟩) (by simp)
  have harity : 2 = Operator.arity (Operator.negation negate ++ [.like]) := by
    cases negate <;> rfl
  refine (test_eq_compile h [.like] [.column column, .value (.text (anchor.pattern text))]).trans ?_
  rw [Test.compile_eq_map ht harity, List.mapM_cons, Operand.resolve]
  cases p.source.qualify column with
  | error e => rfl
  | ok f => cases negate <;> rfl

end

/-- The text of a search in a column that reads as an operand. -/
theorem searchText_means {s : Source} {column : ColumnRef} (h : s.Reads column a) (text : String) :
    ∃ found, searchText s text column = .ok found ∧
      found.Means .item (.like false a (.literal (.text (Anchor.anywhere.pattern text)))) := by
  obtain ⟨f, ts, hf, hlex, ha⟩ := h
  have hpattern := Lexes.bound (.text (Anchor.anywhere.pattern text))
  have hcompile : searchText s text column = .ok _ := Test.compile_pair rfl hf rfl nofun
  exact ⟨_, hcompile, _, _, Test.lexes_like hlex hpattern false,
    .test (.like false ha (.literal _)), fun _ => rfl⟩

/-! ### Several columns -/

theorem searchTexts_mean {s : Source} {columns : List ColumnRef} {terms : List Term}
    (h : List.Forall₂ s.Reads columns terms) (text : String) :
    ∃ texts, columns.mapM (searchText s text) = .ok texts ∧
      List.Forall₂ Fragment.PieceMeans (texts.map (Connective.or, ·)) (terms.map fun a =>
        (.or, .like false a (.literal (.text (Anchor.anywhere.pattern text))))) := by
  induction h with
  | nil => exact ⟨[], rfl, .nil⟩
  | cons hcolumn _ ih =>
    obtain ⟨found, hfound, hmeans⟩ := searchText_means hcolumn text
    obtain ⟨texts, htexts, hrest⟩ := ih
    exact ⟨found :: texts, mapM_cons_of_ok hfound htexts, .cons ⟨rfl, hmeans⟩ hrest⟩

/-- A scope with a condition in it adds that condition, negated if it is asked for. -/
theorem Mark.ofScope_means (negate : Bool) {f : Fragment} {c : Condition}
    (h : f.Means .disjunction c) :
    ∃ added, ofScope negate f = .tested added ∧
      added.Means .item (if negate then .not c else c) := by
  rw [ofScope, h.isEmpty, if_neg Bool.false_ne_true]
  refine ⟨_, rfl, ?_⟩
  cases negate with
  | false => exact h.group
  | true => exact h.group.not

/-- A search in several columns adds one test. It is true where it would be in one of the columns,
and false where none of them is NULL and it would be in none. -/
theorem searchAny_means {p : Predicate} {negate : Bool}
    (h : p.pending.operators = Operator.negation negate) {columns : List ColumnRef}
    (hcolumns : columns ≠ []) {terms : List Term}
    (hterms : List.Forall₂ p.source.Reads columns terms) (text : String) :
    ∃ added c, p.searchAny columns text = .ok (Mark.apply p (.tested added)) ∧
      added.Means .item (if negate then .not c else c) ∧
      ∀ ρ : Valuation,
        (c.eval ρ = some true ↔ ∃ a ∈ terms, a.Fits ρ (Anchor.anywhere.pattern text)) ∧
        (c.eval ρ = some false ↔
          ∀ a ∈ terms, a.value ρ ≠ .null ∧ ¬ a.Fits ρ (Anchor.anywhere.pattern text)) := by
  obtain ⟨texts, htexts, hpieces⟩ := searchTexts_mean hterms text
  rw [searchAny_eq h, htexts, Except.map]
  cases hterms with
  | nil => exact absurd rfl hcolumns
  | @cons column a columns terms _ _ =>
    let alternative (a : Term) : Condition :=
      .like false a (.literal (.text (Anchor.anywhere.pattern text)))
    cases texts with
    | nil => cases hpieces
    | cons found texts =>
      have hrow : (Fragment.row ((found :: texts).map (Connective.or, ·))).Means .disjunction
          (.chain (alternative a) ((terms.map alternative).map (Connective.or, ·))) := by
        rw [List.map_map]
        exact Fragment.Means.row hpieces
      obtain ⟨added, hadded, hmeans⟩ := Mark.ofScope_means negate hrow
      refine ⟨added, _, by rw [hadded], hmeans, fun ρ => ⟨?_, ?_⟩⟩
      · rw [Condition.eval_alternatives_true]
        simp [alternative, Condition.eval_like_true]
      · rw [Condition.eval_alternatives_false]
        simp [alternative, Condition.eval_like_false]

/-! ### After any calls -/

/-- Searches for a text in a condition after any calls. The pattern that a search binds is fitted by
the texts that have some part, where the search asks for it, which fits the search text as a pattern;
these are the texts that the search text is found in, for all of them, exactly if it has no pattern
characters. A search in several columns adds one test, negated if it is asked for, which is true for
the rows where some column holds a text that fits the pattern. -/
theorem searches_find (s : Source) (hist : History) (text : String) :
    let p := hist.run { source := s }
    let negate := Mark.isNegated (hist.log s)
    (∀ (anchor : Anchor) column f, s.qualify column = .ok f →
      ∃ added, p.search anchor column text = .ok (Mark.apply p (.tested added)) ∧
        added.params = f.params ++ [.text (anchor.pattern text)]) ∧
    (∀ (anchor : Anchor) (value : String),
      Pattern.fits (anchor.pattern text).toList value.toList = true ↔
        ∃ part, anchor.IsPart part value.toList ∧ Pattern.fits text.toList part = true) ∧
    (∀ anchor : Anchor, Pattern.IsPlain text.toList ↔ ∀ value : String,
      Pattern.fits (anchor.pattern text).toList value.toList = true ↔ anchor.Finds text value) ∧
    ∀ columns terms, columns ≠ [] → List.Forall₂ s.Reads columns terms →
      ∃ added c, p.searchAny columns text = .ok (Mark.apply p (.tested added)) ∧
        added.Means .item (if negate then .not c else c) ∧
        ∀ ρ : Valuation,
          (c.eval ρ = some true ↔ ∃ a ∈ terms, a.Fits ρ (Anchor.anywhere.pattern text)) ∧
          (c.eval ρ = some false ↔
            ∀ a ∈ terms, a.value ρ ≠ .null ∧ ¬ a.Fits ρ (Anchor.anywhere.pattern text)) ∧
          (Pattern.IsPlain text.toList → (c.eval ρ = some true ↔
            ∃ a ∈ terms, ∃ value, a.value ρ = .text value ∧ Anchor.anywhere.Finds text value)) := by
  intro p negate
  have hp : p.pending.operators = Operator.negation negate := hist.operators_run s
  have hs : p.source = s := hist.source_run _
  refine ⟨fun anchor column f hf => ?_, fun anchor value => anchor.fits_pattern text value,
    fun anchor => ?_, fun columns terms hcolumns hterms => ?_⟩
  · rw [search_eq hp, hs, hf, Except.map]
    have hbound : (Fragment.bound (.text (anchor.pattern text))).params =
        [.text (anchor.pattern text)] := rfl
    exact ⟨_, rfl, by simp [Test.infixed, hbound]⟩
  · exact ⟨fun htext value => Anchor.fits_pattern_plain htext value, Anchor.isPlain_of_fits_pattern⟩
  · obtain ⟨added, c, hadded, hmeans, heval⟩ := searchAny_means hp hcolumns (hs ▸ hterms) text
    refine ⟨added, c, hadded, hmeans, fun ρ => ⟨(heval ρ).1, (heval ρ).2, fun htext => ?_⟩⟩
    simp only [(heval ρ).1, Term.Fits, Anchor.fits_pattern_plain htext]

/-- A search for letters in two columns. -/
theorem searches_find_of_two_columns :
    let source : Source :=
      { schema := ⟨[]⟩, model := { typeName := "Invoice", table := "invoice" }, aliasName := "abc" }
    let p : Predicate := { source }
    let columns : List ColumnRef := [.raw "note", .raw "numero"]
    let terms : List Term := [.column (some "abc") "note", .column (some "abc") "numero"]
    (p.searchAny columns "gh").map (·.body) =
        .ok ⟨"(abc.note LIKE ? OR abc.numero LIKE ?)", [.text "%gh%", .text "%gh%"]⟩ ∧
      List.Forall₂ source.Reads columns terms ∧
      ∃ added c, p.searchAny columns "gh" = .ok (Mark.apply p (.tested added)) ∧
        added.Means .item c ∧
        ∀ ρ : Valuation, c.eval ρ = some true ↔
          ∃ a ∈ terms, ∃ value, a.value ρ = .text value ∧ Anchor.anywhere.Finds "gh" value := by
  intro source p columns terms
  have hs : Text.isName source.aliasName = true := by decide
  have hterms : List.Forall₂ source.Reads columns terms :=
    .cons (Operand.exists_spelling (o := .column (.raw "note")) hs rfl)
      (.cons (Operand.exists_spelling (o := .column (.raw "numero")) hs rfl) .nil)
  obtain ⟨-, -, -, hany⟩ := searches_find source .done "gh"
  obtain ⟨added, c, hadded, hmeans, heval⟩ := hany columns terms (List.cons_ne_nil _ _) hterms
  have hplain : Pattern.IsPlain "gh".toList :=
    List.forall_mem_cons.mpr ⟨by decide, List.forall_mem_singleton.mpr (by decide)⟩
  exact ⟨by decide +kernel, hterms, added, c, hadded, hmeans, fun ρ => (heval ρ).2.2 hplain⟩

/-- A search for an underscore finds a text that has none. -/
theorem underscore_finds_letter :
    let source : Source :=
      { schema := ⟨[]⟩, model := { typeName := "Invoice", table := "invoice" }, aliasName := "abc" }
    let p : Predicate := { source }
    (p.search .anywhere (.raw "note") "_").map (·.body) = .ok ⟨"abc.note LIKE ?", [.text "%_%"]⟩ ∧
      Pattern.fits "%_%".toList "a".toList = true ∧ ¬ Anchor.anywhere.Finds "_" "a" := by
  refine ⟨by decide +kernel, by decide, ?_⟩
  change ¬ ['_'] <:+: ['a']
  decide

end Predicate

end SqlCompose
