import Mathlib.Data.List.Forall2
import SqlCompose.Insertion
import SqlCompose.Proofs.Sql.Lexing
import SqlCompose.Proofs.Text.WordChars
import SqlCompose.Sql.Statement

/-! The text of an INSERT statement, read back. If all names are words, it is the statement that
puts the bound values under these names; if one of them is empty, it is not a statement. -/

namespace SqlCompose

/-! ### Words and lists with commas -/

namespace Token

theorem ofText_word {s : String} (h : Text.IsWord s) : ofText? s = some (ofLetters s.toList) := by
  rw [ofText?, scan_word h, List.nil_append]

theorem placeholders_ofLetters (letters : List Char) : placeholders (ofLetters letters) = 0 := by
  rw [ofLetters]
  split <;> rfl

/-- A word that is not empty is one token. -/
theorem ofLetters_toList {s : String} (h : s ≠ "") : ofLetters s.toList = [word s] := by
  have hnil : s.toList ≠ [] := fun heq => h (String.toList_eq_nil_iff.mp heq)
  rw [ofLetters, if_neg (by simpa using hnil), String.ofList_toList]

theorem ofLetters_empty : ofLetters "".toList = [] := rfl

end Token

namespace Lexes

theorem word {s : String} (h : Text.IsWord s) :
    Lexes (.verbatim s) (Token.ofLetters s.toList) :=
  verbatim (Token.ofText_word h) (Token.placeholders_ofLetters _)

theorem join {fs : List Fragment} {tss : List (List Token)} (h : List.Forall₂ Lexes fs tss) :
    Lexes (.join ", " fs) ([Token.comma].intercalate tss) := by
  induction h with
  | nil => exact empty
  | @cons f ts fs tss hf h ih =>
    cases h with
    | nil =>
      rw [List.intercalate_singleton]
      exact hf
    | @cons g us fs tss hg h =>
      have hsplit : Fragment.join ", " (f :: g :: fs) =
          f ++ (.verbatim "," ++ (.verbatim " " ++ .join ", " (g :: fs))) := by
        have hjoin : Fragment.join ", " (f :: g :: fs) =
            f ++ .verbatim ", " ++ .join ", " (g :: fs) := rfl
        rw [hjoin]
        apply Fragment.ext <;> simp [← String.append_assoc]
      rw [List.intercalate_cons_cons, List.append_assoc, hsplit]
      have hrest := precede " " (c := ' ') (by decide) rfl rfl rfl ih
      exact hf.separated "," (c := ',') (by decide) rfl rfl rfl hrest

end Lexes

theorem Fragment.join_verbatim (separator : String) (names : List String) :
    join separator (names.map verbatim) = verbatim (separator.intercalate names) := by
  induction names with
  | nil => rfl
  | cons name names ih =>
    cases names with
    | nil => rw [String.intercalate_singleton]; rfl
    | cons name' names =>
      have hjoin : join separator ((name :: name' :: names).map verbatim) =
          verbatim name ++ verbatim separator ++ join separator ((name' :: names).map verbatim) :=
        rfl
      rw [hjoin, ih, String.intercalate_cons_cons]
      rfl

/-! ### Reading -/

namespace Statement

open Token

/-- The tokens of a row of values. -/
def rowTokens (row : List Value) : List Token :=
  .opening :: (listing row ++ [.closing])

theorem readNames_commas {names : List String} (h : ∀ name ∈ names, name ≠ "") (hne : names ≠ [])
    (rest : List Token) :
    readNames? ([Token.comma].intercalate (names.map fun name => ofLetters name.toList) ++ .closing :: rest) =
      some (names, rest) := by
  induction names with
  | nil => exact absurd rfl hne
  | cons name names ih =>
    rw [List.forall_mem_cons] at h
    cases names with
    | nil =>
      rw [List.map_singleton, List.intercalate_singleton, ofLetters_toList h.1]
      rfl
    | cons name' names =>
      have hrest := ih h.2 (List.cons_ne_nil _ _)
      rw [List.map_cons] at hrest
      rw [List.map_cons, List.map_cons, List.intercalate_cons_cons, ofLetters_toList h.1,
        List.append_assoc, List.append_assoc, List.singleton_append, List.singleton_append,
        readNames?, hrest]
      rfl

/-- An empty name leaves a comma or a parenthesis where a name has to stand. -/
theorem readNames_of_empty {names : List String} (h : names = [] ∨ "" ∈ names)
    (rest : List Token) :
    readNames? ([Token.comma].intercalate (names.map fun name => ofLetters name.toList) ++ .closing :: rest) =
      none := by
  induction names with
  | nil => rfl
  | cons name names ih =>
    by_cases hname : name = ""
    · subst hname
      cases names <;> rfl
    · have hmem : "" ∈ names := by
        rcases h with h | h
        · cases h
        · exact (List.mem_cons.mp h).resolve_left (Ne.symm hname)
      cases names with
      | nil => cases hmem
      | cons name' names =>
        have hrest := ih (.inr hmem)
        rw [List.map_cons] at hrest
        rw [List.map_cons, List.map_cons, List.intercalate_cons_cons, ofLetters_toList hname,
          List.append_assoc, List.append_assoc, List.singleton_append, List.singleton_append,
          readNames?, hrest]
        rfl

/-- The values of a row, up to the parenthesis that closes it. -/
theorem readRows_listing (before : List Value) {row : List Value} (h : row ≠ [])
    (rest : List Token) :
    readRows? before (listing row ++ .closing :: .comma :: .opening :: rest) =
        (readRows? [] rest).map ((before ++ row) :: ·) ∧
      readRows? before (listing row ++ [.closing]) = some [before ++ row] := by
  induction row generalizing before with
  | nil => exact absurd rfl h
  | cons v row ih =>
    cases row with
    | nil => exact ⟨rfl, rfl⟩
    | cons w row =>
      obtain ⟨hmore, hlast⟩ := ih (before ++ [v]) (List.cons_ne_nil _ _)
      rw [List.append_assoc, List.singleton_append] at hmore hlast
      exact ⟨hmore, hlast⟩

/-- Rows that are not empty are read back after the first parenthesis. -/
theorem readRows_commas {row : List Value} {rows : List (List Value)}
    (h : ∀ r ∈ row :: rows, r ≠ []) :
    ∃ ts, [Token.comma].intercalate ((row :: rows).map rowTokens) = .opening :: ts ∧
      readRows? [] ts = some (row :: rows) := by
  induction rows generalizing row with
  | nil =>
    have hread := (readRows_listing [] (h row List.mem_cons_self) []).2
    refine ⟨listing row ++ [.closing], ?_, hread⟩
    rw [List.map_singleton, List.intercalate_singleton, rowTokens]
  | cons row' rows ih =>
    rw [List.forall_mem_cons] at h
    obtain ⟨ts, hts, hread⟩ := ih h.2
    refine ⟨listing row ++ .closing :: .comma :: .opening :: ts, ?_, ?_⟩
    · rw [List.map_cons] at hts
      rw [List.map_cons, List.map_cons, List.intercalate_cons_cons, hts, rowTokens]
      simp
    · rw [(readRows_listing [] h.1 ts).1, hread]
      rfl

end Statement

/-! ### Insertions -/

namespace Insertion

open Statement

variable {i : Insertion}

/-- All names are words. -/
structure HasWords (i : Insertion) : Prop where
  table : Text.IsWord i.table
  columns : ∀ column ∈ i.columns, Text.IsWord column

/-- There is a name for the table and for each of its columns. -/
structure IsNamed (i : Insertion) : Prop where
  table : i.table ≠ ""
  columns : ∀ column ∈ i.columns, column ≠ ""

/-- The tokens of the statement for some rows. -/
def tokens (i : Insertion) (rows : List (List Value)) : List Token :=
  .word "INSERT" :: .word "INTO" :: (Token.ofLetters i.table.toList ++
    .opening :: ([Token.comma].intercalate (i.columns.map fun column => Token.ofLetters column.toList) ++
      .closing :: .word "VALUES" :: [Token.comma].intercalate (rows.map rowTokens)))

theorem lexes_statement (hi : i.HasWords) (rows : List (List Value)) :
    Lexes (i.statement rows) (i.tokens (rows.map (·.map Value.bound))) := by
  have hnames : Lexes (.verbatim (", ".intercalate i.columns))
      ([Token.comma].intercalate (i.columns.map fun column => Token.ofLetters column.toList)) := by
    rw [← Fragment.join_verbatim]
    refine .join ?_
    rw [List.forall₂_map_left_iff, List.forall₂_map_right_iff]
    exact List.forall₂_same.mpr fun column hc => .word (hi.columns column hc)
  have hrows : Lexes (.join ", " (rows.map fun row => (Fragment.boundList row).parenthesized))
      ([Token.comma].intercalate ((rows.map (·.map Value.bound)).map rowTokens)) := by
    refine .join ?_
    rw [List.map_map, List.forall₂_map_left_iff, List.forall₂_map_right_iff]
    exact List.forall₂_same.mpr fun row _ => (Lexes.boundList row).parenthesized
  have hinsert : Lexes (.verbatim "INSERT INTO") [.word "INSERT", .word "INTO"] :=
    .verbatim (by decide) rfl
  have hvalues : Lexes (.verbatim "VALUES") [.word "VALUES"] := .verbatim (by decide) rfl
  have hsplit : i.statement rows =
      .verbatim "INSERT INTO" ++ .verbatim " " ++ .verbatim i.table ++ .verbatim " " ++
        (Fragment.verbatim (", ".intercalate i.columns)).parenthesized ++ .verbatim " " ++
        .verbatim "VALUES" ++ .verbatim " " ++
        .join ", " (rows.map fun row => (Fragment.boundList row).parenthesized) := by
    have hopen (s : String) : " " ++ ("(" ++ s) = " (" ++ s := by
      rw [← String.append_assoc]
      rfl
    apply Fragment.ext
    · simp only [statement, head, Fragment.parenthesized, Fragment.sql_append,
        Fragment.sql_verbatim, String.append_assoc, String.reduceAppend, hopen]
    · simp [statement, Fragment.parenthesized]
  have h := ((((hinsert.spaced (.word hi.table)).spaced hnames.parenthesized).spaced
    hvalues).spaced hrows)
  rw [← hsplit] at h
  simpa [tokens] using h

/-- As many parameters as placeholders. -/
theorem placeholders_statement (hi : i.HasWords) (rows : List (List Value)) :
    ∃ ts, Token.ofText? (i.statement rows).sql = some ts ∧
      Token.placeholders ts = (i.statement rows).params.length := by
  obtain ⟨ts, hts, hcount, -⟩ := lexes_statement hi rows
  exact ⟨ts, hts, hcount⟩

/-- The statement is read back, if there is at least one row and all rows have values. -/
theorem ofFragment_statement (hi : i.HasWords) (hnamed : i.IsNamed) (hcolumns : i.columns ≠ [])
    {rows : List (List Value)} (hrows : rows ≠ []) (hvalues : ∀ row ∈ rows, row ≠ []) :
    ofFragment? (i.statement rows) =
      some (.insert i.table i.columns (rows.map (·.map Value.bound))) := by
  have hbound : ∀ row ∈ rows.map (·.map Value.bound), row ≠ [] := by
    intro row hrow
    obtain ⟨row, hmem, rfl⟩ := List.mem_map.mp hrow
    simpa using hvalues row hmem
  obtain ⟨first, rest, hcons⟩ : ∃ first rest, rows.map (·.map Value.bound) = first :: rest :=
    List.exists_cons_of_ne_nil (by simpa using hrows)
  rw [hcons] at hbound
  obtain ⟨ts, hts, hread⟩ := readRows_commas hbound
  rw [ofFragment?, (lexes_statement hi rows).tokens, hcons, Option.bind_some, tokens, hts,
    Token.ofLetters_toList hnamed.table, List.singleton_append, ofTokens?,
    readNames_commas hnamed.columns hcolumns]
  simp [hread]

/-- A name that is missing makes the text unreadable. -/
theorem ofFragment_of_not_isNamed (hi : i.HasWords) (h : ¬ i.IsNamed) (rows : List (List Value)) :
    ofFragment? (i.statement rows) = none := by
  rw [ofFragment?, (lexes_statement hi rows).tokens, Option.bind_some, tokens]
  by_cases htable : i.table = ""
  · rw [htable, Token.ofLetters_empty]
    rfl
  · have hempty : "" ∈ i.columns := by
      refine Decidable.byContradiction fun hmem => h ⟨htable, fun column hc heq => ?_⟩
      exact hmem (heq ▸ hc)
    rw [Token.ofLetters_toList htable, List.singleton_append, ofTokens?,
      readNames_of_empty (.inr hempty)]
    rfl

end Insertion

end SqlCompose
