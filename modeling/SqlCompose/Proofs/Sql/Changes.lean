import SqlCompose.Proofs.Condition.Spelling
import SqlCompose.Proofs.References
import SqlCompose.Proofs.Sql.Insertions
import SqlCompose.Sql.Statement

/-! The texts of UPDATE and DELETE statements, read back. Between the names and the values that are
assigned stands a condition, and what is read is the statement that assigns the bound values where
the condition holds, or deletes there. -/

namespace SqlCompose

/-- A fragment is read as a statement, and it has a parameter for each of its placeholders. -/
def Fragment.Says (f : Fragment) (s : Statement) : Prop :=
  ∃ ts, Lexes f ts ∧ Statement.ofTokens? ts = some s

theorem Fragment.Says.ofFragment {f : Fragment} {s : Statement} (h : f.Says s) :
    Statement.ofFragment? f = some s := by
  obtain ⟨ts, hts, hs⟩ := h
  rw [Statement.ofFragment?, hts.tokens, Option.bind_some, hs]

/-! ### Parts of statements -/

namespace Statement

open Token

/-- The tokens of an assignment. -/
def assignmentTokens (a : String × Value) : List Token :=
  [.word a.1, .comparison .equal, .literal a.2]

theorem readFilter_of_sentence {ts : List Token} {c : Condition}
    (h : Sentence .disjunction ts c) : readFilter? (.word "WHERE" :: ts) = some (some c) := by
  rw [readFilter?, Condition.ofTokens_of_sentence h]
  rfl

/-- Assignments are read up to the condition behind them. -/
theorem readAssignments_commas {a : String × Value} {rest : List (String × Value)}
    {ts : List Token} {c : Condition} (h : Sentence .disjunction ts c) :
    readAssignments? ([Token.comma].intercalate ((a :: rest).map assignmentTokens) ++
      .word "WHERE" :: ts) = some (a :: rest, some c) := by
  induction rest generalizing a with
  | nil =>
    rw [List.map_singleton, List.intercalate_singleton]
    show readAssignments? (.word a.1 :: .comparison .equal :: .literal a.2 :: .word "WHERE" :: ts) = _
    rw [readAssignments?, readFilter_of_sentence h]
    · rfl
    · nofun
  | cons b rest ih =>
    have hrest := ih (a := b)
    rw [List.map_cons] at hrest
    rw [List.map_cons, List.map_cons, List.intercalate_cons_cons, List.append_assoc,
      List.append_assoc]
    show readAssignments? (.word a.1 :: .comparison .equal :: .literal a.2 :: .comma :: _) = _
    rw [readAssignments?]
    exact congrArg (Option.map _) hrest

end Statement

/-- A text with tokens is not empty. -/
theorem Lexes.isEmpty_eq_false {f : Fragment} {ts : List Token} (h : Lexes f ts) (hts : ts ≠ []) :
    f.isEmpty = false := by
  obtain ⟨sql, params⟩ := f
  obtain ⟨raw, hraw, -, rfl⟩ := h
  rw [Fragment.isEmpty, String.isEmpty_eq_false_iff]
  rintro rfl
  obtain rfl : raw = [] := (Option.some.inj hraw).symm
  exact hts rfl

/-! ### Updates -/

namespace RowUpdate

open Statement

theorem lexes_assignment {p : Column × Value} (h : Text.isName p.1.name = true) :
    Lexes (assignment p) (assignmentTokens (p.1.name, p.2.bound)) := by
  have hequal : Token.ofText? "=" = some [.comparison .equal] := by decide
  have htext : .verbatim p.1.name ++ .verbatim (" " ++ "=" ++ " ") ++ .bound p.2 = assignment p :=
    Fragment.ext (String.append_assoc ..) rfl
  rw [← htext]
  exact (Lexes.verbatim (ofText_name h) rfl).infixed "=" hequal rfl (.bound _)

theorem lexes_qualified {table column : String} (htable : Text.isName table = true)
    (hcolumn : Text.isName column = true) (v : Value) :
    Lexes ⟨qualified table column ++ " = ?", [v]⟩
      ([.word table, .dot, .word column] ++ .comparison .equal :: [.literal v.bound]) := by
  have hequal : Token.ofText? "=" = some [.comparison .equal] := by decide
  have hplain : Text.isPlainIdentifier column = true := by
    simp only [Text.isName, Bool.and_eq_true] at hcolumn
    exact hcolumn.1.1
  have htext : .verbatim (table ++ "." ++ column) ++ .verbatim (" " ++ "=" ++ " ") ++ .bound v =
      (⟨qualified table column ++ " = ?", [v]⟩ : Fragment) := by
    rw [qualified, if_pos hplain]
    exact Fragment.ext (String.append_assoc ..) rfl
  rw [← htext]
  exact (Lexes.qualified htable hcolumn).infixed "=" hequal rfl (.bound v)

variable {u : RowUpdate} {l : List (Column × Value)} {ts : List Token} {c : Condition}

/-- An update with a condition, compiled and read back. -/
theorem says_compile (hu : u.assignments = l.map assignment) (hl : l ≠ [])
    (htable : Text.isName u.table = true) (hcolumns : ∀ p ∈ l, Text.isName p.1.name = true)
    (hfilter : Lexes u.filter.body ts) (hc : Sentence .disjunction ts c) :
    ∃ f, u.compile = .ok f ∧
      f.Says (.update u.table (l.map fun p => (p.1.name, p.2.bound)) (some c)) := by
  have hassignments : Lexes (.join ", " u.assignments)
      ([Token.comma].intercalate (l.map fun p => assignmentTokens (p.1.name, p.2.bound))) := by
    rw [hu]
    refine .join ?_
    rw [List.forall₂_map_left_iff, List.forall₂_map_right_iff]
    exact List.forall₂_same.mpr fun p hp => lexes_assignment (hcolumns p hp)
  have hupdate : Lexes (.verbatim "UPDATE") [.word "UPDATE"] := .verbatim (by decide) rfl
  have hname : Lexes (.verbatim u.table) [.word u.table] := .verbatim (ofText_name htable) rfl
  have hset : Token.ofText? "SET" = some [.word "SET"] := by decide
  have hwhere : Token.ofText? "WHERE" = some [.word "WHERE"] := by decide
  have hsome : u.assignments.isEmpty = false := by
    rw [hu]
    simpa using hl
  have htested : u.filter.isEmpty = false := hfilter.isEmpty_eq_false hc.ne_nil
  have hcompile : u.compile = .ok (.verbatim "UPDATE" ++ .verbatim " " ++ .verbatim u.table ++
      .verbatim (" " ++ "SET" ++ " ") ++ .join ", " u.assignments ++
      .verbatim (" " ++ "WHERE" ++ " ") ++ u.filter.body) := by
    have hhead : "UPDATE " = "UPDATE" ++ " " := rfl
    rw [compile, hsome, htested, hhead]
    refine congrArg Except.ok (Fragment.ext ?_ ?_)
    · simp [Predicate.compile, String.append_assoc]
    · simp [Predicate.compile]
  refine ⟨_, hcompile, _, ((hupdate.spaced hname).infixed "SET" hset rfl hassignments).infixed
    "WHERE" hwhere rfl hfilter, ?_⟩
  obtain ⟨a, rest, hcons⟩ : ∃ a rest, l.map (fun p => (p.1.name, p.2.bound)) = a :: rest :=
    List.exists_cons_of_ne_nil (by simpa using hl)
  have htokens : l.map (fun p => assignmentTokens (p.1.name, p.2.bound)) =
      (a :: rest).map assignmentTokens := by
    rw [← hcons, List.map_map]
    rfl
  have hread : readAssignments? ([Token.comma].intercalate ((a :: rest).map assignmentTokens) ++
      .word "WHERE" :: ts) = some (a :: rest, some c) := readAssignments_commas hc
  rw [htokens, hcons]
  simp only [List.append_assoc, List.singleton_append]
  exact congrArg (Option.map _) hread

/-- The condition that the key is a given one. -/
def keyed (table column : String) (key : Value) : Condition :=
  .compare .equal (.column (some table) column) (.literal key.bound)

/-- The update of a record, compiled and read back. -/
theorem says_compileRecord {ρ : Type} {T : RecordType ρ} {r : ρ} {key : Column}
    {row : List Value} {v : Value} (hkey : T.model.primaryKey? = some key)
    (hrow : T.values r = .ok row) (hv : T.key r = .ok v)
    (htable : Text.isName T.model.table = true) (hcolumn : Text.isName key.name = true)
    (hcolumns : ∀ name ∈ T.model.columnNames, Text.isName name = true)
    (hassigned : assigned T.model row ≠ []) :
    ∃ f, compileRecord T r = .ok f ∧
      f.Says (.update T.model.table
        ((assigned T.model row).map fun p => (p.1.name, p.2.bound))
        (some (keyed T.model.table key.name v))) := by
  have hspelling : TestSpelling _ (keyed T.model.table key.name v) :=
    .compare .equal (.qualified T.model.table key.name) (.literal v.bound)
  have hnames : ∀ p ∈ assigned T.model row, Text.isName p.1.name = true := by
    intro p hp
    obtain ⟨c, w⟩ := p
    have hmem : c ∈ T.model.storedColumns := (List.of_mem_zip (List.mem_filter.mp hp).1).1
    exact hcolumns c.name (List.mem_map_of_mem hmem)
  obtain ⟨f, hcompile, hsays⟩ := says_compile (l := assigned T.model row)
    (u := { assignments := (assigned T.model row).map assignment
            filter := { (ofModel T.schema T.model).filter with
              body := ⟨qualified T.model.table key.name ++ " = ?", [v]⟩ } })
    rfl hassigned htable hnames (lexes_qualified htable hcolumn v) (.last (.single (.test hspelling)))
  exact ⟨f, (bind_of_ok (ofRecord_ok hkey hrow hv) _).trans hcompile, hsays⟩

end RowUpdate

/-! ### Deletions -/

namespace RowDelete

open Statement

/-- A deletion with a condition, compiled and read back. -/
theorem says_compile {d : RowDelete} {ts : List Token} {c : Condition}
    (htable : Text.isName d.table = true) (hfilter : Lexes d.filter.body ts)
    (hc : Sentence .disjunction ts c) : d.compile.Says (.delete d.table (some c)) := by
  have hdelete : Lexes (.verbatim "DELETE FROM") [.word "DELETE", .word "FROM"] :=
    .verbatim (by decide) rfl
  have hname : Lexes (.verbatim d.table) [.word d.table] := .verbatim (ofText_name htable) rfl
  have hwhere : Token.ofText? "WHERE" = some [.word "WHERE"] := by decide
  have htested : d.filter.isEmpty = false := hfilter.isEmpty_eq_false hc.ne_nil
  have hcompile : d.compile = .verbatim "DELETE FROM" ++ .verbatim " " ++ .verbatim d.table ++
      .verbatim (" " ++ "WHERE" ++ " ") ++ d.filter.body := by
    have hhead : "DELETE FROM " = "DELETE FROM" ++ " " := rfl
    rw [compile, htested, hhead]
    apply Fragment.ext
    · simp [Predicate.compile, String.append_assoc]
    · simp [Predicate.compile]
  rw [hcompile]
  refine ⟨_, (hdelete.spaced hname).infixed "WHERE" hwhere rfl hfilter, ?_⟩
  exact congrArg (Option.map _) (readFilter_of_sentence hc)

/-- The condition that a key is one of the given ones. -/
def keyed (table column : String) (keys : List Value) : Condition :=
  .isIn false (.column (some table) column) ((keys.map Value.bound).map .literal)

/-- A deletion by keys, compiled and read back. -/
theorem says_ofKeys (schema : Schema) {m : Model} {key : Column}
    (hkey : m.primaryKey? = some key) (htable : Text.isName m.table = true)
    (hcolumn : Text.isName key.name = true) {keys : List Scalar} {values : List Value}
    (hvalues : keys.mapM Scalar.toValue = .ok values) :
    ∃ d, ofKeys schema m keys = .ok d ∧
      d.compile.Says (.delete m.table (some (keyed m.table key.name values))) := by
  have hqualified : (ofModel schema m).filter.source.qualify key.byName =
      .ok (.verbatim (m.table ++ "." ++ key.name)) :=
    Source.qualify_name rfl hcolumn
  have hofKeys : ofKeys schema m keys = .ok (asking schema m (m.table ++ "." ++ key.name) values) := by
    rw [ofKeys_eq, keyedBy_eq hkey hqualified, hvalues]
    rfl
  have hlexes := Test.lexes_isIn (Lexes.qualified htable hcolumn) values false
  have hspelling : TestSpelling _ (keyed m.table key.name values) :=
    .isIn false (.qualified m.table key.name) (values.map Value.bound)
  exact ⟨_, hofKeys, says_compile htable hlexes (.last (.single (.test hspelling)))⟩

end RowDelete

end SqlCompose
