import SqlCompose.Proofs.Condition.Tests

/-! Statements in pieces, with the places where an alias is declared or used kept apart from all
other text. A piece says which scope of the query an alias belongs to. A fragment that the caller
supplies is text, whatever stands in it. -/

namespace SqlCompose

/-- A scope of a query, by its number in the tree of aliases, and its table. -/
structure ScopeTable where
  number : Nat
  source : Source
deriving DecidableEq

namespace ScopeTable

def aliasName (t : ScopeTable) : String :=
  t.source.aliasName

end ScopeTable

/-- A piece of a statement: text, the alias of a table where it is declared, a column of a table, or
the beginning of the condition of a joined table. Operands in the condition may name columns of the
tables that this one and those around it are joined to. -/
inductive Piece where
  | text (f : Fragment)
  | table (t : ScopeTable)
  | column (t : ScopeTable) (name : String)
  | on (t : ScopeTable) (parents : List ScopeTable)
deriving DecidableEq

def Piece.written : Piece → Fragment
  | text f => f
  | table t => .verbatim (" AS " ++ t.aliasName)
  | column t name => .verbatim (t.aliasName ++ "." ++ name)
  | on _ _ => .verbatim " ON "

/-- A piece that declares nothing, and uses the alias of no other table than the given ones. -/
def Piece.IsWithin (tables : List ScopeTable) : Piece → Prop
  | text _ => True
  | column t _ => t ∈ tables
  | table _ | on _ _ => False

abbrev Pieces := List Piece

namespace Pieces

def written (l : Pieces) : Fragment :=
  l.foldr (fun p rest => p.written ++ rest) .empty

def ofText (sql : String) : Pieces :=
  [.text (.verbatim sql)]

def parenthesized (l : Pieces) : Pieces :=
  ofText "(" ++ l ++ ofText ")"

/-- Lists of pieces in a row, with `separator` between them. -/
def join (separator : String) : List Pieces → Pieces
  | [] => []
  | [a] => a
  | a :: b :: rest => a ++ ofText separator ++ join separator (b :: rest)

/-- One more test after those of a condition. -/
def glue (l : Pieces) (test : Connective × Pieces) : Pieces :=
  (if l.written.isEmpty then l else l ++ ofText (" " ++ test.1.text ++ " ")) ++ test.2

/-! ### What is written -/

@[simp] theorem written_nil : written [] = .empty := rfl

@[simp] theorem written_cons (p : Piece) (l : Pieces) :
    written (p :: l) = p.written ++ written l := rfl

@[simp] theorem written_append (l l' : Pieces) : written (l ++ l') = written l ++ written l' := by
  induction l with
  | nil => exact (Fragment.empty_append _).symm
  | cons p l ih => rw [List.cons_append, written_cons, written_cons, ih, Fragment.append_assoc]

theorem written_singleton (p : Piece) : written [p] = p.written :=
  Fragment.append_empty _

@[simp] theorem written_ofText (sql : String) : written (ofText sql) = .verbatim sql :=
  Fragment.append_empty _

@[simp] theorem written_parenthesized (l : Pieces) :
    written l.parenthesized = (written l).parenthesized := by
  rw [parenthesized, written_append, written_append, written_ofText, written_ofText]
  rfl

theorem written_join (separator : String) (l : List Pieces) :
    written (join separator l) = .join separator (l.map written) := by
  induction l with
  | nil => rfl
  | cons a l ih =>
    cases l with
    | nil => rfl
    | cons b rest =>
      rw [join, written_append, written_append, ih, written_ofText]
      rfl

theorem written_glue (l : Pieces) (test : Connective × Pieces) :
    written (l.glue test) = (written l).glue (test.1, written test.2) := by
  rw [glue, Fragment.glue, written_append]
  split
  · rfl
  · rw [written_append, written_ofText]
    rfl

theorem written_foldl_glue (tests : List (Connective × Pieces)) (l : Pieces) :
    written (tests.foldl glue l) =
      (tests.map fun t => (t.1, written t.2)).foldl Fragment.glue (written l) := by
  induction tests generalizing l with
  | nil => rfl
  | cons t tests ih => rw [List.foldl_cons, ih, written_glue]; rfl

/-! ### Pieces without declarations -/

/-- Pieces that declare nothing and use only the aliases of the given tables. -/
def IsWithin (tables : List ScopeTable) (l : Pieces) : Prop :=
  ∀ p ∈ l, p.IsWithin tables

variable {tables : List ScopeTable}

@[simp] theorem isWithin_nil : IsWithin tables [] := by simp [IsWithin]

@[simp] theorem isWithin_append {l l' : Pieces} :
    IsWithin tables (l ++ l') ↔ l.IsWithin tables ∧ l'.IsWithin tables :=
  List.forall_mem_append

@[simp] theorem isWithin_cons {p : Piece} {l : Pieces} :
    IsWithin tables (p :: l) ↔ p.IsWithin tables ∧ l.IsWithin tables :=
  List.forall_mem_cons

@[simp] theorem isWithin_ofText (sql : String) : IsWithin tables (ofText sql) := by
  simp [ofText, Piece.IsWithin]

@[simp] theorem isWithin_parenthesized {l : Pieces} :
    l.parenthesized.IsWithin tables ↔ l.IsWithin tables := by
  simp [parenthesized]

theorem IsWithin.mono {tables' : List ScopeTable} (h : tables ⊆ tables') {l : Pieces}
    (hl : l.IsWithin tables) : l.IsWithin tables' := by
  intro p hp
  have hp := hl p hp
  cases p with
  | text f => trivial
  | column t name => exact h hp
  | table t | on t parents => exact hp

theorem isWithin_join (separator : String) {l : List Pieces} (hl : ∀ a ∈ l, a.IsWithin tables) :
    (join separator l).IsWithin tables := by
  induction l with
  | nil => exact isWithin_nil
  | cons a l ih =>
    rw [List.forall_mem_cons] at hl
    cases l with
    | nil => exact hl.1
    | cons b rest => simpa [join, hl.1] using ih hl.2

theorem isWithin_glue {l : Pieces} (hl : l.IsWithin tables) {test : Connective × Pieces}
    (htest : test.2.IsWithin tables) : (l.glue test).IsWithin tables := by
  rw [glue]
  split <;> simp [hl, htest]

theorem isWithin_foldl_glue {tests : List (Connective × Pieces)} {l : Pieces}
    (hl : l.IsWithin tables) (htests : ∀ t ∈ tests, t.2.IsWithin tables) :
    (tests.foldl glue l).IsWithin tables := by
  induction tests generalizing l with
  | nil => exact hl
  | cons t tests ih =>
    rw [List.forall_mem_cons] at htests
    exact ih (isWithin_glue hl htests.1) htests.2

end Pieces

open Pieces (ofText)

/-! ### Columns and tests -/

/-- A column reference of a scope. A path of properties and a plain identifier are columns of its
own table. -/
def ColumnRef.pieces (t : ScopeTable) : ColumnRef → Pieces
  | .field path =>
    match t.source.columnName path with
    | .ok name => [.column t name]
    | .error _ => []
  | .raw text => if Text.isPlainIdentifier text then [.column t text] else ofText text
  | .fragment f => [.text f]

theorem ColumnRef.written_pieces {t : ScopeTable} {c : ColumnRef} {f : Fragment}
    (h : t.source.qualify c = .ok f) : (c.pieces t).written = f := by
  cases c with
  | field path =>
    rw [Source.qualify] at h
    rw [pieces]
    cases hname : t.source.columnName path with
    | error e =>
      rw [hname] at h
      cases h
    | ok name =>
      rw [hname] at h
      cases h
      exact Pieces.written_singleton _
  | raw text =>
    rw [Source.qualify] at h
    rw [pieces]
    split at h <;> cases h
    · next hplain => rw [if_pos hplain]; exact Pieces.written_singleton _
    · next hplain => rw [if_neg hplain]; exact Pieces.written_ofText text
  | fragment g =>
    cases h
    exact Pieces.written_singleton _

/-- A path of properties or a plain identifier. Other texts and fragments are taken as they are. -/
def ColumnRef.isQualified : ColumnRef → Bool
  | .field _ => true
  | .raw text => Text.isPlainIdentifier text
  | .fragment _ => false

theorem Source.qualify_of_isQualified {s : Source} {c : ColumnRef} (hc : c.isQualified = true)
    {f : Fragment} (h : s.qualify c = .ok f) :
    ∃ name, f = .verbatim (s.aliasName ++ "." ++ name) := by
  cases c with
  | field path =>
    rw [qualify] at h
    cases hname : s.columnName path with
    | error e =>
      rw [hname] at h
      cases h
    | ok name =>
      rw [hname] at h
      cases h
      exact ⟨name, rfl⟩
  | raw text =>
    rw [ColumnRef.isQualified] at hc
    rw [qualify, if_pos hc] at h
    cases h
    exact ⟨text, rfl⟩
  | fragment g => cases hc

@[simp] theorem ColumnRef.isWithin_pieces (t : ScopeTable) (c : ColumnRef) :
    (c.pieces t).IsWithin [t] := by
  cases c with
  | field path =>
    rw [pieces]
    split <;> simp [Piece.IsWithin]
  | raw text =>
    rw [pieces]
    split <;> simp [Piece.IsWithin]
  | fragment f => simp [pieces, Piece.IsWithin]

def Operand.pieces (t : ScopeTable) : Operand → Pieces
  | column c => c.pieces t
  | value v => [.text (.bound v)]
  | values vs => [.text (.boundList vs)]
  | null => ofText "NULL"

theorem Operand.written_pieces {t : ScopeTable} {o : Operand} {f : Fragment}
    (h : o.resolve t.source = .ok f) : (o.pieces t).written = f := by
  cases o with
  | column c => exact ColumnRef.written_pieces h
  | value v | values vs | null =>
    cases h
    exact Pieces.written_singleton _

@[simp] theorem Operand.isWithin_pieces (t : ScopeTable) (o : Operand) :
    (o.pieces t).IsWithin [t] := by
  cases o <;> simp [pieces, Piece.IsWithin]

theorem Operand.map_written_pieces {t : ScopeTable} {l : List Operand} {fs : List Fragment}
    (h : l.mapM (resolve t.source) = .ok fs) : (l.map (·.pieces t)).map Pieces.written = fs := by
  induction l generalizing fs with
  | nil => cases h; rfl
  | cons o l ih =>
    obtain ⟨f, fs, hf, hfs, rfl⟩ := mapM_cons_ok h
    rw [List.map_cons, List.map_cons, written_pieces hf, ih hfs]

namespace Test

/-- A test over operands in pieces, arranged as its text is. -/
def arrange (ops : List Operator) (operands : List Pieces) : Pieces :=
  let infixed (a : Pieces) (text : String) (b : Pieces) : Pieces :=
    a ++ ofText (" " ++ text ++ " ") ++ b
  match ops, operands with
  | [], a :: _ => a.parenthesized
  | [.between], a :: low :: high :: _ | [.not, .between], a :: low :: high :: _ =>
    infixed a (Operator.texts ops) low ++ ofText " AND " ++ high
  | [.isIn], a :: list :: _ | [.not, .isIn], a :: list :: _ =>
    infixed a (Operator.texts ops) list.parenthesized
  | [.not, .isNull], a :: _ => a ++ ofText " IS NOT NULL"
  | [.not], a :: _ => ofText "NOT " ++ a.parenthesized
  | [.not, .equal], a :: b :: _ => infixed a "<>" b
  | [.not, op], a :: b :: _ =>
    match op.opposite? with
    | some opposite => infixed a opposite.text b
    | none => infixed a (Operator.texts ops) b
  | _, a :: b :: _ => infixed a (Operator.texts ops) b
  | _, [a] => a ++ ofText (" " ++ Operator.texts ops)
  | _, [] => []

theorem written_arrange (ops : List Operator) (operands : List Pieces) :
    (arrange ops operands).written = render ops (operands.map Pieces.written) := by
  unfold arrange
  split
  case h_9 op a b rest _ _ _ _ =>
    cases op <;> cases rest <;>
      simp_all [render, Operator.opposite?, Fragment.append_assoc]
  case h_10 ops a b rest _ _ _ _ _ _ _ _ _ =>
    cases rest <;> unfold render <;> split <;> simp_all [Fragment.append_assoc]
  case h_11 | h_12 =>
    unfold render
    split <;> simp_all [Fragment.appendText]
  all_goals simp [render, Fragment.append_assoc, Fragment.appendText]

theorem isWithin_arrange {tables : List ScopeTable} (ops : List Operator) {operands : List Pieces}
    (h : ∀ o ∈ operands, o.IsWithin tables) : (arrange ops operands).IsWithin tables := by
  unfold arrange
  split <;> simp_all
  split <;> simp_all

def pieces (t : ScopeTable) (test : Test) : Pieces :=
  arrange test.withNullTest.operators (test.withNullTest.operands.map (·.pieces t))

theorem written_pieces {t : ScopeTable} {test : Test} {f : Fragment}
    (h : test.compile t.source = .ok f) : (test.pieces t).written = f := by
  simp only [compile] at h
  split at h
  · cases h
  · obtain ⟨operands, hoperands, h⟩ := bind_ok h
    cases h
    rw [pieces, written_arrange, Operand.map_written_pieces hoperands]

theorem written_pieces_nested (t : ScopeTable) (ops : List Operator) (f : Fragment) :
    ((Test.mk ops [.column (.fragment f)]).pieces t).written = render ops [f] := by
  have hnull : (Test.mk ops [.column (.fragment f)]).withNullTest =
      ⟨ops, [.column (.fragment f)]⟩ := by
    unfold withNullTest
    split <;> simp_all
  rw [pieces, hnull, written_arrange]
  exact congrArg (render ops [·]) (Pieces.written_singleton (.text f))

theorem isWithin_pieces (t : ScopeTable) (test : Test) : (test.pieces t).IsWithin [t] :=
  isWithin_arrange _ fun _ ho => by
    obtain ⟨o, -, rfl⟩ := List.mem_map.mp ho
    exact o.isWithin_pieces t

end Test

/-! ### Conditions -/

namespace Predicate

/-- The pieces of a test after what is pending. -/
def piecesAdded (t : ScopeTable) (p : Predicate) (ops : List Operator) (operands : List Operand) :
    Pieces :=
  (Test.mk (p.pending.operators ++ ops) operands).pieces t

theorem written_piecesAdded {t : ScopeTable} {p q : Predicate} {ops : List Operator}
    {operands : List Operand} (hs : p.source = t.source) (h : p.test ops operands = .ok q) :
    (p.piecesAdded t ops operands).written = p.added ops operands :=
  Test.written_pieces (hs ▸ (test_ok h).1)

/-- The tests that the calls add, in pieces. -/
def Calls.pieces (t : ScopeTable) : {p q : Predicate} → p.Calls q → List (Connective × Pieces)
  | _, _, .none _ => []
  | _, _, .negate before => before.pieces t
  | _, _, .join before _ => before.pieces t
  | _, _, .test (q := q) before ops operands _ =>
    before.pieces t ++ [(q.pending.connective, q.piecesAdded t ops operands)]
  | _, _, .scope (q := q) (n := n) before inner _ =>
    if n.compile.isEmpty then before.pieces t
    else before.pieces t ++ [(q.pending.connective,
      Test.arrange (q.pending.operators ++ []) [(inner.pieces t).foldl Pieces.glue []])]

theorem Calls.written_pieces {t : ScopeTable} {p q : Predicate} (h : p.Calls q)
    (hs : p.source = t.source) :
    (h.pieces t).map (fun test => (test.1, test.2.written)) = h.tests := by
  induction h with
  | none => rfl
  | negate _ ih | join _ _ ih => exact ih hs
  | test before ops operands h ih =>
    rw [pieces, tests, List.map_append, ih hs, List.map_singleton,
      written_piecesAdded (before.source_eq.trans hs) h]
  | @scope _ q n _ before inner h ih ihInner =>
    rcases nest_ok h with ⟨hn, -⟩ | ⟨hn, h⟩
    · simpa only [pieces, tests, hn, if_true] using ih hs
    · have hsource : q.source = t.source := before.source_eq.trans hs
      have hnested : ((inner.pieces t).foldl Pieces.glue []).written = n.compile := by
        rw [Pieces.written_foldl_glue, ihInner hsource]
        exact inner.body_eq.symm
      have hadded : (Test.arrange (q.pending.operators ++ [])
          [(inner.pieces t).foldl Pieces.glue []]).written =
            q.added [] [.column (.fragment n.compile)] := by
        rw [Test.written_arrange, List.map_singleton, hnested, ← written_piecesAdded hsource h,
          piecesAdded, Test.written_pieces_nested]
      simp only [pieces, tests, hn, Bool.false_eq_true, if_false, List.map_append, ih hs,
        List.map_singleton, hadded]

theorem Calls.isWithin_pieces (t : ScopeTable) {p q : Predicate} (h : p.Calls q) :
    ∀ test ∈ h.pieces t, test.2.IsWithin [t] := by
  induction h with
  | none => simp [pieces]
  | negate _ ih | join _ _ ih => exact ih
  | test before ops operands h ih =>
    rw [pieces, List.forall_mem_append, List.forall_mem_singleton]
    exact ⟨ih, Test.isWithin_pieces t _⟩
  | scope before inner h ih ihInner =>
    rw [pieces]
    split
    · exact ih
    · rw [List.forall_mem_append, List.forall_mem_singleton]
      refine ⟨ih, Test.isWithin_arrange _ ?_⟩
      rw [List.forall_mem_singleton]
      exact Pieces.isWithin_foldl_glue Pieces.isWithin_nil ihInner

/-- The condition after calls on it, in pieces. -/
theorem Calls.body_written {t : ScopeTable} {p q : Predicate} (h : p.Calls q)
    (hs : p.source = t.source) {l : Pieces} (hl : p.body = l.written) :
    q.body = ((h.pieces t).foldl Pieces.glue l).written := by
  rw [Pieces.written_foldl_glue, h.written_pieces hs, ← hl]
  exact h.body_eq

end Predicate

/-! ### Projections -/

/-- A function around an item in pieces. -/
def Wrapper.arrange (w : Wrapper) (item : Pieces) : Pieces :=
  let rest : Fragment :=
    match w.function with
    | .cast t => .verbatim (" AS " ++ t.keyword)
    | _ => w.arguments.foldr (fun v rest => .verbatim ", " ++ .bound v ++ rest) .empty
  ofText (w.function.name ++ "(") ++ item ++ [.text rest] ++ ofText ")"

theorem Wrapper.written_arrange (w : Wrapper) (item : Pieces) :
    (w.arrange item).written = w.apply item.written := by
  simp only [arrange, Pieces.written_append, Pieces.written_ofText, Pieces.written_singleton]
  rfl

theorem Wrapper.written_foldr (ws : List Wrapper) (item : Pieces) :
    (ws.foldr arrange item).written = ws.foldr apply item.written := by
  induction ws with
  | nil => rfl
  | cons w ws ih => rw [List.foldr_cons, written_arrange, ih, List.foldr_cons]

theorem Wrapper.isWithin_foldr {tables : List ScopeTable} (ws : List Wrapper) {item : Pieces}
    (h : item.IsWithin tables) : (ws.foldr arrange item).IsWithin tables := by
  induction ws with
  | nil => exact h
  | cons w ws ih => simpa [arrange, Piece.IsWithin] using ih

namespace Projection

/-- An item in pieces, inside functions and under a name, arranged as its text is. -/
def arrange (p : Projection) (wrappers : List Wrapper) (item : Pieces) (alias? : Option String) :
    Pieces :=
  let wrapped := (p.pending ++ wrappers).foldr Wrapper.arrange item
  match alias? with
  | some aliasName =>
    if p.isExpression then wrapped else wrapped ++ ofText (" AS " ++ aliasName)
  | none => wrapped

theorem written_arrange (p : Projection) (wrappers : List Wrapper) (item : Pieces)
    (alias? : Option String) :
    (p.push wrappers item.written alias?).items =
      p.items ++ [(p.arrange wrappers item alias?).written] := by
  simp only [push, arrange]
  cases alias? with
  | none => rw [Wrapper.written_foldr]
  | some aliasName => cases p.isExpression <;> simp [Wrapper.written_foldr, Fragment.appendText]

theorem isWithin_arrange {tables : List ScopeTable} (p : Projection) (wrappers : List Wrapper)
    {item : Pieces} (h : item.IsWithin tables) (alias? : Option String) :
    (p.arrange wrappers item alias?).IsWithin tables := by
  have hwrapped := Wrapper.isWithin_foldr (p.pending ++ wrappers) h
  simp only [arrange]
  cases alias? with
  | none => exact hwrapped
  | some aliasName =>
    cases p.isExpression with
    | true => exact hwrapped
    | false => exact Pieces.isWithin_append.mpr ⟨hwrapped, Pieces.isWithin_ofText _⟩

/-- The items that the calls add, in pieces. -/
def Calls.pieces (t : ScopeTable) : {p q : Projection} → p.Calls q → List Pieces
  | _, _, .none _ => []
  | _, _, .wrap before _ => before.pieces t
  | _, _, .column (q := q) before wrappers c alias? _ =>
    before.pieces t ++ [q.arrange wrappers (c.pieces t) (q.nameOf c alias?)]
  | _, _, .raw (q := q) before sql => before.pieces t ++ [q.arrange [] (ofText sql) Option.none]
  | _, _, .value (q := q) before s alias? _ =>
    before.pieces t ++ [q.arrange [] [.text (s.toValue.toOption.elim .empty .bound)] alias?]
  | _, _, .group (q := q) before aliasName inner =>
    before.pieces t ++
      [q.arrange [⟨.group, []⟩] (Pieces.join " " (inner.pieces t)) (some aliasName)]

/-- One more item, in pieces. -/
theorem items_push {p : Projection} {before : List Fragment} {items : List Pieces}
    (hp : p.items = before ++ items.map Pieces.written) (wrappers : List Wrapper) {item : Pieces}
    {f : Fragment} (hitem : item.written = f) (alias? : Option String) :
    (p.push wrappers f alias?).items =
      before ++ (items ++ [p.arrange wrappers item alias?]).map Pieces.written := by
  rw [← hitem, written_arrange, hp, List.map_append, List.append_assoc]
  rfl

theorem Calls.items_written {t : ScopeTable} {p q : Projection} (h : p.Calls q)
    (hs : p.source = t.source) : q.items = p.items ++ (h.pieces t).map Pieces.written := by
  induction h with
  | none => exact (List.append_nil _).symm
  | wrap _ _ ih => exact ih hs
  | column before wrappers c alias? h ih =>
    obtain ⟨item, hitem, rfl⟩ := apply_ok h
    rw [before.source_eq.trans hs] at hitem
    exact items_push (ih hs) wrappers (ColumnRef.written_pieces hitem) _
  | raw before sql ih => exact items_push (ih hs) [] (Pieces.written_ofText sql) _
  | value before s alias? h ih =>
    obtain ⟨v, hv, rfl⟩ := value_ok h
    refine items_push (ih hs) [] ?_ alias?
    rw [hv, Pieces.written_singleton]
    rfl
  | group before aliasName inner ih ihInner =>
    refine items_push (ih hs) _ ?_ _
    rw [Pieces.written_join, compile, inner.isExpression_eq, ihInner (before.source_eq.trans hs)]
    rfl

theorem isWithin_push {tables : List ScopeTable} {items : List Pieces}
    (hitems : ∀ item ∈ items, item.IsWithin tables) (p : Projection) (wrappers : List Wrapper)
    {new : Pieces} (hnew : new.IsWithin tables) (alias? : Option String) :
    ∀ item ∈ items ++ [p.arrange wrappers new alias?], item.IsWithin tables :=
  List.forall_mem_append.mpr
    ⟨hitems, List.forall_mem_singleton.mpr (isWithin_arrange p wrappers hnew alias?)⟩

theorem Calls.isWithin_pieces (t : ScopeTable) {p q : Projection} (h : p.Calls q) :
    ∀ item ∈ h.pieces t, item.IsWithin [t] := by
  induction h with
  | none => exact List.forall_mem_nil _
  | wrap _ _ ih => exact ih
  | column _ wrappers c alias? _ ih => exact isWithin_push ih _ wrappers (c.isWithin_pieces t) _
  | raw _ sql ih => exact isWithin_push ih _ [] (Pieces.isWithin_ofText sql) _
  | value _ s alias? _ ih => exact isWithin_push ih _ [] (by simp [Piece.IsWithin]) _
  | group _ aliasName inner ih ihInner =>
    exact isWithin_push ih _ _ (Pieces.isWithin_join " " ihInner) _

end Projection

end SqlCompose
