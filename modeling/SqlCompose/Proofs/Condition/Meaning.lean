import Mathlib.Data.List.Forall2
import SqlCompose.Proofs.Condition.Spelling
import SqlCompose.Proofs.Condition.Tests

/-! What calls on a condition say, and what their text says. The text of a condition over
columns and values is read back to one expression, and its result is that of the expression
which the calls describe, for all values of the columns. -/

namespace SqlCompose

/-- What some calls have said: conditions in a row, each with the connective before it, and
whether the next one is negated and how it is joined. -/
structure Account where
  negated : Bool := false
  connective : Connective := .and
  row : List (Connective × Condition) := []
deriving DecidableEq

namespace Account

def negate (a : Account) : Account :=
  { a with negated := !a.negated }

def join (a : Account) (c : Connective) : Account :=
  { a with connective := c }

/-- One more condition. What has been said about it is used up. -/
def add (a : Account) (c : Condition) : Account :=
  { row := a.row ++ [(a.connective, if a.negated then .not c else c)] }

/-- The conditions as one expression, where AND binds tighter than OR. -/
def expression? (a : Account) : Option Condition :=
  match a.row with
  | [] => none
  | first :: rest => some (.chain first.2 rest)

/-- A scope is one condition. If nothing is said in it, it is none, but it uses up what has
been said about it. -/
def scope (a inner : Account) : Account :=
  match inner.expression? with
  | none => { row := a.row }
  | some c => a.add c

end Account

namespace Predicate

/-- What the calls of a history say. Calls other than tests over columns and values say
nothing that is described here. -/
def Calls.account? : {p q : Predicate} → p.Calls q → Option Account
  | _, _, .none _ => some {}
  | _, _, .negate before => before.account?.map .negate
  | _, _, .join before c => before.account?.map (.join · c)
  | _, _, .test (q := q) before ops operands _ => do
    return (← before.account?).add (← Test.said? q.source ops operands)
  | _, _, .scope before inner _ => do return (← before.account?).scope (← inner.account?)

end Predicate

/-! ### Texts that say a condition -/

/-- The tokens of a text are a sentence, and its result is always that of the condition. -/
def Fragment.Means (k : Level) (f : Fragment) (c : Condition) : Prop :=
  ∃ ts d, Lexes f ts ∧ Sentence k ts d ∧ ∀ ρ, d.eval ρ = c.eval ρ

namespace Fragment

variable {f g : Fragment} {c d : Condition}

theorem Means.group (h : f.Means .disjunction c) : f.parenthesized.Means .item c := by
  obtain ⟨ts, e, hf, hs, he⟩ := h
  exact ⟨_, e, hf.parenthesized, .group hs, he⟩

theorem Means.not (h : f.Means .item c) :
    (.verbatim "NOT " ++ f : Fragment).Means .item (.not c) := by
  obtain ⟨ts, e, hf, hs, he⟩ := h
  have hsplit : (.verbatim "NOT " ++ f : Fragment) = .verbatim "NOT" ++ .verbatim " " ++ f := by
    apply Fragment.ext <;> simp
  have hnot : Lexes (.verbatim "NOT") [.word "NOT"] := .verbatim (by decide) rfl
  refine ⟨_, .not e, hsplit ▸ hnot.spaced hf, .not hs, fun ρ => ?_⟩
  rw [Condition.eval, Condition.eval, he]

theorem Means.and (hf : f.Means .conjunction c) (hg : g.Means .item d) :
    (f.appendText (" " ++ Connective.and.text ++ " ") ++ g).Means .conjunction (.and c d) := by
  obtain ⟨ts, c', hf, hc, hevalc⟩ := hf
  obtain ⟨us, d', hg, hd, hevald⟩ := hg
  have hand : Token.ofText? "AND" = some [.word "AND"] := by decide
  refine ⟨_, .and c' d', hf.infixed "AND" hand rfl hg, .and hc hd, fun ρ => ?_⟩
  rw [Condition.eval, Condition.eval, hevalc, hevald]

theorem Means.or (hf : f.Means .conjunction c) (hg : g.Means .disjunction d) :
    (f.appendText (" " ++ Connective.or.text ++ " ") ++ g).Means .disjunction (.or c d) := by
  obtain ⟨ts, c', hf, hc, hevalc⟩ := hf
  obtain ⟨us, d', hg, hd, hevald⟩ := hg
  have hor : Token.ofText? "OR" = some [.word "OR"] := by decide
  refine ⟨_, .or c' d', hf.infixed "OR" hor rfl hg, .or hc hd, fun ρ => ?_⟩
  rw [Condition.eval, Condition.eval, hevalc, hevald]

theorem Means.single (h : f.Means .item c) : f.Means .conjunction c := by
  obtain ⟨ts, d, hf, hs, hd⟩ := h
  exact ⟨ts, d, hf, .single hs, hd⟩

theorem Means.last (h : f.Means .conjunction c) : f.Means .disjunction c := by
  obtain ⟨ts, d, hf, hs, hd⟩ := h
  exact ⟨ts, d, hf, .last hs, hd⟩

/-- What is put after the second of two texts is put after both. -/
theorem rowAfter_append (f g : Fragment) (l : List (Connective × Fragment)) :
    (f ++ g).rowAfter l = f ++ g.rowAfter l := by
  induction l generalizing g with
  | nil => rfl
  | cons piece l ih =>
    rw [rowAfter, rowAfter, ← ih]
    simp only [appendText, append_assoc]

/-- A piece of text says a condition, after the same connective. -/
def PieceMeans (piece : Connective × Fragment) (said : Connective × Condition) : Prop :=
  piece.1 = said.1 ∧ piece.2.Means .item said.2

theorem Means.rowAfter {texts : List (Connective × Fragment)} {row : List (Connective × Condition)}
    (h : List.Forall₂ PieceMeans texts row) (hf : f.Means .conjunction c) :
    (f.rowAfter texts).Means .disjunction (.chain c row) := by
  induction h generalizing f c with
  | nil => exact hf.last
  | @cons piece said texts row hpiece _ ih =>
    obtain ⟨k, g⟩ := piece
    obtain ⟨k, d⟩ := said
    obtain ⟨rfl, hg⟩ := hpiece
    cases k with
    | and => exact ih (hf.and hg)
    | or =>
      rw [Fragment.rowAfter, rowAfter_append]
      exact hf.or (ih hg.single)

/-- Pieces in a row say the conditions in a row. -/
theorem Means.row {first : Connective × Fragment} {texts : List (Connective × Fragment)}
    {said : Connective × Condition} {conditions : List (Connective × Condition)}
    (h : List.Forall₂ PieceMeans (first :: texts) (said :: conditions)) :
    (Fragment.row (first :: texts)).Means .disjunction (.chain said.2 conditions) := by
  cases h with
  | cons hfirst hrest => exact Means.rowAfter hrest hfirst.2.single

theorem Means.isEmpty {k : Level} (h : f.Means k c) : f.isEmpty = false := by
  obtain ⟨ts, d, hf, hs, -⟩ := h
  refine eq_false_of_ne_true fun hempty => hs.ne_nil ?_
  have hsql : f.sql = "" := String.isEmpty_iff.mp hempty
  have htokens := hf.tokens
  rw [tokens?, hsql] at htokens
  cases htokens
  rfl

theorem isEmpty_of_means {texts : List (Connective × Fragment)}
    {row : List (Connective × Condition)} (h : List.Forall₂ PieceMeans texts row) :
    ∀ piece ∈ texts, piece.2.isEmpty = false := by
  induction h with
  | nil => simp
  | cons hpiece _ ih => exact List.forall_mem_cons.mpr ⟨hpiece.2.isEmpty, ih⟩

end Fragment

/-! ### Conditions that say what was said -/

namespace Predicate

/-- What is pending, and the tests so far, are what an account has of them. -/
structure Tells (p : Predicate) (a : Account) : Prop where
  pending_eq : p.pending = ⟨Operator.negation a.negated, a.connective⟩
  body_eq : ∃ texts, p.body = Fragment.row texts ∧ List.Forall₂ Fragment.PieceMeans texts a.row

namespace Tells

variable {p : Predicate} {a : Account}

theorem fresh (source : Source) : Tells { source } {} :=
  ⟨rfl, [], rfl, .nil⟩

theorem negate (h : p.Tells a) : p.negateNext.Tells a.negate := by
  refine ⟨?_, h.body_eq⟩
  rw [negateNext, h.pending_eq, Account.negate]
  cases a.negated <;> rfl

theorem join (h : p.Tells a) (c : Connective) : (p.joinNext c).Tells (a.join c) := by
  refine ⟨?_, h.body_eq⟩
  rw [joinNext, h.pending_eq]
  rfl

theorem drop (h : p.Tells a) : Tells { p with pending := {} } { row := a.row } :=
  ⟨rfl, h.body_eq⟩

theorem add (h : p.Tells a) {text : Fragment} {c : Condition}
    (ht : text.Means .item (if a.negated then .not c else c)) :
    Tells { p.push p.pending.connective text with pending := {} } (a.add c) := by
  refine ⟨rfl, ?_⟩
  obtain ⟨texts, hbody, htexts⟩ := h.body_eq
  refine ⟨texts ++ [(a.connective, text)], ?_, ?_⟩
  · rw [Fragment.row_append_singleton (Fragment.isEmpty_of_means htexts), ← hbody, h.pending_eq]
    rfl
  · exact List.rel_append htexts (.cons ⟨rfl, ht⟩ .nil)

/-- A test over columns and values is always accepted. -/
theorem test (h : p.Tells a) (hs : Text.isName p.source.aliasName = true) {ops : List Operator}
    {operands : List Operand} {c : Condition} (hc : Test.said? p.source ops operands = some c) :
    ∃ q, p.test ops operands = .ok q ∧ q.Tells (a.add c) := by
  obtain ⟨text, ts, d, htext, hlex, hspell, heval⟩ := Test.spells_of_said hs a.negated hc
  have hmeans : text.Means .item (if a.negated then .not c else c) := by
    refine ⟨ts, d, hlex, .test hspell, fun ρ => (heval ρ).trans ?_⟩
    cases a.negated <;> rfl
  refine ⟨_, ?_, h.add hmeans⟩
  rw [Predicate.test, h.pending_eq, htext]
  rfl

/-- The conditions of an account, where there are any, are what the text says. -/
theorem means (h : p.Tells a) {c : Condition} (hc : a.expression? = some c) :
    p.compile.Means .disjunction c := by
  obtain ⟨texts, hbody, htexts⟩ := h.body_eq
  rw [compile, hbody]
  rw [Account.expression?] at hc
  split at hc
  · cases hc
  · next first rest hrow =>
    cases hc
    rw [hrow] at htexts
    cases htexts with
    | cons hfirst hrest => exact Fragment.Means.row (.cons hfirst hrest)

theorem isEmpty (h : p.Tells a) (hc : a.expression? = none) : p.compile = .empty := by
  obtain ⟨texts, hbody, htexts⟩ := h.body_eq
  rw [compile, hbody]
  rw [Account.expression?] at hc
  split at hc
  · next hrow =>
    rw [hrow] at htexts
    cases htexts
    rfl
  · cases hc

/-- The text of a nested condition that is not empty. -/
theorem compile_nested (negated : Bool) (s : Source) (f : Fragment) :
    (Test.mk (Operator.negation negated ++ []) [.column (.fragment f)]).compile s =
      .ok (if negated then .verbatim "NOT " ++ f.parenthesized else f.parenthesized) := by
  cases negated <;> rfl

/-- A scope is always accepted. -/
theorem nest (h : p.Tells a) {n : Predicate} {b : Account} (hn : n.Tells b) :
    ∃ q, p.nest n.compile = .ok q ∧ q.Tells (a.scope b) := by
  cases hb : b.expression? with
  | none =>
    refine ⟨{ p with pending := {} }, ?_, ?_⟩
    · rw [Predicate.nest, hn.isEmpty hb]
      rfl
    · rw [Account.scope, hb]
      exact h.drop
  | some c =>
    have hmeans := hn.means hb
    have htext : (if a.negated then .verbatim "NOT " ++ n.compile.parenthesized
        else n.compile.parenthesized : Fragment).Means .item (if a.negated then .not c else c) := by
      cases a.negated with
      | false => exact hmeans.group
      | true => exact hmeans.group.not
    have hscope : a.scope b = a.add c := by rw [Account.scope, hb]
    refine ⟨_, ?_, hscope ▸ h.add htext⟩
    rw [Predicate.nest, hmeans.isEmpty, if_neg Bool.false_ne_true, expr, Predicate.test,
      h.pending_eq, compile_nested]
    rfl

end Tells

/-- Every call on a condition tells one more thing. -/
theorem Calls.tells {p q : Predicate} (h : p.Calls q) (hp : p.Tells {})
    (hs : Text.isName p.source.aliasName = true) {a : Account} (ha : h.account? = some a) :
    q.Tells a := by
  induction h generalizing a with
  | none => cases ha; exact hp
  | negate before ih =>
    obtain ⟨b, hb, rfl⟩ := Option.map_eq_some_iff.mp ha
    exact (ih hp hs hb).negate
  | join before c ih =>
    obtain ⟨b, hb, rfl⟩ := Option.map_eq_some_iff.mp ha
    exact (ih hp hs hb).join c
  | test before ops operands h ih =>
    obtain ⟨b, hb, ha⟩ := Option.bind_eq_some_iff.mp ha
    obtain ⟨c, hc, ha⟩ := Option.bind_eq_some_iff.mp ha
    cases ha
    obtain ⟨r, hr, htells⟩ := (ih hp hs hb).test (before.source_eq ▸ hs) hc
    cases h.symm.trans hr
    exact htells
  | @scope p q n _ before inner h ih ihInner =>
    obtain ⟨b, hb, ha⟩ := Option.bind_eq_some_iff.mp ha
    obtain ⟨c, hc, ha⟩ := Option.bind_eq_some_iff.mp ha
    cases ha
    have hn : n.Tells c := ihInner (.fresh q.source) (before.source_eq ▸ hs) hc
    obtain ⟨r, hr, htells⟩ := (ih hp hs hb).nest hn
    cases h.symm.trans hr
    exact htells

/-- A condition over columns and values, built by calls whose scopes are nested to any depth,
accepts every further such call. If the calls describe nothing, its text is empty. If they
describe an expression, its text has one parameter for each placeholder, and with the
parameters in place it reads as exactly one expression, which has the same result as the one
described, whatever the columns hold. -/
theorem text_means_account {source : Source} (hs : Text.isName source.aliasName = true)
    {p : Predicate} (h : ({ source } : Predicate).Calls p) {a : Account}
    (ha : h.account? = some a) :
    (a.expression? = none → p.compile = .empty) ∧
    (∀ c, a.expression? = some c → p.compile.isEmpty = false ∧
      ∃ ts d, Lexes p.compile ts ∧ Condition.ofTokens? ts = some d ∧
        (∀ e, Sentence .disjunction ts e ↔ e = d) ∧ ∀ ρ, d.eval ρ = c.eval ρ) ∧
    (∀ ops operands c, Test.said? source ops operands = some c →
      ∃ q, p.test ops operands = .ok q) ∧
    (∀ n (inner : p.nested.Calls n) b, inner.account? = some b →
      ∃ q, p.nest n.compile = .ok q) := by
  have htells : p.Tells a := h.tells (.fresh source) hs ha
  have hsource : p.source = source := h.source_eq
  refine ⟨htells.isEmpty, ?_, ?_, ?_⟩
  · intro c hc
    have hempty := (htells.means hc).isEmpty
    obtain ⟨ts, d, hlex, hsentence, heval⟩ := htells.means hc
    refine ⟨hempty, ts, d, hlex, Condition.ofTokens_of_sentence hsentence, ?_, heval⟩
    intro e
    constructor
    · exact fun he => Condition.sentence_unique he hsentence
    · rintro rfl
      exact hsentence
  · intro ops operands c hc
    obtain ⟨q, hq, -⟩ := htells.test (hsource ▸ hs) (hsource ▸ hc)
    exact ⟨q, hq⟩
  · intro n inner b hb
    have hn : n.Tells b := inner.tells (.fresh p.source) (hsource ▸ hs) hb
    obtain ⟨q, hq, -⟩ := htells.nest hn
    exact ⟨q, hq⟩

/-- A negated range, and a negated scope in which a comparison with the null marker stands. -/
theorem text_means_account_of_negations :
    let source : Source :=
      { schema := ⟨[]⟩, model := { typeName := "Employee", table := "employee" }, aliasName := "e" }
    let column (name : String) : Term := .column (some "e") name
    let range := Condition.between false (column "a") (.literal (.integer 1))
      (.literal (.integer 5))
    let any := Condition.or (.isNull false (column "b"))
      (.like false (column "c") (.literal (.text "x%")))
    let described := Condition.or (.not range) (.not any)
    Text.isName source.aliasName = true ∧
    ∃ (p : Predicate) (h : ({ source } : Predicate).Calls p) (a : Account),
      h.account? = some a ∧ a.expression? = some described ∧
      p.compile = ⟨"e.a NOT BETWEEN ? AND ? OR NOT (e.b IS NULL OR e.c LIKE ?)",
        [.integer 1, .integer 5, .text "x%"]⟩ ∧
      ∃ ts d, Lexes p.compile ts ∧ Condition.ofTokens? ts = some d ∧
        (∀ e, Sentence .disjunction ts e ↔ e = d) ∧ ∀ ρ, d.eval ρ = described.eval ρ := by
  intro source column range any described
  have hs : Text.isName source.aliasName = true := by decide
  let inner := Calls.test
    (.join (.test (.none { source }) [.equal] [.column (.raw "b"), .null] rfl) .or)
    [.like] [.column (.raw "c"), .value (.text "x%")] rfl
  let calls := Calls.scope
    (.negate (.join (.test (.negate (.none { source })) [.between]
      [.column (.raw "a"), .value (.integer 1), .value (.integer 5)] rfl) .or)) inner rfl
  have ha : calls.account? = some { row := [(.and, .not range), (.or, .not any)] } := by
    decide +kernel
  have htext := (text_means_account hs calls ha).2.1 described rfl
  exact ⟨hs, _, calls, _, ha, rfl, by decide +kernel, htext.2⟩

end Predicate

end SqlCompose
