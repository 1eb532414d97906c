import Mathlib.Algebra.Ring.Parity
import Mathlib.Data.List.DropRight
import SqlCompose.Proofs.Condition.Spelling
import SqlCompose.Proofs.Query.Conditions
import SqlCompose.Proofs.Script.Steps

/-! Conditions as logs of what was done to them. A condition carries what is pending for its next
test along; here this is found by looking back over the log, up to the last call that used up what
was pending. The text of a condition is the row of the tests and of the conditions in its log, one
for each call that succeeded and was not ignored. -/

namespace SqlCompose

namespace Predicate

/-! ### Histories -/

/-- What happens to a condition: calls, scopes nested in it, and conditions of joins that are
attached. A call may fail, and a scope may come to its end or break off with an error. -/
inductive History where
  | done
  | call (fragments : List Fragment) (c : PredicateCall) (rest : History)
  | scope (ended : Except Error Unit) (inside rest : History)
  | absorb (condition : Fragment) (rest : History)

/-- The error of a call that failed. -/
def failure? : Except Error Predicate → Option Error
  | .ok _ => none
  | .error e => some e

namespace History

/-- The condition after a history. What fails leaves it as it was. -/
def run [b : Binding] : History → Predicate → Predicate
  | done, p => p
  | call fragments c rest, p => rest.run ((c.apply fragments p).toOption.getD p)
  | scope ended inside rest, p =>
    rest.run <| (ended.bind fun _ => p.nest (inside.run p.nested).compile).toOption.getD p
  | absorb condition rest, p => rest.run (p.absorb condition)

/-- Whether and how each call fails, in order. -/
def failures [b : Binding] : History → Predicate → List (Option Error)
  | done, _ => []
  | call fragments c rest, p =>
    let r := c.apply fragments p
    failure? r :: rest.failures (r.toOption.getD p)
  | scope ended inside rest, p =>
    let r := ended.bind fun _ => p.nest (inside.run p.nested).compile
    failure? r :: rest.failures (r.toOption.getD p)
  | absorb condition rest, p => none :: rest.failures (p.absorb condition)

end History

/-! ### Logs -/

/-- What one call did to a condition. A scope without tests is ignored. -/
inductive Mark where
  | negated
  | joined (c : Connective)
  | observed
  | tested (text : Fragment)
  | ignored
  | absorbed (condition : Fragment)
  | failed (e : Error)
deriving DecidableEq

namespace Mark

/-- Tests, and scopes that turn out to be empty, use up what is pending. -/
def usesUp : Mark → Bool
  | tested _ | ignored => true
  | _ => false

def connective? : Mark → Option Connective
  | joined c => some c
  | _ => none

def failure? : Mark → Option Error
  | failed e => some e
  | _ => none

/-- What has happened since what was pending was last used up. -/
def recent (log : List Mark) : List Mark :=
  log.rtakeWhile fun m => !m.usesUp

/-- The next test is negated if it was said so an odd number of times. -/
def isNegated (log : List Mark) : Bool :=
  decide (Odd ((recent log).count negated))

/-- The next test is joined as was said last, and with AND if nothing was. -/
def connective (log : List Mark) : Connective :=
  ((recent log).filterMap connective?).getLast?.getD .and

/-- What a call adds to the text after what was done before, and the connective before it. -/
def piece? (before : List Mark) : Mark → Option (Connective × Fragment)
  | tested text => some (connective before, text)
  | absorbed condition =>
    if condition.isEmpty then none else some (.and, condition.parenthesized)
  | _ => none

/-- What the calls of a log add to the text, after those before it. -/
def piecesAfter : (before log : List Mark) → List (Connective × Fragment)
  | _, [] => []
  | before, m :: rest => (m.piece? before).toList ++ piecesAfter (before ++ [m]) rest

/-- The text that a log describes. -/
def text (log : List Mark) : Fragment :=
  Fragment.row (piecesAfter [] log)

/-- A test, with a single NOT before its operators if it is negated. -/
def ofTest [b : Binding] (s : Source) (negate : Bool) (ops : List Operator)
    (operands : List Operand) : Except Error Mark :=
  ((Test.mk (Operator.negation negate ++ ops) operands).compile s).map tested

/-- A scope with its text, in parentheses. -/
def ofScope (negate : Bool) (nested : Fragment) : Mark :=
  if nested.isEmpty then ignored
  else tested (if negate then .verbatim "NOT " ++ nested.parenthesized else nested.parenthesized)

end Mark

/-- The text of a search in one column. -/
def searchText [b : Binding] (s : Source) (text : String) (column : ColumnRef) :
    Except Error Fragment :=
  (Test.mk [.like] [.column column, .value (.text (Anchor.anywhere.pattern text))]).compile s

end Predicate

open Predicate (Mark)

/-- What a call does to a condition on a table, if the next test is negated or is not. -/
def PredicateCall.mark [b : Binding] (fragments : List Fragment) (s : Source) (negate : Bool) :
    PredicateCall → Except Error Mark
  | not => .ok .negated
  | join c => .ok (.joined c)
  | compare op left right => do
    Mark.ofTest s negate [op]
      [.column (left.value fragments), ← (right.value fragments).toOperand]
  | between column low high => do
    let low ← (low.value fragments).toOperand
    let high ← (high.value fragments).toOperand
    Mark.ofTest s negate [.between] [.column (column.value fragments), low, high]
  | isIn column values => do
    Mark.ofTest s negate [.isIn]
      [.column (column.value fragments), .values (← values.mapM Scalar.toValue)]
  | inQuery column query =>
    Mark.ofTest s negate [.isIn]
      [.column (column.value fragments), .column (.fragment (query.value fragments))]
  | isNull column => Mark.ofTest s negate [.isNull] [.column (column.value fragments)]
  | search anchor column text =>
    Mark.ofTest s negate [.like]
      [.column (column.value fragments), .value (.text (anchor.pattern text))]
  | searchAny columns text => do
    let texts ← (columns.map (·.value fragments)).mapM (Predicate.searchText s text)
    return .ofScope negate (Fragment.row (texts.map (Connective.or, ·)))
  | expr condition =>
    Mark.ofTest s negate [] [.column (.fragment (condition.value fragments))]
  | test ops operands => do
    Mark.ofTest s negate ops (← operands.mapM fun o => (o.value fragments).toOperand)
  | observe _ => .ok .observed

namespace Predicate

namespace Mark

/-- A call that fails leaves a mark as well. -/
def ofResult : Except Error Mark → Mark
  | .ok m => m
  | .error e => failed e

/-- What a mark does to a condition. -/
def apply (p : Predicate) : Mark → Predicate
  | negated => p.negateNext
  | joined c => p.joinNext c
  | tested text => { p.push p.pending.connective text with pending := {} }
  | ignored => { p with pending := {} }
  | absorbed condition => p.absorb condition
  | observed | failed _ => p

end Mark

/-- The log of a history on a table, after what was done before it. -/
def History.logAfter [b : Binding] (s : Source) : (before : List Mark) → History → List Mark
  | _, done => []
  | before, call fragments c rest =>
    let m := Mark.ofResult (c.mark fragments s (Mark.isNegated before))
    m :: rest.logAfter s (before ++ [m])
  | before, scope ended inside rest =>
    let nested := Mark.text (inside.logAfter s [])
    let m := Mark.ofResult (ended.map fun _ => .ofScope (Mark.isNegated before) nested)
    m :: rest.logAfter s (before ++ [m])
  | before, absorb condition rest =>
    .absorbed condition :: rest.logAfter s (before ++ [.absorbed condition])

/-- The log of a history that starts with nothing tested. -/
def History.log [b : Binding] (s : Source) (h : History) : List Mark :=
  h.logAfter s []

/-! ### Looking back -/

namespace Mark

theorem recent_concat (log : List Mark) (m : Mark) :
    recent (log ++ [m]) = if m.usesUp then [] else recent log ++ [m] := by
  rw [recent, List.rtakeWhile_concat]
  cases m.usesUp <;> rfl

/-- What is pending according to a log. -/
def pending (log : List Mark) : Pending :=
  ⟨Operator.negation (isNegated log), connective log⟩

theorem isNegated_concat (log : List Mark) (m : Mark) :
    isNegated (log ++ [m]) =
      if m.usesUp then false else if m = negated then !isNegated log else isNegated log := by
  rw [isNegated, recent_concat, isNegated]
  cases m <;> simp [usesUp, List.count_append, Nat.odd_add_one, -Nat.not_odd_iff_even]

theorem connective_concat (log : List Mark) (m : Mark) :
    connective (log ++ [m]) =
      if m.usesUp then .and else m.connective?.getD (connective log) := by
  rw [connective, recent_concat, connective]
  cases m <;> simp [usesUp, connective?]

theorem piecesAfter_concat (before log : List Mark) (m : Mark) :
    piecesAfter before (log ++ [m]) =
      piecesAfter before log ++ (m.piece? (before ++ log)).toList := by
  induction log generalizing before with
  | nil => simp [piecesAfter]
  | cons n log ih => simp [piecesAfter, ih]

end Mark

/-! ### Calls and their marks -/

namespace Mark

/-- The marks of calls that succeed. The text of a test is never empty. -/
def isProper : Mark → Bool
  | tested text => !text.isEmpty
  | failed _ => false
  | _ => true

theorem isProper_ofTest [b : Binding] {s : Source} {negate : Bool} {ops : List Operator}
    {operands : List Operand} {m : Mark} (h : ofTest s negate ops operands = .ok m) :
    m.isProper = true := by
  obtain ⟨text, htext, rfl⟩ := map_ok h
  rw [isProper, Test.isEmpty_compile htext]
  rfl

theorem isProper_ofScope (negate : Bool) (nested : Fragment) :
    (ofScope negate nested).isProper = true := by
  rw [ofScope]
  split
  · rfl
  · cases negate <;> simp [isProper]

theorem ofTest_fragment [b : Binding] (s : Source) (negate : Bool) (f : Fragment) :
    ofTest s negate [] [.column (.fragment f)] =
      .ok (tested (if negate then .verbatim "NOT " ++ f.parenthesized else f.parenthesized)) := by
  cases negate <;> rfl

end Mark

/-- A test either fails to compile, or its text is added and what was pending is used up. -/
theorem test_eq [b : Binding] (p : Predicate) (ops : List Operator) (operands : List Operand) :
    p.test ops operands =
      ((Test.mk (p.pending.operators ++ ops) operands).compile p.source).map
        fun text => Mark.apply p (.tested text) := by
  rw [test]
  cases (Test.mk (p.pending.operators ++ ops) operands).compile p.source <;> rfl

section

variable [b : Binding] {p : Predicate} {negate : Bool}
  (h : p.pending.operators = Operator.negation negate)

include h

theorem test_eq_compile (ops : List Operator) (operands : List Operand) :
    p.test ops operands =
      ((Test.mk (Operator.negation negate ++ ops) operands).compile p.source).map
        fun text => Mark.apply p (.tested text) := by
  rw [test_eq, h]

theorem test_eq_ofTest (ops : List Operator) (operands : List Operand) :
    p.test ops operands = (Mark.ofTest p.source negate ops operands).map (Mark.apply p) := by
  rw [test_eq_compile h, Mark.ofTest]
  cases (Test.mk (Operator.negation negate ++ ops) operands).compile p.source <;> rfl

end

/-- A scope is always accepted. -/
theorem nest_eq_ofScope [b : Binding] {p : Predicate} {negate : Bool}
    (h : p.pending.operators = Operator.negation negate) (nested : Fragment) :
    p.nest nested = .ok (Mark.apply p (.ofScope negate nested)) := by
  rw [nest, Mark.ofScope]
  split
  · rfl
  · rw [expr, test_eq_ofTest h, Mark.ofTest_fragment]
    rfl

/-- Searches in one column after the other. -/
theorem searches_eq [b : Binding] {p : Predicate} (h : p.pending.operators = [])
    (columns : List ColumnRef) (text : String) :
    (columns.foldlM (fun (q : Predicate) c => (q.joinNext .or).search .anywhere c text) p).map
        (·.body) =
      (columns.mapM (searchText p.source text)).map fun texts =>
        (texts.map (Connective.or, ·)).foldl Fragment.glue p.body := by
  induction columns generalizing p with
  | nil => rfl
  | cons column columns ih =>
    have hsearch : (p.joinNext .or).search .anywhere column text =
        (searchText p.source text column).map fun found =>
          Mark.apply (p.joinNext .or) (.tested found) :=
      test_eq_compile (p := p.joinNext .or) (h.trans (if_neg Bool.false_ne_true).symm) _ _
    rw [List.foldlM_cons, List.mapM_cons, hsearch]
    cases searchText p.source text column with
    | error e => rfl
    | ok found =>
      refine (ih (p := Mark.apply (p.joinNext .or) (.tested found)) rfl).trans ?_
      show Except.map _ (columns.mapM (searchText p.source text)) = _
      cases columns.mapM (searchText p.source text) <;> rfl

theorem isEmpty_searchText [b : Binding] {s : Source} {columns : List ColumnRef} {text : String}
    {texts : List Fragment} (h : columns.mapM (searchText s text) = .ok texts) :
    ∀ piece ∈ texts.map (Connective.or, ·), piece.2.isEmpty = false := by
  intro piece hpiece
  obtain ⟨found, hfound, rfl⟩ := List.mem_map.mp hpiece
  obtain ⟨column, -, hcolumn⟩ := mem_mapM_ok h found hfound
  exact Test.isEmpty_compile hcolumn

/-- A search in several columns is a scope. -/
theorem searchAny_eq [b : Binding] {p : Predicate} {negate : Bool}
    (h : p.pending.operators = Operator.negation negate) (columns : List ColumnRef)
    (text : String) :
    p.searchAny columns text =
      (columns.mapM (searchText p.source text)).map fun texts =>
        Mark.apply p (.ofScope negate (Fragment.row (texts.map (Connective.or, ·)))) := by
  have hnested := searches_eq (p := p.nested) rfl columns text
  rw [show p.nested.source = p.source from rfl] at hnested
  rw [searchAny]
  cases htexts : columns.mapM (searchText p.source text) with
  | error e =>
    rw [htexts] at hnested
    cases hany : columns.foldlM (fun (q : Predicate) c => (q.joinNext .or).search .anywhere c text)
      p.nested with
    | error e' =>
      rw [hany] at hnested
      cases hnested
      rfl
    | ok any =>
      rw [hany] at hnested
      cases hnested
  | ok texts =>
    rw [htexts] at hnested
    obtain ⟨any, hany, hbody⟩ := map_ok hnested
    have hrow : any.body = Fragment.row (texts.map (Connective.or, ·)) :=
      hbody.trans (Fragment.row_append (l := []) (by simp) (isEmpty_searchText htexts)).symm
    rw [hany]
    refine (nest_eq_ofScope h any.body).trans ?_
    rw [hrow]
    rfl

end Predicate

/-- A call and its mark. -/
theorem PredicateCall.apply_eq_mark [b : Binding] {p : Predicate} {negate : Bool}
    (h : p.pending.operators = Operator.negation negate) (fragments : List Fragment)
    (c : PredicateCall) :
    c.apply fragments p = (c.mark fragments p.source negate).map (Mark.apply p) := by
  cases c with
  | not | join c | observe o => rfl
  | compare op left right =>
    rw [apply, mark, Predicate.compare]
    cases (right.value fragments).toOperand with
    | error e => rfl
    | ok o => exact Predicate.test_eq_ofTest h _ _
  | between column low high =>
    rw [apply, mark, Predicate.between]
    cases (low.value fragments).toOperand with
    | error e => rfl
    | ok low =>
      cases (high.value fragments).toOperand with
      | error e => rfl
      | ok high => exact Predicate.test_eq_ofTest h _ _
  | isIn column values =>
    rw [apply, mark, Predicate.isIn]
    cases values.mapM Scalar.toValue with
    | error e => rfl
    | ok values => exact Predicate.test_eq_ofTest h _ _
  | inQuery column query | isNull column | expr condition | search anchor column text =>
    exact Predicate.test_eq_ofTest h _ _
  | searchAny columns text =>
    rw [apply, mark, Predicate.searchAny_eq h]
    cases (columns.map (·.value fragments)).mapM (Predicate.searchText p.source text) <;> rfl
  | test operators operands =>
    rw [apply, mark]
    cases operands.mapM fun o => (o.value fragments).toOperand with
    | error e => rfl
    | ok operands => exact Predicate.test_eq_ofTest h _ _

/-- A call that succeeds leaves a mark of success. -/
theorem PredicateCall.isProper_mark [b : Binding] {fragments : List Fragment} {s : Source}
    {negate : Bool} {c : PredicateCall} {m : Mark} (h : c.mark fragments s negate = .ok m) :
    m.isProper = true := by
  cases c with
  | not | join c | observe o => cases h; rfl
  | compare op left right =>
    obtain ⟨right, -, h⟩ := bind_ok h
    exact Mark.isProper_ofTest h
  | between column low high =>
    obtain ⟨low, -, h⟩ := bind_ok h
    obtain ⟨high, -, h⟩ := bind_ok h
    exact Mark.isProper_ofTest h
  | isIn column values =>
    obtain ⟨values, -, h⟩ := bind_ok h
    exact Mark.isProper_ofTest h
  | inQuery column query | isNull column | expr condition | search anchor column text =>
    exact Mark.isProper_ofTest h
  | searchAny columns text =>
    obtain ⟨texts, -, h⟩ := bind_ok h
    cases h
    exact Mark.isProper_ofScope _ _
  | test operators operands =>
    obtain ⟨operands, -, h⟩ := bind_ok h
    exact Mark.isProper_ofTest h

namespace Predicate

/-! ### Records -/

/-- What a condition and its log have in common. -/
structure Records (p : Predicate) (log : List Mark) : Prop where
  pending_eq : p.pending = Mark.pending log
  body_eq : p.body = Mark.text log
  solid : ∀ piece ∈ Mark.piecesAfter [] log, piece.2.isEmpty = false

namespace Records

variable {p : Predicate} {log : List Mark}

theorem fresh (s : Source) : Records { source := s } [] :=
  ⟨rfl, rfl, by simp [Mark.piecesAfter]⟩

/-- The condition and its log after one more call that succeeds. -/
theorem apply (h : p.Records log) {m : Mark} (hm : m.isProper = true) :
    (m.apply p).Records (log ++ [m]) := by
  have hpieces : Mark.piecesAfter [] (log ++ [m]) =
      Mark.piecesAfter [] log ++ (m.piece? log).toList := Mark.piecesAfter_concat [] log m
  have hpiece : ∀ piece ∈ (m.piece? log).toList, piece.2.isEmpty = false := by
    cases m with
    | tested text => simpa [Mark.piece?, Mark.isProper] using hm
    | absorbed condition => by_cases hc : condition.isEmpty = true <;> simp [Mark.piece?, hc]
    | _ => simp [Mark.piece?]
  constructor
  · rw [Mark.pending, Mark.isNegated_concat, Mark.connective_concat]
    cases m with
    | negated =>
      rw [Mark.apply, negateNext, h.pending_eq, Mark.pending]
      cases Mark.isNegated log <;> rfl
    | absorbed condition =>
      rw [Mark.apply, absorb]
      split <;> exact h.pending_eq
    | joined c =>
      rw [Mark.apply, joinNext, h.pending_eq]
      rfl
    | observed => exact h.pending_eq
    | tested text | ignored => rfl
    | failed e => cases hm
  · rw [Mark.text, hpieces, Fragment.row_append h.solid hpiece, ← Mark.text, ← h.body_eq]
    cases m with
    | tested text =>
      rw [Mark.apply, h.pending_eq]
      rfl
    | absorbed condition =>
      rw [Mark.apply, Predicate.absorb, Mark.piece?]
      split <;> rfl
    | _ => rfl
  · rw [hpieces, List.forall_mem_append]
    exact ⟨h.solid, hpiece⟩

/-- A call that fails leaves no trace. -/
theorem fail (h : p.Records log) (e : Error) : p.Records (log ++ [.failed e]) := by
  have hpieces : Mark.piecesAfter [] (log ++ [.failed e]) = Mark.piecesAfter [] log := by
    rw [Mark.piecesAfter_concat]
    exact List.append_nil _
  refine ⟨?_, ?_, hpieces ▸ h.solid⟩
  · rw [h.pending_eq, Mark.pending, Mark.pending, Mark.isNegated_concat, Mark.connective_concat]
    rfl
  · rw [h.body_eq, Mark.text, Mark.text, hpieces]

end Records

@[simp] theorem Mark.source_apply (p : Predicate) (m : Mark) : (m.apply p).source = p.source := by
  cases m with
  | absorbed condition =>
    rw [apply, absorb]
    split <;> rfl
  | _ => rfl

/-- The result of a call, as its mark tells it. -/
structure Follows (r : Except Error Predicate) (p : Predicate) (m : Mark) : Prop where
  eq_apply : r.toOption.getD p = m.apply p
  failure_eq : Predicate.failure? r = m.failure?

theorem Records.follow {p : Predicate} {log : List Mark} (h : p.Records log)
    {r : Except Error Mark} (hr : ∀ m, r = .ok m → m.isProper = true) :
    Follows (r.map (Mark.apply p)) p (.ofResult r) ∧
      ((Mark.ofResult r).apply p).Records (log ++ [.ofResult r]) := by
  cases r with
  | error e => exact ⟨⟨rfl, rfl⟩, h.fail e⟩
  | ok m =>
    have hm := hr m rfl
    refine ⟨⟨rfl, ?_⟩, h.apply hm⟩
    cases m with
    | failed e => cases hm
    | _ => rfl

/-- What holds of every condition after a history: its log describes it, and says which calls have
failed. -/
def History.Logged [b : Binding] (hist : History) : Prop :=
  ∀ {p : Predicate} {log : List Mark}, p.Records log →
    (hist.run p).Records (log ++ hist.logAfter p.source log) ∧
    hist.failures p = (hist.logAfter p.source log).map Mark.failure?

/-- One call before a history. -/
theorem History.Logged.cons [b : Binding] {rest : History} (ih : rest.Logged) {p : Predicate}
    {log : List Mark} (h : p.Records log) {r : Except Error Predicate} {m : Except Error Mark}
    (hr : r = m.map (Mark.apply p)) (hm : ∀ m', m = .ok m' → m'.isProper = true) :
    let next := rest.logAfter p.source (log ++ [.ofResult m])
    (rest.run (r.toOption.getD p)).Records (log ++ .ofResult m :: next) ∧
    Predicate.failure? r :: rest.failures (r.toOption.getD p) =
      (.ofResult m :: next).map Mark.failure? := by
  intro next
  subst hr
  obtain ⟨hfollows, hnext⟩ := h.follow hm
  obtain ⟨hrecords, hfailures⟩ := ih hnext
  rw [Mark.source_apply] at hrecords hfailures
  rw [hfollows.eq_apply, hfollows.failure_eq, List.map_cons, ← hfailures, List.append_cons]
  exact ⟨hrecords, rfl⟩

/-- Every history is as its log says: one step for each call, and for a scope the log of what is
inside it. -/
theorem History.logged [b : Binding] (hist : History) : hist.Logged := by
  induction hist with
  | done =>
    intro p log h
    rw [logAfter, List.append_nil]
    exact ⟨h, rfl⟩
  | call fragments c rest ih =>
    intro p log h
    rw [run, failures, logAfter]
    exact ih.cons h (c.apply_eq_mark (congrArg Pending.operators h.pending_eq) fragments)
      fun m hm => PredicateCall.isProper_mark hm
  | scope ended inside rest ihInside ih =>
    intro p log h
    have htext : (inside.run p.nested).compile = Mark.text (inside.logAfter p.source []) :=
      (ihInside (Records.fresh p.source)).1.body_eq
    have hscope : (ended.bind fun _ => p.nest (inside.run p.nested).compile) =
        (ended.map fun _ => Mark.ofScope (Mark.isNegated log)
          (Mark.text (inside.logAfter p.source []))).map (Mark.apply p) := by
      cases ended with
      | error e => rfl
      | ok _ => exact htext ▸ nest_eq_ofScope (congrArg Pending.operators h.pending_eq) _
    rw [run, failures, logAfter]
    refine ih.cons h hscope fun m hm => ?_
    obtain ⟨-, -, rfl⟩ := map_ok hm
    exact Mark.isProper_ofScope _ _
  | absorb condition rest ih =>
    intro p log h
    exact ih.cons h (r := .ok (p.absorb condition)) (m := .ok (.absorbed condition)) rfl
      fun m hm => by cases hm; rfl

/-- Whatever happens to a condition, it stays on its table. -/
theorem History.source_run (hist : History) (p : Predicate) : (hist.run p).source = p.source := by
  induction hist generalizing p with
  | done => rfl
  | call fragments c rest ih =>
    rw [run, ih]
    cases h : c.apply fragments p with
    | error e => rfl
    | ok q =>
      obtain ⟨calls⟩ := PredicateCall.becomes h
      exact calls.source_eq
  | scope ended inside rest _ ih =>
    rw [run, ih]
    cases h : ended.bind fun _ => p.nest (inside.run p.nested).compile with
    | error e => rfl
    | ok q =>
      obtain ⟨-, -, hnest⟩ := bind_ok h
      rcases nest_ok hnest with ⟨-, rfl⟩ | ⟨-, htest⟩
      · rfl
      · obtain rfl := (test_ok htest).2
        rfl
  | absorb condition rest ih =>
    rw [run, ih, Predicate.absorb]
    split <;> rfl

/-- The modifiers of the next test are those that the log tells. -/
theorem History.operators_run [b : Binding] (s : Source) (hist : History) :
    (hist.run { source := s }).pending.operators =
      Operator.negation (Mark.isNegated (hist.log s)) :=
  congrArg Pending.operators (hist.logged (Records.fresh s)).1.pending_eq

/-- A condition after any calls, with failures, scopes and conditions of joins among them. Its text
is the row of the tests and conditions in its log; its next test is negated if this was asked for an
odd number of times, and joined as was asked for last, since a test was added or an empty scope was
ignored; and the calls that failed are those that are logged as failures. -/
theorem compile_run_history [b : Binding] (s : Source) (hist : History) :
    let p := hist.run { source := s }
    let log := hist.log s
    p.compile = Fragment.row (Mark.piecesAfter [] log) ∧
    p.pending = ⟨Operator.negation (Mark.isNegated log), Mark.connective log⟩ ∧
    hist.failures { source := s } = log.map Mark.failure? := by
  obtain ⟨hrecords, hfailures⟩ := hist.logged (Records.fresh s)
  exact ⟨hrecords.body_eq, hrecords.pending_eq, hfailures⟩

-- a test that fails and a condition of a join leave the pending OR and NOT alone
example :
    let source : Source :=
      { schema := ⟨[]⟩, model := { typeName := "Invoice", table := "invoice" }, aliasName := "abc" }
    let equal (n : Int64) : PredicateCall :=
      .compare .equal (.given (.raw "numero")) (.given (.scalar (.signed n)))
    let hist : History := .call [] (equal 1) <| .call [] (.join .or) <| .call [] .not <|
      .call [] (.test [.between] [.given (.scalar (.signed 1))]) <|
      .absorb (.verbatim "d.open") <| .call [] (equal 2) .done
    (hist.run { source }).compile =
      ⟨"abc.numero = ? AND (d.open) OR abc.numero <> ?", [.integer 1, .integer 2]⟩ := by
  decide +kernel

end Predicate

end SqlCompose
