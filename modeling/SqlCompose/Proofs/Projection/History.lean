import Mathlib.Data.List.DropRight
import SqlCompose.Proofs.Fragment
import SqlCompose.Proofs.InPlace.Calls

/-! Projections as logs of what was done to them. A projection carries the functions that are queued
for its next item along; here they are found by looking back over the log, up to the last item. The
text of a projection is the row of the items in its log, one for each call that gave one and
succeeded. -/

namespace SqlCompose

/-! ### Items inside functions -/

namespace Wrapper

/-- What a function has before its item. -/
def opening (w : Wrapper) : String :=
  w.function.name ++ "("

/-- What a function has after its item: a cast a type, any other a placeholder for each of its
arguments. -/
def closing (w : Wrapper) : String :=
  match w.function with
  | .cast t => " AS " ++ t.keyword ++ ")"
  | _ => String.join (w.arguments.map fun _ => ", ?") ++ ")"

/-- The arguments that a function binds. A cast binds none. -/
def bound (w : Wrapper) : List Value :=
  match w.function with
  | .cast _ => []
  | _ => w.arguments

/-- An item inside functions, outermost first. The innermost of them closes first, and its arguments
are the first to be bound. -/
def enclose (ws : List Wrapper) (content : Fragment) : Fragment where
  sql := String.join (ws.map opening) ++ content.sql ++ String.join (ws.reverse.map closing)
  params := content.params ++ ws.reverse.flatMap bound

theorem arguments_eq (vs : List Value) :
    vs.foldr (fun v rest => .verbatim ", " ++ .bound v ++ rest) Fragment.empty =
      ⟨String.join (vs.map fun _ => ", ?"), vs⟩ := by
  induction vs with
  | nil => rfl
  | cons v vs ih =>
    rw [List.foldr_cons, ih]
    exact Fragment.ext (by simp [Fragment.bound, Binding.place, Fragment.placeholder])
      (by simp [Fragment.bound, Binding.place, Fragment.placeholder])

theorem apply_eq (w : Wrapper) (item : Fragment) :
    w.apply item = ⟨w.opening ++ item.sql ++ w.closing, item.params ++ w.bound⟩ := by
  obtain ⟨f, vs⟩ := w
  cases f with
  | cast t =>
    exact Fragment.ext (by simp [apply, opening, closing, String.append_assoc])
      (by simp [apply, bound])
  | _ =>
    simp only [apply, arguments_eq]
    exact Fragment.ext (by simp [opening, closing, String.append_assoc]) (by simp [bound])

/-- Functions applied one after the other, from the innermost on. -/
theorem foldr_apply (ws : List Wrapper) (content : Fragment) :
    ws.foldr apply content = enclose ws content := by
  induction ws with
  | nil => exact Fragment.ext (by simp [enclose]) (by simp [enclose])
  | cons w ws ih =>
    rw [List.foldr_cons, ih, apply_eq]
    exact Fragment.ext (by simp [enclose, String.append_assoc]) (by simp [enclose])

end Wrapper

namespace Projection

/-! ### Histories -/

/-- What happens to a projection: calls, and groups in it. A call may fail, and a group may come to
its end or break off with an error. -/
inductive History where
  | done
  | call (fragments : List Fragment) (c : ProjectionCall) (rest : History)
  | group (aliasName : String) (ended : Except Error Unit) (inside rest : History)

namespace History

/-- The projection after a history, with every call made in place. -/
def run : History → Projection → Projection
  | done, p => p
  | call fragments c rest, p => rest.run ((c.edit fragments).on p).2
  | group aliasName ended inside rest, p =>
    rest.run ((InPlace.group aliasName (.of fun g => (ended, inside.run g))).on p).2

/-- How each call ends, in order. -/
def results : History → Projection → List (Except Error Unit)
  | done, _ => []
  | call fragments c rest, p =>
    let r := (c.edit fragments).on p
    r.1 :: rest.results r.2
  | group aliasName ended inside rest, p =>
    let r := (InPlace.group aliasName (.of fun g => (ended, inside.run g))).on p
    r.1 :: rest.results r.2

end History

/-! ### Logs -/

/-- What one call that succeeded did to a projection. An item has its content, the functions of the
call itself, and a name if there is one. -/
inductive Mark where
  | queued (w : Wrapper)
  | selected (content : Fragment) (own : List Wrapper) (name? : Option String)
  | observed
deriving DecidableEq

/-- What each call did, or why it failed. -/
abbrev Log :=
  List (Except Error Mark)

namespace Log

def wrapper? : Except Error Mark → Option Wrapper
  | .ok (.queued w) => some w
  | _ => none

def isItem : Except Error Mark → Bool
  | .ok (.selected ..) => true
  | _ => false

/-- The functions that have been queued since the last item. -/
def queue (log : Log) : List Wrapper :=
  (log.rtakeWhile fun entry => !isItem entry).filterMap wrapper?

/-- An item under its name. Within an expression, nothing is named. -/
def named (isExpression : Bool) (name? : Option String) (item : Fragment) : Fragment :=
  match name? with
  | some name => if isExpression then item else ⟨item.sql ++ " AS " ++ name, item.params⟩
  | none => item

/-- The item of a call after what was done before it: inside the queued functions, and then the
call's own. -/
def item? (isExpression : Bool) (before : Log) : Except Error Mark → Option Fragment
  | .ok (.selected content own name?) =>
    some (named isExpression name? (Wrapper.enclose (queue before ++ own) content))
  | _ => none

/-- The items of a log, after what was done before it. -/
def itemsAfter (isExpression : Bool) : (before log : Log) → List Fragment
  | _, [] => []
  | before, entry :: rest =>
    (item? isExpression before entry).toList ++ itemsAfter isExpression (before ++ [entry]) rest

/-- The text that a log describes: its items, with commas or, in an expression, with blanks between
them. -/
def text (isExpression : Bool) (log : Log) : Fragment :=
  let items := itemsAfter isExpression [] log
  ⟨(if isExpression then " " else ", ").intercalate (items.map (·.sql)), items.flatMap (·.params)⟩

end Log

/-- The name of a column that is selected: the one it is given, or its own. -/
def nameFor (s : Source) (column : ColumnRef) (given? : Option String) :
    Except Error (Option String) :=
  match given? with
  | some name => .ok (some name)
  | none => s.identifier? column

/-- A column as an item inside the functions of its call. -/
def Mark.ofColumn (s : Source) (own : List Wrapper) (column : ColumnRef) (given? : Option String) :
    Except Error Mark := do
  let content ← s.qualify column
  return .selected content own (← nameFor s column given?)

/-- A group is an item inside parentheses. -/
def Mark.ofGroup (aliasName : String) (operand : Fragment) : Mark :=
  .selected operand [⟨.group, []⟩] (some aliasName)

end Projection

open Projection (Mark Log)

/-- What a call does to a projection on a table. -/
def ProjectionCall.mark (fragments : List Fragment) (s : Source) :
    ProjectionCall → Except Error Mark
  | wrap w => do return .queued (← w.value)
  | apply ws column alias? => do
    Mark.ofColumn s (← ws.mapM WrapperArg.value) (column.value fragments) alias?
  | applyWith f arguments column alias? => do
    Mark.ofColumn s [← Wrapper.withArguments f arguments] (column.value fragments) alias?
  | raw sql => .ok (.selected ⟨sql, []⟩ [] none)
  | value scalar alias? => do return .selected ⟨"?", [← scalar.toValue]⟩ [] alias?
  | observe _ => .ok .observed

namespace Projection

/-- The log of a history on a table. The calls within a group have a log of their own, which
describes an expression. -/
def History.log (s : Source) : History → Log
  | done => []
  | call fragments c rest => c.mark fragments s :: rest.log s
  | group aliasName ended inside rest =>
    (ended.map fun _ => .ofGroup aliasName (Log.text true (inside.log s))) :: rest.log s

/-! ### Looking back -/

namespace Log

theorem queue_concat (log : Log) (entry : Except Error Mark) :
    queue (log ++ [entry]) =
      if isItem entry then [] else queue log ++ (wrapper? entry).toList := by
  rw [queue, List.rtakeWhile_concat]
  cases h : isItem entry with
  | true => rfl
  | false => cases hw : wrapper? entry <;> simp [queue, hw]

theorem itemsAfter_concat (isExpression : Bool) (before log : Log) (entry : Except Error Mark) :
    itemsAfter isExpression before (log ++ [entry]) =
      itemsAfter isExpression before log ++
        (item? isExpression (before ++ log) entry).toList := by
  induction log generalizing before with
  | nil => simp [itemsAfter]
  | cons first log ih => simp [itemsAfter, ih]

theorem length_itemsAfter (isExpression : Bool) (before log : Log) :
    (itemsAfter isExpression before log).length = log.countP isItem := by
  induction log generalizing before with
  | nil => rfl
  | cons entry log ih =>
    have hitem : (item? isExpression before entry).toList.length =
        if isItem entry then 1 else 0 := by
      match entry with
      | .ok (.selected ..) | .ok (.queued _) | .ok .observed | .error _ => rfl
    rw [itemsAfter, List.length_append, ih, hitem, List.countP_cons, Nat.add_comm]

end Log

/-! ### Calls and their marks -/

/-- What a mark does to a projection. -/
def Mark.apply (p : Projection) : Mark → Projection
  | queued w => p.wrap w
  | selected content own name? => p.push own content name?
  | observed => p

/-- What a call does to a projection, which a failure leaves alone. -/
def Log.apply (p : Projection) : Except Error Mark → Projection
  | .ok m => m.apply p
  | .error _ => p

theorem apply_eq_ofColumn (p : Projection) (own : List Wrapper) (column : ColumnRef)
    (alias? : Option String) :
    p.apply own column alias? = (Mark.ofColumn p.source own column alias?).map (Mark.apply p) := by
  have hname : p.apply own column alias? = do
      let content ← p.source.qualify column
      return p.push own content (← nameFor p.source column alias?) := by
    cases alias? <;> rfl
  rw [hname, Mark.ofColumn]
  cases p.source.qualify column with
  | error e => rfl
  | ok content => cases nameFor p.source column alias? <;> rfl

end Projection

/-- A call is what its mark says. -/
theorem ProjectionCall.change_eq_mark (fragments : List Fragment) (c : ProjectionCall)
    (p : Projection) :
    c.change fragments p = (c.mark fragments p.source).map (Mark.apply p) := by
  cases c with
  | wrap w =>
    rw [change, mark]
    cases w.value <;> rfl
  | apply ws column alias? =>
    rw [change, mark]
    cases ws.mapM WrapperArg.value with
    | error e => rfl
    | ok own => exact p.apply_eq_ofColumn own (column.value fragments) alias?
  | applyWith f arguments column alias? =>
    rw [change, mark, Projection.applyWith]
    cases Wrapper.withArguments f arguments with
    | error e => rfl
    | ok w => exact p.apply_eq_ofColumn [w] (column.value fragments) alias?
  | raw sql => rfl
  | value scalar alias? =>
    rw [change, mark, Projection.value]
    cases scalar.toValue <;> rfl
  | observe o => rfl

/-- A call made in place ends and does as its entry in the log says. -/
theorem ProjectionCall.on_edit (fragments : List Fragment) (c : ProjectionCall) (p : Projection) :
    (c.edit fragments).on p =
      ((c.mark fragments p.source).map fun _ => (), Log.apply p (c.mark fragments p.source)) := by
  rw [c.exact_edit fragments p]
  dsimp only
  rw [c.change_eq_mark]
  cases c.mark fragments p.source <;> rfl

namespace Projection

theorem on_group (p : Projection) (aliasName : String) (ended : Except Error Unit)
    (build : Projection → Projection) :
    let entry := ended.map fun _ => Mark.ofGroup aliasName (build (.expression p.source)).compile
    (InPlace.group aliasName (.of fun g => (ended, build g))).on p =
      (entry.map fun _ => (), Log.apply p entry) := by
  intro entry
  rw [InPlace.exact_group]
  cases ended <;> rfl

theorem push_eq (p : Projection) (own : List Wrapper) (content : Fragment)
    (name? : Option String) :
    p.push own content name? =
      { p with
        items := p.items ++
          [Log.named p.isExpression name? (Wrapper.enclose (p.pending ++ own) content)]
        pending := [] } := by
  cases name? with
  | none => simp only [push, Wrapper.foldr_apply, Log.named]
  | some name =>
    have hname : (Wrapper.enclose (p.pending ++ own) content).appendText (" AS " ++ name) =
        Log.named false (some name) (Wrapper.enclose (p.pending ++ own) content) :=
      Fragment.ext (by simp [Fragment.appendText, Log.named, String.append_assoc])
        (by simp [Fragment.appendText, Log.named])
    simp only [push, Wrapper.foldr_apply, hname]
    cases p.isExpression <;> rfl

/-! ### Records -/

/-- What a projection and its log have in common. -/
structure Records (p : Projection) (log : Log) : Prop where
  pending_eq : p.pending = Log.queue log
  items_eq : p.items = Log.itemsAfter p.isExpression [] log

theorem source_apply (p : Projection) (entry : Except Error Mark) :
    (Log.apply p entry).source = p.source := by
  match entry with
  | .ok (.selected ..) | .ok (.queued _) | .ok .observed | .error _ => rfl

theorem isExpression_apply (p : Projection) (entry : Except Error Mark) :
    (Log.apply p entry).isExpression = p.isExpression := by
  match entry with
  | .ok (.selected ..) | .ok (.queued _) | .ok .observed | .error _ => rfl

namespace Records

variable {p : Projection} {log : Log}

theorem fresh (s : Source) (isExpression : Bool) : Records { source := s, isExpression } [] :=
  ⟨rfl, rfl⟩

/-- The projection and its log after one more call. -/
theorem apply (h : p.Records log) (entry : Except Error Mark) :
    (Log.apply p entry).Records (log ++ [entry]) := by
  constructor
  · rw [Log.queue_concat]
    match entry with
    | .ok (.selected ..) => rfl
    | .ok (.queued w) => exact congrArg (· ++ [w]) h.pending_eq
    | .ok .observed | .error _ => exact h.pending_eq.trans (List.append_nil _).symm
  · rw [Log.itemsAfter_concat, isExpression_apply, ← h.items_eq, List.nil_append]
    match entry with
    | .ok (.selected content own name?) =>
      rw [Log.apply, Mark.apply, push_eq, h.pending_eq]
      rfl
    | .ok (.queued _) | .ok .observed | .error _ => exact (List.append_nil _).symm

theorem compile_eq (h : p.Records log) : p.compile = Log.text p.isExpression log := by
  rw [compile, Fragment.join_eq, h.items_eq]
  rfl

end Records

/-- What holds of every projection after a history: its log describes it, and says how each call
ended. -/
def History.Logged (hist : History) : Prop :=
  ∀ {p : Projection} {log : Log}, p.Records log →
    (hist.run p).Records (log ++ hist.log p.source) ∧
    (hist.run p).isExpression = p.isExpression ∧
    hist.results p = (hist.log p.source).map (Except.map fun _ => ())

/-- One call before a history. -/
theorem History.Logged.cons {rest : History} (ih : rest.Logged) {p : Projection} {log : Log}
    (h : p.Records log) {entry : Except Error Mark} {r : Except Error Unit × Projection}
    (hr : r = (entry.map fun _ => (), Log.apply p entry)) :
    (rest.run r.2).Records (log ++ entry :: rest.log p.source) ∧
    (rest.run r.2).isExpression = p.isExpression ∧
    r.1 :: rest.results r.2 = (entry :: rest.log p.source).map (Except.map fun _ => ()) := by
  subst hr
  obtain ⟨hrecords, hkind, hresults⟩ := ih (h.apply entry)
  rw [source_apply] at hrecords hresults
  rw [List.append_cons, List.map_cons, ← hresults]
  exact ⟨hrecords, hkind.trans (isExpression_apply p entry), rfl⟩

/-- Every history is as its log says: one entry for each call, and for a group the log of what is
inside it. -/
theorem History.logged (hist : History) : hist.Logged := by
  induction hist with
  | done =>
    intro p log h
    rw [History.log, List.append_nil]
    exact ⟨h, rfl, rfl⟩
  | call fragments c rest ih =>
    intro p log h
    exact ih.cons h (c.on_edit fragments p)
  | group aliasName ended inside rest ihInside ih =>
    intro p log h
    obtain ⟨hinside, hkind, -⟩ := ihInside (Records.fresh p.source true)
    have htext : (inside.run (.expression p.source)).compile =
        Log.text true (inside.log p.source) :=
      hinside.compile_eq.trans (congrArg (Log.text · _) hkind)
    rw [run, results, History.log, ← htext]
    exact ih.cons h (on_group p aliasName ended inside.run)

theorem History.compile_run (hist : History) (s : Source) (isExpression : Bool) :
    (hist.run { source := s, isExpression }).compile = Log.text isExpression (hist.log s) := by
  obtain ⟨hrecords, hkind, -⟩ := hist.logged (Records.fresh s isExpression)
  exact hrecords.compile_eq.trans (congrArg (Log.text · _) hkind)

/-- A projection after any calls, with failures and groups among them. Its text is the row of the
items in its log, one for each call that gave an item and succeeded, inside the functions queued
since the item before it; the functions queued since the last item are pending; and the calls that
failed are those that are logged as failures. -/
theorem compile_run_log (s : Source) (isExpression : Bool) (hist : History) :
    let start : Projection := { source := s, isExpression }
    let p := hist.run start
    let log := hist.log s
    let items := Log.itemsAfter isExpression [] log
    p.compile.sql = (if isExpression then " " else ", ").intercalate (items.map (·.sql)) ∧
    p.compile.params = items.flatMap (·.params) ∧
    items.length = log.countP Log.isItem ∧
    p.pending = Log.queue log ∧
    hist.results start = log.map (Except.map fun _ => ()) := by
  intro start p log items
  obtain ⟨hrecords, -, hresults⟩ := hist.logged (Records.fresh s isExpression)
  rw [hist.compile_run s isExpression]
  exact ⟨rfl, rfl, Log.length_itemsAfter isExpression [] log, hrecords.pending_eq, hresults⟩

-- a value that cannot be stored leaves the queued function to the group that comes next
example :
    let source : Source :=
      { schema := ⟨[]⟩, model := { typeName := "Invoice", table := "invoice" }, aliasName := "abc" }
    let price : ColumnArg := .given (.raw "price")
    let ifNull : WrapperArg := ⟨.ifNull, [.signed 0]⟩
    let inside : History := .call [] (.wrap ⟨.cast .real, []⟩) <|
      .call [] (.apply [ifNull] price none) <| .call [] (.raw "*") <|
      .call [] (.value (.signed 2) (some "two")) .done
    let hist : History := .call [] (.wrap ⟨.round, [.signed 1]⟩) <|
      .call [] (.value (.unsigned 0x8000000000000000) none) <| .group "g" (.ok ()) inside <|
      .call [] (.apply [] price none) .done
    (hist.run { source }).compile =
      ⟨"ROUND((CAST(IFNULL(abc.price, ?) AS REAL) * ?), ?) AS g, abc.price AS price",
        [.integer 0, .integer 2, .integer 1]⟩ := by
  decide +kernel

end Projection

end SqlCompose
