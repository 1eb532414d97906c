import SqlCompose.Proofs.InPlace.Edits
import SqlCompose.RowUpdate
import SqlCompose.Script.Run

/-! Calls on the builders of clauses, made in place: on conditions, projections, updates and the
scopes of queries. A call takes what is pending, writes its text and adds its item step by step.
Everything that can fail comes before the first of these steps, so a call that fails leaves its
builder as it was. -/

namespace SqlCompose

open Edit

/-! ### Conditions -/

namespace Predicate.InPlace

/-- Takes what is pending, and leaves nothing pending. -/
def takePending : Edit Predicate Pending :=
  modifyGet fun p => (p.pending, { p with pending := {} })

/-- Puts a finished test after the others. -/
def push (c : Connective) (test : Fragment) : Edit Predicate Unit := do
  unless (← get).isEmpty do
    modify fun p => { p with body := p.body.appendText (" " ++ c.text ++ " ") }
  modify fun p => { p with body := p.body ++ test }

theorem on_push (c : Connective) (test : Fragment) (p : Predicate) :
    (push c test).on p = (.ok (), p.push c test) := by
  rw [push, on_bind, on_get, Predicate.push]
  cases h : p.isEmpty <;> simp [on_bind, h]

variable [b : Binding]

/-- Adds a test. It is compiled before what is pending is taken. -/
def test (ops : List Operator) (operands : List Operand) : Edit Predicate Unit := do
  let p ← get
  let text ← liftM ((Test.mk (p.pending.operators ++ ops) operands).compile p.source)
  let pending ← takePending
  push pending.connective text

def compare (op : Operator) (left : ColumnRef) (right : Argument) : Edit Predicate Unit := do
  let right ← liftM right.toOperand
  test [op] [.column left, right]

def between (column : ColumnRef) (low high : Argument) : Edit Predicate Unit := do
  let low ← liftM low.toOperand
  let high ← liftM high.toOperand
  test [.between] [.column column, low, high]

def isIn (column : ColumnRef) (values : List Scalar) : Edit Predicate Unit := do
  let values ← liftM (values.mapM Scalar.toValue)
  test [.isIn] [.column column, .values values]

/-- Builds a nested condition aside, and adds it as one test. -/
def scope (build : Edit Predicate Unit) : Edit Predicate Unit := do
  let nested ← aside (← get).nested build
  if nested.compile.isEmpty then
    discard takePending
  else
    test [] [.column (.fragment nested.compile)]

def search (anchor : Anchor) (column : ColumnRef) (text : String) : Edit Predicate Unit :=
  compare .like column (.scalar (.text (anchor.pattern text)))

/-- A search in several columns is a scope with a search in each. -/
def searchAny (columns : List ColumnRef) (text : String) : Edit Predicate Unit :=
  scope <| columns.forM fun column => do
    modify (·.joinNext .or)
    search .anywhere column text

theorem exact_test (ops : List Operator) (operands : List Operand) :
    (test ops operands).Exact (·.test ops operands) := by
  intro p
  rw [test, on_bind, on_get]
  simp only [on_bind, on_liftM, takePending, on_modifyGet, on_push]
  rw [Predicate.test]
  cases (Test.mk (p.pending.operators ++ ops) operands).compile p.source with
  | error e => rfl
  | ok text => rfl

theorem exact_compare (op : Operator) (left : ColumnRef) (right : Argument) :
    (compare op left right).Exact (·.compare op left right) :=
  exact_bind fun _ => exact_test _ _

theorem exact_between (column : ColumnRef) (low high : Argument) :
    (between column low high).Exact (·.between column low high) :=
  exact_bind fun _ => exact_bind fun _ => exact_test _ _

theorem exact_isIn (column : ColumnRef) (values : List Scalar) :
    (isIn column values).Exact (·.isIn column values) :=
  exact_bind fun _ => exact_test _ _

/-- A scope fails if what builds it fails, whatever has been done to the nested condition. -/
theorem exact_scope (build : Edit Predicate Unit) :
    (scope build).Exact fun p =>
      (build.on p.nested).1.bind fun _ => p.nest (build.on p.nested).2.compile := by
  intro p
  rw [scope, on_bind, on_get]
  simp only [on_bind, on_aside]
  obtain ⟨result, n⟩ := build.on p.nested
  cases result with
  | error e => rfl
  | ok _ =>
    simp only [Except.map, Except.bind, nest]
    split
    · rfl
    · exact exact_test _ _ p

theorem follows_searches (columns : List ColumnRef) (text : String) :
    (columns.forM fun column => do
      modify (Predicate.joinNext · .or)
      search .anywhere column text : Edit Predicate Unit).Follows fun p =>
        columns.foldlM (fun (q : Predicate) c => (q.joinNext .or).search .anywhere c text) p :=
  follows_forM columns fun column =>
    (exact_modify (Predicate.joinNext · .or)).follows.bind (exact_compare .like column _).follows

theorem exact_searchAny (columns : List ColumnRef) (text : String) :
    (searchAny columns text).Exact (·.searchAny columns text) := by
  intro p
  have hsearches := follows_searches columns text
  rw [searchAny, exact_scope]
  dsimp only [Predicate.searchAny]
  rw [hsearches.result_eq]
  cases hany : columns.foldlM (fun (q : Predicate) c => (q.joinNext .or).search .anywhere c text)
    p.nested with
  | error e => rfl
  | ok any =>
    rw [hsearches.builder_eq hany]
    rfl

end Predicate.InPlace

/-- A call on a condition, made in place. -/
def PredicateCall.edit [b : Binding] (fragments : List Fragment) :
    PredicateCall → Edit Predicate Unit
  | not => modify Predicate.negateNext
  | join c => modify (·.joinNext c)
  | compare op left right =>
    Predicate.InPlace.compare op (left.value fragments) (right.value fragments)
  | between column low high =>
    Predicate.InPlace.between (column.value fragments) (low.value fragments) (high.value fragments)
  | isIn column values => Predicate.InPlace.isIn (column.value fragments) values
  | inQuery column query =>
    Predicate.InPlace.test [.isIn]
      [.column (column.value fragments), .column (.fragment (query.value fragments))]
  | isNull column => Predicate.InPlace.test [.isNull] [.column (column.value fragments)]
  | search anchor column text => Predicate.InPlace.search anchor (column.value fragments) text
  | searchAny columns text => Predicate.InPlace.searchAny (columns.map (·.value fragments)) text
  | expr condition => Predicate.InPlace.test [] [.column (.fragment (condition.value fragments))]
  | test operators operands => do
    let operands ← liftM (operands.mapM fun o => (o.value fragments).toOperand)
    Predicate.InPlace.test operators operands
  | observe _ => pure ()

theorem PredicateCall.exact_edit [b : Binding] (fragments : List Fragment) (c : PredicateCall) :
    (c.edit fragments).Exact fun p => c.apply fragments p := by
  cases c with
  | not | join c => exact exact_modify _
  | compare op left right | search anchor column text => exact Predicate.InPlace.exact_compare _ _ _
  | between column low high => exact Predicate.InPlace.exact_between _ _ _
  | isIn column values => exact Predicate.InPlace.exact_isIn _ _
  | inQuery column query | isNull column | expr condition =>
    exact Predicate.InPlace.exact_test _ _
  | searchAny columns text => exact Predicate.InPlace.exact_searchAny _ _
  | test operators operands => exact exact_bind fun _ => Predicate.InPlace.exact_test _ _
  | observe o => exact exact_pure

/-! ### Projections -/

namespace Projection.InPlace

/-- Takes the queued functions, and leaves none queued. -/
def takeQueue : Edit Projection (List Wrapper) :=
  modifyGet fun p => (p.pending, { p with pending := [] })

variable [b : Binding]

/-- Adds an item inside all queued functions and then `wrappers`. -/
def push (wrappers : List Wrapper) (item : Fragment) (alias? : Option String) :
    Edit Projection Unit := do
  let queued ← takeQueue
  let wrapped := (queued ++ wrappers).foldr Wrapper.apply item
  let isExpression := (← get).isExpression
  let named :=
    match alias?.filter fun _ => !isExpression with
    | some aliasName => wrapped.appendText (" AS " ++ aliasName)
    | none => wrapped
  modify fun p => { p with items := p.items ++ [named] }

/-- Adds a column. The column and its name are found before the queue is taken. -/
def apply (wrappers : List Wrapper) (column : ColumnRef) (alias? : Option String) :
    Edit Projection Unit := do
  let p ← get
  let item ← liftM (p.source.qualify column)
  let alias? ←
    match alias? with
    | some aliasName => pure (some aliasName)
    | none => liftM (p.source.identifier? column)
  push wrappers item alias?

def value (s : Scalar) (alias? : Option String) : Edit Projection Unit := do
  let v ← liftM s.toValue
  push [] (.bound v) alias?

/-- Builds an expression aside, and adds it as one item. -/
def group (aliasName : String) (build : Edit Projection Unit) : Edit Projection Unit := do
  let operand ← aside (.expression (← get).source) build
  push [⟨.group, []⟩] operand.compile (some aliasName)

theorem on_push (wrappers : List Wrapper) (item : Fragment) (alias? : Option String)
    (p : Projection) :
    (push wrappers item alias?).on p = (.ok (), p.push wrappers item alias?) := by
  simp only [push, on_bind, takeQueue, on_modifyGet, on_get, on_modify]
  cases alias? with
  | none => rfl
  | some aliasName => cases h : p.isExpression <;> simp [Projection.push, Option.filter, h]

theorem exact_push (wrappers : List Wrapper) (item : Fragment) (alias? : Option String) :
    (push wrappers item alias?).Exact fun p => .ok (p.push wrappers item alias?) :=
  fun p => on_push wrappers item alias? p

theorem exact_apply (wrappers : List Wrapper) (column : ColumnRef) (alias? : Option String) :
    (apply wrappers column alias?).Exact (·.apply wrappers column alias?) := by
  intro p
  rw [apply, on_bind, on_get]
  simp only [on_bind, Projection.apply]
  rw [on_liftM]
  cases p.source.qualify column with
  | error e => rfl
  | ok item =>
    cases alias? with
    | some aliasName => exact on_push wrappers item (some aliasName) p
    | none => exact exact_bind (fun name? => exact_push wrappers item name?) p

theorem exact_value (s : Scalar) (alias? : Option String) :
    (value s alias?).Exact (·.value s alias?) :=
  exact_bind fun v => exact_push [] (.bound v) alias?

theorem exact_group (aliasName : String) (build : Edit Projection Unit) :
    (group aliasName build).Exact fun p =>
      (build.on (.expression p.source)).1.map fun _ =>
        p.group aliasName (build.on (.expression p.source)).2.compile := by
  intro p
  rw [group, on_bind, on_get]
  simp only [on_bind, on_aside]
  obtain ⟨result, operand⟩ := build.on (.expression p.source)
  cases result with
  | error e => rfl
  | ok _ => exact on_push _ _ _ p

end Projection.InPlace

/-- A call on a projection, made in place. -/
def ProjectionCall.edit [b : Binding] (fragments : List Fragment) :
    ProjectionCall → Edit Projection Unit
  | wrap w => do
    let w ← liftM w.value
    modify (·.wrap w)
  | apply ws column alias? => do
    let ws ← liftM (ws.mapM WrapperArg.value)
    Projection.InPlace.apply ws (column.value fragments) alias?
  | applyWith f arguments column alias? => do
    let w ← liftM (Wrapper.withArguments f arguments)
    Projection.InPlace.apply [w] (column.value fragments) alias?
  | raw sql => Projection.InPlace.push [] (.verbatim sql) none
  | value s alias? => Projection.InPlace.value s alias?
  | observe _ => pure ()

theorem ProjectionCall.exact_edit [b : Binding] (fragments : List Fragment) (c : ProjectionCall) :
    (c.edit fragments).Exact fun p => c.change fragments p := by
  cases c with
  | wrap w => exact exact_bind fun w => exact_modify (Projection.wrap · w)
  | apply ws column alias? =>
    have happly ws := Projection.InPlace.exact_apply ws (column.value fragments) alias?
    exact exact_bind happly
  | applyWith f arguments column alias? =>
    have happly w := Projection.InPlace.exact_apply [w] (column.value fragments) alias?
    exact exact_bind happly
  | raw sql => exact Projection.InPlace.exact_push [] (.verbatim sql) none
  | value s alias? => exact Projection.InPlace.exact_value s alias?
  | observe o => exact exact_pure

/-! ### Updates and scopes of queries -/

/-- Assigns a value to a column. -/
def RowUpdate.InPlace.set [b : Binding] (column : ColumnRef) (value : Scalar) :
    Edit RowUpdate Unit := do
  let target ← liftM ((← get).filter.source.unqualified column)
  let value ← liftM value.toValue
  let assignment := target ++ .verbatim " = " ++ .bound value
  modify fun u => { u with assignments := u.assignments ++ [assignment] }

theorem RowUpdate.InPlace.exact_set [b : Binding] (column : ColumnRef) (value : Scalar) :
    (set column value).Exact (·.set column value) := by
  intro u
  rw [set, on_bind, on_get]
  simp only [on_bind, RowUpdate.set]
  cases u.filter.source.unqualified column with
  | error e => rfl
  | ok target => cases value.toValue <;> rfl

namespace QueryScope.InPlace

def groupBy (column : ColumnRef) : Edit QueryScope Unit := do
  let column ← liftM ((← get).source.qualify column)
  modify fun q => { q with clauses := { q.clauses with groupBy := q.clauses.groupBy ++ [column] } }

def orderBy (column : ColumnRef) (order : Order) : Edit QueryScope Unit := do
  let column ← liftM ((← get).source.qualify column)
  let item := column.appendText (" " ++ order.text)
  modify fun q => { q with clauses := { q.clauses with orderBy := q.clauses.orderBy ++ [item] } }

theorem exact_groupBy (column : ColumnRef) : (groupBy column).Exact (·.groupBy column) := by
  intro q
  rw [groupBy, on_bind, on_get]
  simp only [on_bind, on_liftM, QueryScope.groupBy]
  cases q.source.qualify column <;> rfl

theorem exact_orderBy (column : ColumnRef) (order : Order) :
    (orderBy column order).Exact (·.orderBy column order) := by
  intro q
  rw [orderBy, on_bind, on_get]
  simp only [on_bind, on_liftM, QueryScope.orderBy]
  cases q.source.qualify column <;> rfl

end QueryScope.InPlace

/-! ### Any call -/

/-- A single call on a builder of clauses. A scope and a group come with what builds them, which may
do anything to its builder and fail at any point. -/
inductive BuilderCall : Type → Type where
  | condition (fragments : List Fragment) (c : PredicateCall) : BuilderCall Predicate
  | scope (build : Edit Predicate Unit) : BuilderCall Predicate
  | selection (fragments : List Fragment) (c : ProjectionCall) : BuilderCall Projection
  | group (aliasName : String) (build : Edit Projection Unit) : BuilderCall Projection
  | assignment (column : ColumnRef) (value : Scalar) : BuilderCall RowUpdate
  | groupBy (column : ColumnRef) : BuilderCall QueryScope
  | orderBy (column : ColumnRef) (order : Order) : BuilderCall QueryScope

namespace BuilderCall

variable [b : Binding] {β : Type}

/-- The call made in place. -/
def edit : BuilderCall β → Edit β Unit
  | condition fragments c => c.edit fragments
  | scope build => Predicate.InPlace.scope build
  | selection fragments c => c.edit fragments
  | group aliasName build => Projection.InPlace.group aliasName build
  | assignment column value => RowUpdate.InPlace.set column value
  | groupBy column => QueryScope.InPlace.groupBy column
  | orderBy column order => QueryScope.InPlace.orderBy column order

/-- The builder that a successful call gives. -/
def apply : BuilderCall β → β → Except Error β
  | condition fragments c, p => c.apply fragments p
  | scope build, p => (build.on p.nested).1.bind fun _ => p.nest (build.on p.nested).2.compile
  | selection fragments c, p => c.change fragments p
  | group aliasName build, p =>
    (build.on (.expression p.source)).1.map fun _ =>
      p.group aliasName (build.on (.expression p.source)).2.compile
  | assignment column value, u => u.set column value
  | groupBy column, q => q.groupBy column
  | orderBy column order, q => q.orderBy column order

theorem exact_edit (c : BuilderCall β) : c.edit.Exact c.apply := by
  cases c with
  | condition fragments c => exact c.exact_edit fragments
  | scope build => exact Predicate.InPlace.exact_scope build
  | selection fragments c => exact c.exact_edit fragments
  | group aliasName build => exact Projection.InPlace.exact_group aliasName build
  | assignment column value => exact RowUpdate.InPlace.exact_set column value
  | groupBy column => exact QueryScope.InPlace.exact_groupBy column
  | orderBy column order => exact QueryScope.InPlace.exact_orderBy column order

/-- A single call that fails, wherever the failure arose, leaves its builder as it was: with the
same text, parameters and items, and with the same modifiers and functions pending. -/
theorem builder_of_error (c : BuilderCall β) {x y : β} {e : Error}
    (h : c.edit.on x = (.error e, y)) : c.apply x = .error e ∧ y = x := by
  rw [c.exact_edit x] at h
  cases hcall : c.apply x with
  | error e' =>
    rw [hcall] at h
    cases h
    exact ⟨rfl, rfl⟩
  | ok x' =>
    rw [hcall] at h
    cases h

end BuilderCall

/-- The failure arises in a scope within a scope, after a test has been added there. -/
theorem BuilderCall.builder_of_error_of_nested_scope :
    let source : Source :=
      { schema := ⟨[]⟩, model := { typeName := "Invoice", table := "invoice" }, aliasName := "abc" }
    let p : Predicate := { source, pending := ⟨[.not], .or⟩, body := ⟨"abc.id = ?", [.integer 1]⟩ }
    let numero : ColumnArg := .given (.raw "numero")
    let inner : Edit Predicate Unit := do
      PredicateCall.edit [] (.isNull numero)
      PredicateCall.edit []
        (.between numero (.given (.scalar (.signed 0)))
          (.given (.scalar (.unsigned 0x8000000000000000))))
    let c : BuilderCall Predicate := .scope (Predicate.InPlace.scope inner)
    (inner.on p.nested).2 = { source, body := .verbatim "abc.numero IS NULL" } ∧
      c.apply p = .error .integerTooLarge ∧ (c.edit.on p).2 = p := by
  intro source p numero inner c
  have h : c.edit.on p = (.error .integerTooLarge, (c.edit.on p).2) := by decide +kernel
  exact ⟨by decide +kernel, c.builder_of_error h⟩

/-! ### Steps of scripts -/

/-- How a step ends, and what it leaves of its builder. -/
def Finished.ending {β : Type} (f : Finished β) : Except Error Unit × β :=
  (f.result.map fun _ => (), f.builder)

/-- What a step of a script does with a builder is what its call does in place. -/
theorem Finished.on_of_exact {β : Type} {e : Edit β Unit} {call : β → Except Error β}
    (h : e.Exact call) (x : β) (s : Session) {done : Except Error (β × Option Report)}
    (hdone : done.map Prod.fst = call x) :
    e.on x = (Finished.ofCall x s done).ending := by
  rw [h x, ← hdone]
  cases done <;> rfl

section

variable [b : Binding] (fragments : List Fragment) (s : Session)

theorem PredicateCall.on_edit_eq (c : PredicateCall) (p : Predicate) :
    (c.edit fragments).on p = (Finished.ofCall p s (c.perform fragments p)).ending := by
  refine Finished.on_of_exact (c.exact_edit fragments) p s ?_
  rw [perform]
  cases c.apply fragments p <;> rfl

theorem ProjectionCall.on_edit_eq (c : ProjectionCall) (p : Projection) :
    (c.edit fragments).on p = (Finished.ofCall p s (c.perform fragments p)).ending := by
  refine Finished.on_of_exact (c.exact_edit fragments) p s ?_
  rw [perform]
  cases c.change fragments p <;> rfl

end

/-- A scope whose script has run is added in place. -/
theorem Predicate.on_scope_eq [b : Binding] {p : Predicate} {build : Edit Predicate Unit}
    {r : Run Predicate} (h : build.on p.nested = (r.result, r.builder)) :
    (InPlace.scope build).on p = (p.finishScope r).ending := by
  refine Finished.on_of_exact (InPlace.exact_scope build) p r.session ?_
  rw [h]
  cases r.result with
  | error e => rfl
  | ok _ => cases p.nest r.builder.compile <;> rfl

/-- A group whose script has run is added in place. -/
theorem Projection.on_group_eq [b : Binding] {p : Projection} {build : Edit Projection Unit}
    {r : Run Projection} (aliasName : String)
    (h : build.on (.expression p.source) = (r.result, r.builder)) :
    (InPlace.group aliasName build).on p = (p.finishGroup aliasName r).ending := by
  refine Finished.on_of_exact (InPlace.exact_group aliasName build) p r.session ?_
  rw [h]
  cases r.result <;> rfl

end SqlCompose
