import SqlCompose.Proofs.Condition.Tests
import SqlCompose.Proofs.Derive.StoredFields
import SqlCompose.Script.Basic

/-! Calls whose accessors are used on the models that they belong to. If accessors can be resolved
there, no such call reports that a property is unknown. -/

namespace SqlCompose

/-! ### Errors -/

/-- The report of a property that a model does not have. -/
def Error.IsUnknownProperty : Error → Prop
  | unknownProperty _ _ => True
  | _ => False

/-- A computation that does not fail for want of a property. -/
def Finds {α : Type} (x : Except Error α) : Prop :=
  ∀ e, x = .error e → ¬ e.IsUnknownProperty

namespace Finds

variable {α β : Type}

theorem ok (a : α) : Finds (.ok a) :=
  nofun

theorem error {e : Error} (h : ¬ e.IsUnknownProperty) : Finds (.error e : Except Error α) := by
  rintro _ ⟨⟩
  exact h

theorem bind {x : Except Error α} (hx : Finds x) {f : α → Except Error β}
    (hf : ∀ a, x = .ok a → Finds (f a)) : Finds (x >>= f) := by
  cases x with
  | error e => exact error (hx e rfl)
  | ok a => exact hf a rfl

theorem map {x : Except Error α} (hx : Finds x) (f : α → β) : Finds (x.map f) := by
  cases x with
  | error e => exact error (hx e rfl)
  | ok a => exact ok _

theorem mapM {f : α → Except Error β} {l : List α} (h : ∀ a ∈ l, Finds (f a)) :
    Finds (l.mapM f) := by
  intro e he
  obtain ⟨a, ha, hf⟩ := mapM_error he
  exact h a ha e hf

/-- Steps one after the other, with something that each of them keeps. -/
theorem foldlM {P : β → Prop} {f : β → α → Except Error β} {l : List α}
    (h : ∀ b, P b → ∀ a ∈ l, Finds (f b a) ∧ ∀ b', f b a = .ok b' → P b') {b : β} (hb : P b) :
    Finds (l.foldlM f b) := by
  induction l generalizing b with
  | nil => exact ok b
  | cons a l ih =>
    obtain ⟨hstep, hkeep⟩ := h b hb a List.mem_cons_self
    rw [List.foldlM_cons]
    exact hstep.bind fun b' hb' =>
      ih (fun b hb a ha => h b hb a (List.mem_cons_of_mem _ ha)) (hkeep b' hb')

end Finds

theorem Scalar.finds_toValue (s : Scalar) : Finds s.toValue := by
  intro e he
  rw [toValue_error he]
  exact id

/-! ### Accessors in scripts -/

section

variable (A : Model → PropertyPath → Prop)

/-- An accessor that belongs to a model. Texts and fragments suit every model. -/
def ColumnRef.Suits (m : Model) : ColumnRef → Prop
  | .field path => A m path
  | _ => True

def Operand.Suits (m : Model) : Operand → Prop
  | .column c => c.Suits A m
  | _ => True

def Argument.Suits (m : Model) : Argument → Prop
  | .operand o => o.Suits A m
  | .scalar _ => True

def ColumnArg.Suits (m : Model) : ColumnArg → Prop
  | .given c => c.Suits A m
  | .fragment _ => True

def OperandArg.Suits (m : Model) : OperandArg → Prop
  | .given a => a.Suits A m
  | .column c => c.Suits A m

/-- All accessors in a call belong to the model whose table the call is about. -/
def PredicateCall.Suits (m : Model) : PredicateCall → Prop
  | .compare _ left right => left.Suits A m ∧ right.Suits A m
  | .between column low high => column.Suits A m ∧ low.Suits A m ∧ high.Suits A m
  | .isIn column _ | .inQuery column _ | .isNull column | .search _ column _ => column.Suits A m
  | .searchAny columns _ => ∀ c ∈ columns, c.Suits A m
  | .test _ operands => ∀ o ∈ operands, o.Suits A m
  | _ => True

def ProjectionCall.Suits (m : Model) : ProjectionCall → Prop
  | .apply _ column _ | .applyWith _ _ column _ => column.Suits A m
  | _ => True

def ScopeCall.Suits (m : Model) : ScopeCall → Prop
  | .groupBy column | .orderBy column _ => column.Suits A m
  | .aliasName => True

/-- In a join, a column of the table that is joined to belongs to the model of that table. -/
def JoinCall.Suits (parent : Model) : JoinCall → Prop
  | .parent column _ => column.Suits A parent
  | .inspection => True

mutual

def Preparation.Suits : Preparation → Prop
  | .done => True
  | .saved _ rest | .storable _ rest => rest.Suits
  | .query head steps rest => steps.Suits head.model ∧ rest.Suits
  | .expression model _ steps rest => steps.Suits model ∧ rest.Suits

def PredicateScript.Suits (m : Model) : PredicateScript → Prop
  | .done => True
  | .call _ before c rest => before.Suits ∧ c.Suits A m ∧ rest.Suits m
  | .scope _ steps rest => steps.Suits m ∧ rest.Suits m

def ProjectionScript.Suits (m : Model) : ProjectionScript → Prop
  | .done => True
  | .call _ before c rest => before.Suits ∧ c.Suits A m ∧ rest.Suits m
  | .group _ _ steps rest => steps.Suits m ∧ rest.Suits m

def ScopeStep.Suits (m : Model) : ScopeStep → Prop
  | .project steps | .expr steps _ => steps.Suits m
  | .filter steps | .having steps => steps.Suits m
  | .join _ model _ steps => steps.Suits m model
  | .call before c => before.Suits ∧ c.Suits A m

def JoinScript.Suits (parent m : Model) : JoinScript → Prop
  | .done => True
  | .scoped _ step rest => step.Suits m ∧ rest.Suits parent m
  | .on _ steps rest => steps.Suits m ∧ rest.Suits parent m
  | .call _ before c rest => before.Suits ∧ c.Suits A parent ∧ rest.Suits parent m

def QueryScript.Suits (m : Model) : QueryScript → Prop
  | .done => True
  | .scoped _ step rest => step.Suits m ∧ rest.Suits m
  | .call _ before _ rest => before.Suits ∧ rest.Suits m

end

end

/-! ### Single calls -/

/-- The table that a builder is about. -/
structure Source.Describes (s : Source) (schema : Schema) (m : Model) : Prop where
  schema_eq : s.schema = schema
  model_eq : s.model = m

section

variable {A : Model → PropertyPath → Prop} {schema : Schema}
  (hA : ∀ m path, A m path → ∃ name, schema.resolve m path = .ok name) {m : Model}

include hA

theorem Source.Describes.finds_columnName {s : Source} (hs : s.Describes schema m)
    {path : PropertyPath} (h : A m path) : Finds (s.columnName path) := by
  obtain ⟨name, hname⟩ := hA m path h
  rw [columnName, hs.schema_eq, hs.model_eq, hname]
  exact .ok name

theorem Source.Describes.finds_qualify {s : Source} (hs : s.Describes schema m) {c : ColumnRef}
    (hc : c.Suits A m) : Finds (s.qualify c) := by
  cases c with
  | field path => exact (hs.finds_columnName hA hc).map _
  | raw text =>
    rw [qualify]
    split <;> exact .ok _
  | fragment f => exact .ok f

theorem Source.Describes.finds_unqualified {s : Source} (hs : s.Describes schema m)
    {c : ColumnRef} (hc : c.Suits A m) : Finds (s.unqualified c) := by
  cases c with
  | field path => exact (hs.finds_columnName hA hc).map _
  | raw text => exact .ok _
  | fragment f => exact .ok f

theorem Source.Describes.finds_identifier {s : Source} (hs : s.Describes schema m)
    {c : ColumnRef} (hc : c.Suits A m) : Finds (s.identifier? c) := by
  cases c with
  | field path => exact (hs.finds_columnName hA hc).map _
  | raw text => exact .ok _
  | fragment f => exact .ok _

theorem Operand.finds_resolve {s : Source} (hs : s.Describes schema m)
    {o : Operand} (ho : o.Suits A m) : Finds (o.resolve s) := by
  cases o with
  | column c => exact hs.finds_qualify hA ho
  | value v => exact .ok _
  | values vs => exact .ok _
  | null => exact .ok _

omit hA in
theorem Test.mem_withNullTest {t : Test} {o : Operand} (h : o ∈ t.withNullTest.operands) :
    o ∈ t.operands := by
  unfold withNullTest at h
  split at h
  · next hoperands =>
    rw [hoperands]
    exact List.mem_cons.mpr (.inl (List.mem_singleton.mp h))
  · next hoperands =>
    rw [hoperands]
    exact List.mem_cons.mpr (.inl (List.mem_singleton.mp h))
  · exact h

theorem Test.finds_compile {s : Source} (hs : s.Describes schema m) {t : Test}
    (ht : ∀ o ∈ t.operands, o.Suits A m) : Finds (t.compile s) := by
  unfold compile
  dsimp only
  split
  · exact .error id
  · exact (Finds.mapM fun o ho => o.finds_resolve hA hs (ht o (mem_withNullTest ho))).bind
      fun _ _ => .ok _

omit hA in
theorem Argument.finds_toOperand (a : Argument) : Finds a.toOperand := by
  cases a with
  | scalar s => exact s.finds_toValue.map _
  | operand o => exact .ok o

omit hA in
theorem Argument.Suits.toOperand {a : Argument} (ha : a.Suits A m) {o : Operand}
    (h : a.toOperand = .ok o) : o.Suits A m := by
  cases a with
  | operand o' =>
    cases h
    exact ha
  | scalar s =>
    rw [Argument.toOperand] at h
    cases hs : s.toValue with
    | error e =>
      rw [hs] at h
      cases h
    | ok v =>
      rw [hs] at h
      cases h
      trivial

omit hA in
theorem ColumnArg.Suits.value {c : ColumnArg} (hc : c.Suits A m)
    (fragments : List Fragment) : (c.value fragments).Suits A m := by
  cases c with
  | fragment f => trivial
  | given c => cases c <;> exact hc

omit hA in
theorem OperandArg.Suits.value {o : OperandArg} (ho : o.Suits A m)
    (fragments : List Fragment) : (o.value fragments).Suits A m := by
  cases o with
  | column c => exact ColumnArg.Suits.value ho fragments
  | given a =>
    cases a with
    | scalar s => trivial
    | operand o =>
      cases o with
      | column c => cases c <;> exact ho
      | _ => trivial

namespace Predicate

variable {p : Predicate} (hp : p.source.Describes schema m)

include hp

theorem finds_test (ops : List Operator) {operands : List Operand}
    (h : ∀ o ∈ operands, o.Suits A m) : Finds (p.test ops operands) :=
  (Test.finds_compile hA hp h).bind fun _ _ => .ok _

theorem finds_compare (op : Operator) {left : ColumnRef} (hleft : left.Suits A m)
    {right : Argument} (hright : right.Suits A m) : Finds (p.compare op left right) := by
  refine right.finds_toOperand.bind fun o ho => finds_test hA hp _ ?_
  rw [List.forall_mem_cons, List.forall_mem_singleton]
  exact ⟨hleft, hright.toOperand ho⟩

theorem finds_searchAny {columns : List ColumnRef}
    (h : ∀ c ∈ columns, c.Suits A m) (text : String) : Finds (p.searchAny columns text) := by
  have hnested : p.nested.source.Describes schema m := hp
  refine Finds.bind
    (Finds.foldlM (P := fun q : Predicate => q.source.Describes schema m) ?_ hnested) fun any _ => ?_
  · intro q hq c hc
    refine ⟨finds_compare hA (p := q.joinNext .or) hq _ (h c hc) trivial, fun q' hq' => ?_⟩
    obtain ⟨operand, -, htest⟩ := bind_ok hq'
    have hsource := (Calls.test (.none (q.joinNext .or)) _ _ htest).source_eq
    rw [hsource]
    exact hq
  · rw [nest]
    split
    · exact .ok _
    · exact finds_test hA hp [] (List.forall_mem_singleton.mpr trivial)

end Predicate

theorem PredicateCall.finds_apply {c : PredicateCall} (hc : c.Suits A m)
    (fragments : List Fragment) {p : Predicate} (hp : p.source.Describes schema m) :
    Finds (c.apply fragments p) := by
  have htest {ops : List Operator} {column : ColumnArg} (hcolumn : column.Suits A m)
      {operands : List Operand} (h : ∀ o ∈ operands, o.Suits A m) :
      Finds (p.test ops (.column (column.value fragments) :: operands)) :=
    Predicate.finds_test hA hp ops (List.forall_mem_cons.mpr ⟨hcolumn.value fragments, h⟩)
  cases c with
  | not | join c | observe o => exact .ok _
  | compare op left right =>
    exact Predicate.finds_compare hA hp op (hc.1.value fragments) (hc.2.value fragments)
  | between column low high =>
    obtain ⟨hcolumn, hlow, hhigh⟩ := hc
    refine (Argument.finds_toOperand _).bind fun l hl => ?_
    refine (Argument.finds_toOperand _).bind fun h hh => htest hcolumn ?_
    rw [List.forall_mem_cons, List.forall_mem_singleton]
    exact ⟨(hlow.value fragments).toOperand hl, (hhigh.value fragments).toOperand hh⟩
  | isIn column values =>
    exact (Finds.mapM fun s _ => s.finds_toValue).bind fun vs _ =>
      htest hc (List.forall_mem_singleton.mpr trivial)
  | inQuery column query => exact htest hc (List.forall_mem_singleton.mpr trivial)
  | isNull column => exact htest hc nofun
  | search anchor column text =>
    exact Predicate.finds_compare hA hp _ (hc.value fragments) trivial
  | searchAny columns text =>
    refine Predicate.finds_searchAny hA hp (List.forall_mem_map.mpr fun c hmem => ?_) text
    exact (hc c hmem).value fragments
  | expr condition =>
    exact Predicate.finds_test hA hp [] (List.forall_mem_singleton.mpr trivial)
  | test operators operands =>
    refine (Finds.mapM fun o _ => Argument.finds_toOperand _).bind fun os hos => ?_
    refine Predicate.finds_test hA hp operators fun o ho => ?_
    obtain ⟨arg, harg, heq⟩ := mem_mapM_ok hos o ho
    exact ((hc arg harg).value fragments).toOperand heq

theorem Projection.finds_apply {p : Projection}
    (hp : p.source.Describes schema m) (wrappers : List Wrapper) {column : ColumnRef}
    (hc : column.Suits A m) (alias? : Option String) : Finds (p.apply wrappers column alias?) := by
  refine (hp.finds_qualify hA hc).bind fun item _ => ?_
  cases alias? with
  | some name => exact .ok _
  | none => exact (hp.finds_identifier hA hc).bind fun _ _ => .ok _

omit hA in
theorem WrapperArg.finds_value (w : WrapperArg) : Finds w.value :=
  (Finds.mapM fun s _ => s.finds_toValue).map _

theorem ProjectionCall.finds_change {c : ProjectionCall} (hc : c.Suits A m)
    (fragments : List Fragment) {p : Projection} (hp : p.source.Describes schema m) :
    Finds (c.change fragments p) := by
  cases c with
  | raw sql | observe o => exact .ok _
  | wrap w => exact w.finds_value.bind fun _ _ => .ok _
  | apply ws column alias? =>
    exact (Finds.mapM fun w _ => w.finds_value).bind fun _ _ =>
      Projection.finds_apply hA hp _ (hc.value fragments) alias?
  | applyWith f arguments column alias? =>
    exact ((Finds.mapM fun s _ => s.finds_toValue).map _).bind fun _ _ =>
      Projection.finds_apply hA hp _ (hc.value fragments) alias?
  | value s alias? => exact s.finds_toValue.bind fun _ _ => .ok _

theorem ScopeCall.finds_perform {c : ScopeCall} (hc : c.Suits A m)
    (fragments : List Fragment) {q : QueryScope} (hq : q.source.Describes schema m) :
    Finds (c.perform fragments q) := by
  cases c with
  | groupBy column =>
    exact ((hq.finds_qualify hA (hc.value fragments)).bind fun _ _ => .ok _).map _
  | orderBy column order =>
    exact ((hq.finds_qualify hA (hc.value fragments)).bind fun _ _ => .ok _).map _
  | aliasName => exact .ok _

end

end SqlCompose
