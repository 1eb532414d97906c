import Mathlib.Data.List.Forall2
import SqlCompose.Script.Program

/-! Pairs of programs that make the same calls. They may differ in the values that are bound
and in the fragments that the caller supplies, and in nothing else. -/

namespace SqlCompose

/-- Which texts are plain, and so may be taken as they are, and which values and supplied
fragments may stand for each other. -/
structure Vocabulary where
  plain : String → Prop
  values : Value → Value → Prop
  given : Fragment → Fragment → Prop

/-- Two computations that both fail, or give results in relation to each other. -/
inductive Outcomes {α β : Type} (R : α → β → Prop) : Except Error α → Except Error β → Prop
  | ok {a : α} {b : β} (h : R a b) : Outcomes R (.ok a) (.ok b)
  | error (e e' : Error) : Outcomes R (.error e) (.error e')

namespace Outcomes

variable {α β γ δ : Type} {R : α → β → Prop} {S : γ → δ → Prop}

theorem bind {x : Except Error α} {y : Except Error β} {f : α → Except Error γ}
    {g : β → Except Error δ} (h : Outcomes R x y) (hfg : ∀ a b, R a b → Outcomes S (f a) (g b)) :
    Outcomes S (x >>= f) (y >>= g) := by
  cases h with
  | ok h => exact hfg _ _ h
  | error e e' => exact .error e e'

theorem map {x : Except Error α} {y : Except Error β} {f : α → γ} {g : β → δ}
    (h : Outcomes R x y) (hfg : ∀ a b, R a b → S (f a) (g b)) :
    Outcomes S (x.map f) (y.map g) := by
  cases h with
  | ok h => exact .ok (hfg _ _ h)
  | error e e' => exact .error e e'

theorem mapM {f : α → Except Error γ} {g : β → Except Error δ} {l : List α} {l' : List β}
    (h : List.Forall₂ R l l') (hfg : ∀ a b, R a b → Outcomes S (f a) (g b)) :
    Outcomes (List.Forall₂ S) (l.mapM f) (l'.mapM g) := by
  induction h with
  | nil => exact .ok .nil
  | cons h _ ih =>
    rw [List.mapM_cons, List.mapM_cons]
    refine (hfg _ _ h).bind fun a b hab => ih.bind fun _ _ hrest => ?_
    exact .ok (.cons hab hrest)

theorem foldlM {f : γ → α → Except Error γ} {g : δ → β → Except Error δ} {l : List α}
    {l' : List β} (h : List.Forall₂ R l l')
    (hfg : ∀ c d a b, S c d → R a b → Outcomes S (f c a) (g d b)) {c : γ} {d : δ} (hcd : S c d) :
    Outcomes S (l.foldlM f c) (l'.foldlM g d) := by
  induction h generalizing c d with
  | nil => exact .ok hcd
  | cons hab _ ih =>
    rw [List.foldlM_cons, List.foldlM_cons]
    exact (hfg _ _ _ _ hcd hab).bind fun _ _ => ih

/-- The same computation twice. -/
theorem same {x : Except Error α} {R : α → α → Prop} (h : ∀ a, x = .ok a → R a a) :
    Outcomes R x x := by
  cases x with
  | ok a => exact .ok (h a rfl)
  | error e => exact .error e e

end Outcomes

namespace Vocabulary

variable (V : Vocabulary)

/-! ### Names -/

/-- A model whose table, default alias and columns have plain names. -/
structure PlainModel (m : Model) : Prop where
  table : V.plain m.table
  aliasName : V.plain m.defaultAlias
  columns : ∀ c ∈ m.columns, V.plain c.name

def PlainSchema (schema : Schema) : Prop :=
  ∀ m ∈ schema.models, V.PlainModel m

/-- A table whose alias is plain, as are the names in all models. -/
structure PlainSource (s : Source) : Prop where
  aliasName : V.plain s.aliasName
  model : V.PlainModel s.model
  schema : V.PlainSchema s.schema

/-- An alias, if there is one, is plain. -/
def PlainAlias (alias? : Option String) : Prop :=
  ∀ a ∈ alias?, V.plain a

/-- The table of a query with plain names. -/
structure PlainHead (head : QueryHead) : Prop where
  model : V.PlainModel head.model
  aliasName : V.PlainAlias head.aliasName

/-! ### Arguments -/

/-- Scalars that are both refused, or are stored as values that may stand for each other. -/
def Scalars (s s' : Scalar) : Prop :=
  Outcomes V.values s.toValue s'.toValue

/-- References to the same column, or supplied fragments. -/
inductive GivenColumns : ColumnRef → ColumnRef → Prop
  | field (path : PropertyPath) : GivenColumns (.field path) (.field path)
  | raw {text : String} (h : V.plain text) : GivenColumns (.raw text) (.raw text)
  | fragment {f f' : Fragment} (h : V.given f f') : GivenColumns (.fragment f) (.fragment f')

inductive GivenArguments : Argument → Argument → Prop
  | scalar {s s' : Scalar} (h : V.Scalars s s') : GivenArguments (.scalar s) (.scalar s')
  | column {c c' : ColumnRef} (h : V.GivenColumns c c') :
      GivenArguments (.operand (.column c)) (.operand (.column c'))
  | value {v w : Value} (h : V.values v w) :
      GivenArguments (.operand (.value v)) (.operand (.value w))
  | values {vs ws : List Value} (h : List.Forall₂ V.values vs ws) :
      GivenArguments (.operand (.values vs)) (.operand (.values ws))
  | null : GivenArguments (.operand .null) (.operand .null)

inductive FragmentArgs : FragmentArg → FragmentArg → Prop
  | given {f f' : Fragment} (h : V.given f f') : FragmentArgs (.given f) (.given f')
  | built (index : Nat) : FragmentArgs (.built index) (.built index)
  | nested {f f' : FragmentArg} (h : FragmentArgs f f') : FragmentArgs (.nested f) (.nested f')

inductive ColumnArgs : ColumnArg → ColumnArg → Prop
  | given {c c' : ColumnRef} (h : V.GivenColumns c c') : ColumnArgs (.given c) (.given c')
  | fragment {f f' : FragmentArg} (h : V.FragmentArgs f f') :
      ColumnArgs (.fragment f) (.fragment f')

inductive OperandArgs : OperandArg → OperandArg → Prop
  | given {a a' : Argument} (h : V.GivenArguments a a') : OperandArgs (.given a) (.given a')
  | column {c c' : ColumnArg} (h : V.ColumnArgs c c') : OperandArgs (.column c) (.column c')

structure WrapperArgs (w w' : WrapperArg) : Prop where
  function_eq : w'.function = w.function
  arguments : List.Forall₂ V.Scalars w.arguments w'.arguments

/-- Texts that are searched for, as patterns. -/
def Searches (t t' : String) : Prop :=
  ∀ anchor : Predicate.Anchor, V.values (.text (anchor.pattern t)) (.text (anchor.pattern t'))

/-! ### Calls -/

inductive PredicateCalls : PredicateCall → PredicateCall → Prop
  | not : PredicateCalls .not .not
  | join (c : Connective) : PredicateCalls (.join c) (.join c)
  | compare (op : Operator) {c c' : ColumnArg} {o o' : OperandArg} (hc : V.ColumnArgs c c')
      (ho : V.OperandArgs o o') : PredicateCalls (.compare op c o) (.compare op c' o')
  | between {c c' : ColumnArg} {low low' high high' : OperandArg} (hc : V.ColumnArgs c c')
      (hlow : V.OperandArgs low low') (hhigh : V.OperandArgs high high') :
      PredicateCalls (.between c low high) (.between c' low' high')
  | isIn {c c' : ColumnArg} {l l' : List Scalar} (hc : V.ColumnArgs c c')
      (hl : List.Forall₂ V.Scalars l l') : PredicateCalls (.isIn c l) (.isIn c' l')
  | inQuery {c c' : ColumnArg} {q q' : FragmentArg} (hc : V.ColumnArgs c c')
      (hq : V.FragmentArgs q q') : PredicateCalls (.inQuery c q) (.inQuery c' q')
  | isNull {c c' : ColumnArg} (hc : V.ColumnArgs c c') : PredicateCalls (.isNull c) (.isNull c')
  | search (anchor : Predicate.Anchor) {c c' : ColumnArg} {t t' : String}
      (hc : V.ColumnArgs c c') (ht : V.Searches t t') :
      PredicateCalls (.search anchor c t) (.search anchor c' t')
  | searchAny {l l' : List ColumnArg} {t t' : String} (hl : List.Forall₂ V.ColumnArgs l l')
      (ht : V.Searches t t') : PredicateCalls (.searchAny l t) (.searchAny l' t')
  | expr {f f' : FragmentArg} (hf : V.FragmentArgs f f') : PredicateCalls (.expr f) (.expr f')
  | test (ops : List Operator) {l l' : List OperandArg} (hl : List.Forall₂ V.OperandArgs l l') :
      PredicateCalls (.test ops l) (.test ops l')
  | observe (o : Observation) : PredicateCalls (.observe o) (.observe o)

inductive ProjectionCalls : ProjectionCall → ProjectionCall → Prop
  | wrap {w w' : WrapperArg} (hw : V.WrapperArgs w w') : ProjectionCalls (.wrap w) (.wrap w')
  | apply {ws ws' : List WrapperArg} {c c' : ColumnArg} {alias? : Option String}
      (hws : List.Forall₂ V.WrapperArgs ws ws') (hc : V.ColumnArgs c c')
      (ha : V.PlainAlias alias?) : ProjectionCalls (.apply ws c alias?) (.apply ws' c' alias?)
  | applyWith (f : Function) {l l' : List Scalar} {c c' : ColumnArg} {alias? : Option String}
      (hl : List.Forall₂ V.Scalars l l') (hc : V.ColumnArgs c c') (ha : V.PlainAlias alias?) :
      ProjectionCalls (.applyWith f l c alias?) (.applyWith f l' c' alias?)
  | raw {sql : String} (hs : V.plain sql) : ProjectionCalls (.raw sql) (.raw sql)
  | value {s s' : Scalar} {alias? : Option String} (hs : V.Scalars s s')
      (ha : V.PlainAlias alias?) : ProjectionCalls (.value s alias?) (.value s' alias?)
  | observe (o : Observation) : ProjectionCalls (.observe o) (.observe o)

inductive ScopeCalls : ScopeCall → ScopeCall → Prop
  | groupBy {c c' : ColumnArg} (hc : V.ColumnArgs c c') : ScopeCalls (.groupBy c) (.groupBy c')
  | orderBy {c c' : ColumnArg} (hc : V.ColumnArgs c c') (order : Order) :
      ScopeCalls (.orderBy c order) (.orderBy c' order)
  | aliasName : ScopeCalls .aliasName .aliasName

inductive JoinCalls : JoinCall → JoinCall → Prop
  | parent {c c' : ColumnArg} (hc : V.ColumnArgs c c') (saveAs : Option String) :
      JoinCalls (.parent c saveAs) (.parent c' saveAs)
  | inspection : JoinCalls .inspection .inspection

inductive QueryCalls : QueryCall → QueryCall → Prop
  | limit {m n : Int64} (h : V.values (.integer m) (.integer n)) :
      QueryCalls (.limit m) (.limit n)
  | offset {m n : Int64} (h : V.values (.integer m) (.integer n)) :
      QueryCalls (.offset m) (.offset n)
  | union (op : SetOperator) {q q' : FragmentArg} (hq : V.FragmentArgs q q') :
      QueryCalls (.union op q) (.union op q')
  | fromQuery {q q' : FragmentArg} (hq : V.FragmentArgs q q') :
      QueryCalls (.fromQuery q) (.fromQuery q')
  | withCounter (counter : CounterId) : QueryCalls (.withCounter counter) (.withCounter counter)
  | compile (saveAs : Option String) : QueryCalls (.compile saveAs) (.compile saveAs)
  | inspection : QueryCalls .inspection .inspection

/-! ### Scripts -/

mutual

inductive Preparations : Preparation → Preparation → Prop
  | done : Preparations .done .done
  | saved (name : String) {rest rest' : Preparation} (hrest : Preparations rest rest') :
      Preparations (.saved name rest) (.saved name rest')
  | storable {l l' : List Scalar} {rest rest' : Preparation} (hl : List.Forall₂ V.Scalars l l')
      (hrest : Preparations rest rest') : Preparations (.storable l rest) (.storable l' rest')
  | query {head : QueryHead} {steps steps' : QueryScript} {rest rest' : Preparation}
      (hhead : V.PlainHead head) (hsteps : QueryScripts steps steps')
      (hrest : Preparations rest rest') :
      Preparations (.query head steps rest) (.query head steps' rest')
  | expression {model : Model} {aliasName : String} {steps steps' : ProjectionScript}
      {rest rest' : Preparation} (hmodel : V.PlainModel model) (halias : V.plain aliasName)
      (hsteps : ProjectionScripts steps steps') (hrest : Preparations rest rest') :
      Preparations (.expression model aliasName steps rest)
        (.expression model aliasName steps' rest')

inductive PredicateScripts : PredicateScript → PredicateScript → Prop
  | done : PredicateScripts .done .done
  | call (attempt : Bool) {before before' : Preparation} {c c' : PredicateCall}
      {rest rest' : PredicateScript} (hbefore : Preparations before before')
      (hcall : V.PredicateCalls c c') (hrest : PredicateScripts rest rest') :
      PredicateScripts (.call attempt before c rest) (.call attempt before' c' rest')
  | scope (attempt : Bool) {steps steps' rest rest' : PredicateScript}
      (hsteps : PredicateScripts steps steps') (hrest : PredicateScripts rest rest') :
      PredicateScripts (.scope attempt steps rest) (.scope attempt steps' rest')

inductive ProjectionScripts : ProjectionScript → ProjectionScript → Prop
  | done : ProjectionScripts .done .done
  | call (attempt : Bool) {before before' : Preparation} {c c' : ProjectionCall}
      {rest rest' : ProjectionScript} (hbefore : Preparations before before')
      (hcall : V.ProjectionCalls c c') (hrest : ProjectionScripts rest rest') :
      ProjectionScripts (.call attempt before c rest) (.call attempt before' c' rest')
  | group (attempt : Bool) {aliasName : String} {steps steps' rest rest' : ProjectionScript}
      (halias : V.plain aliasName) (hsteps : ProjectionScripts steps steps')
      (hrest : ProjectionScripts rest rest') :
      ProjectionScripts (.group attempt aliasName steps rest)
        (.group attempt aliasName steps' rest')

inductive ScopeSteps : ScopeStep → ScopeStep → Prop
  | project {steps steps' : ProjectionScript} (hsteps : ProjectionScripts steps steps') :
      ScopeSteps (.project steps) (.project steps')
  | filter {steps steps' : PredicateScript} (hsteps : PredicateScripts steps steps') :
      ScopeSteps (.filter steps) (.filter steps')
  | having {steps steps' : PredicateScript} (hsteps : PredicateScripts steps steps') :
      ScopeSteps (.having steps) (.having steps')
  | expr {steps steps' : ProjectionScript} (saveAs : Option String)
      (hsteps : ProjectionScripts steps steps') :
      ScopeSteps (.expr steps saveAs) (.expr steps' saveAs)
  | join (kind : JoinKind) {model : Model} {aliasName : Option String}
      {steps steps' : JoinScript} (hmodel : V.PlainModel model)
      (halias : V.PlainAlias aliasName) (hsteps : JoinScripts steps steps') :
      ScopeSteps (.join kind model aliasName steps) (.join kind model aliasName steps')
  | call {before before' : Preparation} {c c' : ScopeCall}
      (hbefore : Preparations before before') (hcall : V.ScopeCalls c c') :
      ScopeSteps (.call before c) (.call before' c')

inductive JoinScripts : JoinScript → JoinScript → Prop
  | done : JoinScripts .done .done
  | scoped (attempt : Bool) {step step' : ScopeStep} {rest rest' : JoinScript}
      (hstep : ScopeSteps step step') (hrest : JoinScripts rest rest') :
      JoinScripts (.scoped attempt step rest) (.scoped attempt step' rest')
  | on (attempt : Bool) {steps steps' : PredicateScript} {rest rest' : JoinScript}
      (hsteps : PredicateScripts steps steps') (hrest : JoinScripts rest rest') :
      JoinScripts (.on attempt steps rest) (.on attempt steps' rest')
  | call (attempt : Bool) {before before' : Preparation} {c c' : JoinCall}
      {rest rest' : JoinScript} (hbefore : Preparations before before')
      (hcall : V.JoinCalls c c') (hrest : JoinScripts rest rest') :
      JoinScripts (.call attempt before c rest) (.call attempt before' c' rest')

inductive QueryScripts : QueryScript → QueryScript → Prop
  | done : QueryScripts .done .done
  | scoped (attempt : Bool) {step step' : ScopeStep} {rest rest' : QueryScript}
      (hstep : ScopeSteps step step') (hrest : QueryScripts rest rest') :
      QueryScripts (.scoped attempt step rest) (.scoped attempt step' rest')
  | call (attempt : Bool) {before before' : Preparation} {c c' : QueryCall}
      {rest rest' : QueryScript} (hbefore : Preparations before before')
      (hcall : V.QueryCalls c c') (hrest : QueryScripts rest rest') :
      QueryScripts (.call attempt before c rest) (.call attempt before' c' rest')

end

/-! ### Programs -/

inductive FragmentCalls : FragmentCall → FragmentCall → Prop
  | replace {f f' : Fragment} (hf : V.given f f') : FragmentCalls (.replace f) (.replace f')
  | appendText {sql : String} (hs : V.plain sql) : FragmentCalls (.appendText sql) (.appendText sql)
  | append {f f' : FragmentArg} (hf : V.FragmentArgs f f') :
      FragmentCalls (.append f) (.append f')
  | parenthesize : FragmentCalls .parenthesize .parenthesize
  | join {l l' : List FragmentArg} {separator : String} (hl : List.Forall₂ V.FragmentArgs l l')
      (hs : V.plain separator) : FragmentCalls (.join l separator) (.join l' separator)
  | wrap {w w' : WrapperArg} (hw : V.WrapperArgs w w') : FragmentCalls (.wrap w) (.wrap w')
  | save (name : Option String) : FragmentCalls (.save name) (.save name)
  | isEmpty : FragmentCalls .isEmpty .isEmpty
  | text : FragmentCalls .text .text
  | inspection : FragmentCalls .inspection .inspection
  | equals {f f' : FragmentArg} (hf : V.FragmentArgs f f') :
      FragmentCalls (.equals f) (.equals f')

structure FragmentSteps (step step' : FragmentStep) : Prop where
  before : V.Preparations step.before step'.before
  call : V.FragmentCalls step.call step'.call

inductive UpdateSteps : UpdateStep → UpdateStep → Prop
  | set {before before' : Preparation} {c c' : ColumnArg} {s s' : Scalar}
      (hbefore : V.Preparations before before') (hc : V.ColumnArgs c c') (hs : V.Scalars s s') :
      UpdateSteps (.set before c s) (.set before' c' s')
  | filter {steps steps' : PredicateScript} (hsteps : V.PredicateScripts steps steps') :
      UpdateSteps (.filter steps) (.filter steps')
  | inspection : UpdateSteps .inspection .inspection

inductive DeleteSteps : DeleteStep → DeleteStep → Prop
  | filter {steps steps' : PredicateScript} (hsteps : V.PredicateScripts steps steps') :
      DeleteSteps (.filter steps) (.filter steps')
  | inspection : DeleteSteps .inspection .inspection

/-- An insertion into a table and columns with plain names. -/
structure PlainInsertion (i : Insertion) : Prop where
  table : V.plain i.table
  columns : ∀ c ∈ i.columns, V.plain c

structure PlainRecordType {ρ : Type} (T : RecordType ρ) : Prop where
  schema : V.PlainSchema T.schema
  model : V.PlainModel T.model

/-- Records that are both refused, or have values that may stand for each other. -/
structure Records {ρ : Type} (T : RecordType ρ) (r r' : ρ) : Prop where
  values : Outcomes (List.Forall₂ V.values) (T.values r) (T.values r')
  key : Outcomes V.values (T.key r) (T.key r')

inductive Programs : Program → Program → Prop
  | condition {model : Model} {aliasName : String} {steps steps' : PredicateScript}
      (hmodel : V.PlainModel model) (halias : V.plain aliasName)
      (hsteps : V.PredicateScripts steps steps') :
      Programs (.condition model aliasName steps) (.condition model aliasName steps')
  | selection {model : Model} {aliasName : String} (isExpression : Bool)
      {steps steps' : ProjectionScript} (hmodel : V.PlainModel model)
      (halias : V.plain aliasName) (hsteps : V.ProjectionScripts steps steps') :
      Programs (.selection model aliasName isExpression steps)
        (.selection model aliasName isExpression steps')
  | query {head : QueryHead} {steps steps' : QueryScript} (hhead : V.PlainHead head)
      (hsteps : V.QueryScripts steps steps') : Programs (.query head steps) (.query head steps')
  | composition {l l' : List FragmentStep} (hl : List.Forall₂ V.FragmentSteps l l') :
      Programs (.composition l) (.composition l')
  | update {model : Model} {l l' : List UpdateStep} (hmodel : V.PlainModel model)
      (hl : List.Forall₂ V.UpdateSteps l l') : Programs (.update model l) (.update model l')
  | delete {model : Model} {l l' : List DeleteStep} (hmodel : V.PlainModel model)
      (hl : List.Forall₂ V.DeleteSteps l l') : Programs (.delete model l) (.delete model l')
  | deleteKeys {model : Model} {keys keys' : List Scalar} {l l' : List DeleteStep}
      (hmodel : V.PlainModel model) (hkeys : List.Forall₂ V.Scalars keys keys')
      (hl : List.Forall₂ V.DeleteSteps l l') :
      Programs (.deleteKeys model keys l) (.deleteKeys model keys' l')
  | insert {i : Insertion} {rows rows' : List (List Value)} (hi : V.PlainInsertion i)
      (hrows : List.Forall₂ (List.Forall₂ V.values) rows rows') :
      Programs (.insert i rows) (.insert i rows')
  | insertRecords {ρ : Type} {i : Insertion} {T : RecordType ρ} {l l' : List ρ}
      (hi : V.PlainInsertion i) (hl : List.Forall₂ (V.Records T) l l') :
      Programs (.insertRecords i T l) (.insertRecords i T l')
  | updateRecord {ρ : Type} {T : RecordType ρ} {r r' : ρ} (hT : V.PlainRecordType T)
      (hr : V.Records T r r') : Programs (.updateRecord T r) (.updateRecord T r')
  | deleteRecord {ρ : Type} {T : RecordType ρ} {r r' : ρ} (hT : V.PlainRecordType T)
      (hr : V.Records T r r') : Programs (.deleteRecord T r) (.deleteRecord T r')

end Vocabulary

end SqlCompose
