import SqlCompose.Proofs.Renaming.Templates
import SqlCompose.Proofs.Rendering
import SqlCompose.Query.Clauses

/-! Conditions and lists of selected items under several histories. The same calls on builders that
differ only in aliases all fail, or leave builders that differ only in aliases. -/

namespace SqlCompose

namespace Naming

variable {ι : Type} (N : Naming ι)

/-! ### Columns and operands -/

/-- One table of one schema, under an alias. -/
structure Sources (s : ι → Source) : Prop where
  schema : Same fun i => (s i).schema
  model : Same fun i => (s i).model
  aliasName : N.Alias fun i => (s i).aliasName

/-- One reference to a column, or fragments that come from one template. -/
inductive Columns : (ι → ColumnRef) → Prop
  | same (c : ColumnRef) : Columns fun _ => c
  | fragment {f : ι → Fragment} (h : N.Templated f) : Columns fun i => .fragment (f i)

inductive Operands : (ι → Operand) → Prop
  | same (o : Operand) : Operands fun _ => o
  | column {c : ι → ColumnRef} (h : N.Columns c) : Operands fun i => .column (c i)

inductive Arguments : (ι → Argument) → Prop
  | same (a : Argument) : Arguments fun _ => a
  | operand {o : ι → Operand} (h : N.Operands o) : Arguments fun i => .operand (o i)

variable {N}

namespace Sources

variable {s : ι → Source} (hs : N.Sources s)

include hs

theorem columnName (path : PropertyPath) :
    JointOutcome Same fun i => (s i).columnName path := by
  obtain ⟨schema, hschema⟩ := hs.schema
  obtain ⟨model, hmodel⟩ := hs.model
  simp only [Source.columnName, hschema, hmodel]
  exact .same fun _ => .rfl

/-- A name after the alias of its table. -/
theorem qualified (name : String) :
    N.Templated fun i => .verbatim ((s i).aliasName ++ "." ++ name) := by
  have halias : N.Templated fun i => .verbatim ((s i).aliasName ++ ".") :=
    .ofAlias hs.aliasName (by decide)
  exact halias.append (.same (.verbatim name))

theorem qualify {c : ι → ColumnRef} (hc : N.Columns c) :
    JointOutcome N.Templated fun i => (s i).qualify (c i) := by
  cases hc with
  | fragment h => exact .ok h
  | same c =>
    cases c with
    | field path =>
      refine (hs.columnName path).map fun name hname => ?_
      obtain ⟨name, hname⟩ := hname
      simp only [hname]
      exact hs.qualified name
    | raw text =>
      simp only [Source.qualify]
      split
      · exact .ok (hs.qualified text)
      · exact .ok (.same _)
    | fragment f => exact .ok (.same f)

/-- The name that a column is known by. -/
theorem identifier {c : ι → ColumnRef} (hc : N.Columns c) :
    JointOutcome Same fun i => (s i).identifier? (c i) := by
  cases hc with
  | fragment h => exact .ok .rfl
  | same c =>
    cases c with
    | field path => exact (hs.columnName path).map fun name hname => hname.map some
    | raw text => exact .ok .rfl
    | fragment f => exact .ok .rfl

theorem resolve {o : ι → Operand} (ho : N.Operands o) :
    JointOutcome N.Templated fun i => (o i).resolve (s i) := by
  cases ho with
  | column h => exact hs.qualify h
  | same o =>
    cases o with
    | column c => exact hs.qualify (.same c)
    | value | values | null => exact .ok (.same _)

end Sources

theorem toOperand {a : ι → Argument} (h : N.Arguments a) :
    JointOutcome N.Operands fun i => (a i).toOperand := by
  cases h with
  | operand h => exact .ok h
  | same a => exact .same fun o => .same o

/-! ### Tests -/

theorem infixed {f g : ι → Fragment} (hf : N.Templated f) (text : String) (hg : N.Templated g) :
    N.Templated fun i => Test.infixed (f i) text (g i) :=
  (hf.append (.same _)).append hg

theorem render (ops : List Operator) {l : ι → List Fragment} (h : JointList N.Templated l) :
    N.Templated fun i => Test.render ops (l i) := by
  have htwo {a b : ι → Fragment} {rest : ι → List Fragment} (ha : N.Templated a)
      (hb : N.Templated b)
      (hrest : ∀ i, rest i = [] ∨ ops ≠ [.between] ∧ ops ≠ [.not, .between]) :
      N.Templated fun i => Test.render ops (a i :: b i :: rest i) := by
    simp only [fun i => Test.render_two ops (a i) (b i) (hrest i)]
    split_ifs
    · exact ha.parenthesized
    · exact (Templated.same _).append ha.parenthesized
    · exact ha.appendText _
    · exact infixed ha _ hb.parenthesized
    · exact infixed ha _ hb
  cases h with
  | nil =>
    simp only [Test.render_nil]
    exact .same _
  | cons ha h =>
    cases h with
    | nil =>
      simp only [Test.render_one]
      split_ifs
      · exact ha.parenthesized
      · exact (Templated.same _).append ha.parenthesized
      · exact ha.appendText _
      · exact ha.appendText _
    | cons hb h =>
      cases h with
      | nil => exact htwo ha hb fun _ => .inl rfl
      | cons hc _ =>
        by_cases hbetween : ops = [.between] ∨ ops = [.not, .between]
        · simp only [Test.render_between hbetween]
          exact ((infixed ha _ hb).append (.same _)).append hc
        · rw [not_or] at hbetween
          exact htwo ha hb fun _ => .inr hbetween

/-- Whether a comparison with the null marker is rewritten does not depend on the history. -/
theorem withNullTest (ops : List Operator) {l : ι → List Operand} (h : JointList N.Operands l) :
    ∃ ops' l', JointList N.Operands l' ∧ ∀ i, (Test.mk ops (l i)).withNullTest = ⟨ops', l' i⟩ := by
  have hkeep (hne : ∀ i a, l i ≠ [a, .null]) : ∃ ops' l', JointList N.Operands l' ∧
      ∀ i, (Test.mk ops (l i)).withNullTest = ⟨ops', l' i⟩ :=
    ⟨ops, l, h, fun i => Test.withNullTest_of_ne (hne i)⟩
  obtain _ | ⟨ha, _ | ⟨⟨o⟩ | _, _ | _⟩⟩ := h
  case cons.cons.same.nil =>
    by_cases ho : o = .null
    · subst ho
      by_cases hequal : ops = [.equal]
      · subst hequal
        exact ⟨[.isNull], _, .cons ha .nil, fun i => rfl⟩
      by_cases hnot : ops = [.not, .equal]
      · subst hnot
        exact ⟨[.not, .isNull], _, .cons ha .nil, fun i => rfl⟩
      refine ⟨ops, _, .cons ha (.cons (.same .null) .nil), fun i => ?_⟩
      unfold Test.withNullTest
      split <;> simp_all
    · exact hkeep (by simp [ho])
  all_goals exact hkeep (by simp)

theorem compile {s : ι → Source} (hs : N.Sources s) (ops : List Operator) {l : ι → List Operand}
    (h : JointList N.Operands l) :
    JointOutcome N.Templated fun i => (Test.mk ops (l i)).compile (s i) := by
  obtain ⟨ops', l', hl', htest⟩ := withNullTest ops h
  obtain ⟨n, hn⟩ := hl'.length
  simp only [Test.compile, htest, hn]
  split
  · exact .error _
  · refine (hl'.mapM fun o ho => hs.resolve ho).bind fun fs hfs => ?_
    exact .ok (render ops' hfs)

/-! ### Conditions -/

variable (N)

/-- Conditions on one table with the same pending. -/
structure Predicates (p : ι → Predicate) : Prop where
  source : N.Sources fun i => (p i).source
  pending : Same fun i => (p i).pending
  body : N.Templated fun i => (p i).body

variable {N}

namespace Predicates

variable {p : ι → Predicate}

theorem fresh {source : ι → Source} (h : N.Sources source) :
    N.Predicates fun i => { source := source i } :=
  ⟨h, .rfl, .same .empty⟩

theorem negateNext (h : N.Predicates p) : N.Predicates fun i => (p i).negateNext := by
  obtain ⟨pending, hpending⟩ := h.pending
  refine ⟨h.source, ?_, h.body⟩
  simp only [Predicate.negateNext, hpending]
  exact .rfl

theorem joinNext (h : N.Predicates p) (c : Connective) :
    N.Predicates fun i => (p i).joinNext c :=
  ⟨h.source, h.pending.map fun pending => { pending with connective := c }, h.body⟩

theorem push (h : N.Predicates p) {c : ι → Connective} (hc : Same c) {f : ι → Fragment}
    (hf : N.Templated f) : N.Predicates fun i => (p i).push (c i) (f i) := by
  obtain ⟨c', hc⟩ := hc
  obtain ⟨e, he⟩ := h.body.isEmpty
  refine ⟨h.source, h.pending, ?_⟩
  simp only [Predicate.push, Predicate.isEmpty, he, hc]
  cases e with
  | true => exact h.body.append hf
  | false => exact (h.body.appendText _).append hf

theorem test (h : N.Predicates p) (ops : List Operator) {l : ι → List Operand}
    (hl : JointList N.Operands l) : JointOutcome N.Predicates fun i => (p i).test ops (l i) := by
  obtain ⟨pending, hpending⟩ := h.pending
  simp only [Predicate.test, hpending]
  refine (compile h.source _ hl).bind fun f hf => .ok ?_
  exact { h.push .rfl hf with pending := .rfl }

theorem compare (h : N.Predicates p) (op : Operator) {c : ι → ColumnRef} (hc : N.Columns c)
    {a : ι → Argument} (ha : N.Arguments a) :
    JointOutcome N.Predicates fun i => (p i).compare op (c i) (a i) :=
  (toOperand ha).bind fun _ ho => h.test [op] (.cons (.column hc) (.cons ho .nil))

theorem between (h : N.Predicates p) {c : ι → ColumnRef} (hc : N.Columns c)
    {low high : ι → Argument} (hlow : N.Arguments low) (hhigh : N.Arguments high) :
    JointOutcome N.Predicates fun i => (p i).between (c i) (low i) (high i) :=
  (toOperand hlow).bind fun _ hl => (toOperand hhigh).bind fun _ hh =>
    h.test [.between] (.cons (.column hc) (.cons hl (.cons hh .nil)))

theorem isIn (h : N.Predicates p) {c : ι → ColumnRef} (hc : N.Columns c) (values : List Scalar) :
    JointOutcome N.Predicates fun i => (p i).isIn (c i) values :=
  (JointOutcome.same (R := Same) fun vs => ⟨vs, fun _ => rfl⟩).bind fun vs hvs => by
    obtain ⟨vs', hvs⟩ := hvs
    simp only [hvs]
    exact h.test [.isIn] (.cons (.column hc) (.cons (.same _) .nil))

theorem expr (h : N.Predicates p) {f : ι → Fragment} (hf : N.Templated f) :
    JointOutcome N.Predicates fun i => (p i).expr (f i) :=
  h.test [] (.cons (.column (.fragment hf)) .nil)

theorem nest (h : N.Predicates p) {n : ι → Predicate} (hn : N.Predicates n) :
    JointOutcome N.Predicates fun i => (p i).nest (n i).compile := by
  obtain ⟨e, he⟩ := hn.body.isEmpty
  simp only [Predicate.nest, Predicate.compile, he]
  cases e with
  | true => exact .ok { h with pending := .rfl }
  | false => exact h.expr hn.body

theorem search (h : N.Predicates p) (anchor : Predicate.Anchor) {c : ι → ColumnRef}
    (hc : N.Columns c) (text : String) :
    JointOutcome N.Predicates fun i => (p i).search anchor (c i) text :=
  h.compare .like hc (.same _)

theorem searchAny (h : N.Predicates p) {l : ι → List ColumnRef} (hl : JointList N.Columns l)
    (text : String) : JointOutcome N.Predicates fun i => (p i).searchAny (l i) text := by
  have hany := hl.foldlM (T := N.Predicates)
    (f := fun q c => (q.joinNext .or).search .anywhere c text)
    (fun _ _ hq hc => (hq.joinNext .or).search .anywhere hc text) (fresh h.source)
  exact hany.bind fun _ hq => h.nest hq

theorem absorb (h : N.Predicates p) {f : ι → Fragment} (hf : N.Templated f) :
    N.Predicates fun i => (p i).absorb (f i) := by
  obtain ⟨e, he⟩ := hf.isEmpty
  simp only [Predicate.absorb, he]
  cases e with
  | true => exact h
  | false => exact h.push .rfl hf.parenthesized

end Predicates

/-! ### Selected items -/

variable (N)

/-- Lists of items on one table, with the same functions queued. -/
structure Projections (p : ι → Projection) : Prop where
  source : N.Sources fun i => (p i).source
  items : JointList N.Templated fun i => (p i).items
  pending : Same fun i => (p i).pending
  isExpression : Same fun i => (p i).isExpression

variable {N}

theorem wrap (w : Wrapper) {f : ι → Fragment} (hf : N.Templated f) :
    N.Templated fun i => w.apply (f i) :=
  (((Templated.same _).append hf).append (.same _)).append (.same _)

namespace Projections

variable {p : ι → Projection}

theorem start {source : ι → Source} (h : N.Sources source) (isExpression : Bool) :
    N.Projections fun i => { source := source i, isExpression } :=
  ⟨h, .nil, .rfl, .rfl⟩

theorem enqueue (h : N.Projections p) (w : Wrapper) : N.Projections fun i => (p i).wrap w :=
  { h with pending := h.pending.map (· ++ [w]) }

theorem push (h : N.Projections p) (ws : List Wrapper) {f : ι → Fragment} (hf : N.Templated f)
    (alias? : Option String) : N.Projections fun i => (p i).push ws (f i) alias? := by
  obtain ⟨pending, hpending⟩ := h.pending
  obtain ⟨isExpression, hexpression⟩ := h.isExpression
  have hwrapped : N.Templated fun i => (pending ++ ws).foldr Wrapper.apply (f i) := by
    induction pending ++ ws with
    | nil => exact hf
    | cons w ws ih => exact wrap w ih
  refine ⟨h.source, h.items.append (.cons ?_ .nil), .rfl, h.isExpression⟩
  simp only [hpending, hexpression]
  cases alias? with
  | none => exact hwrapped
  | some a =>
    cases isExpression with
    | true => exact hwrapped
    | false => exact hwrapped.appendText _

theorem apply (h : N.Projections p) (ws : List Wrapper) {c : ι → ColumnRef} (hc : N.Columns c)
    (alias? : Option String) :
    JointOutcome N.Projections fun i => (p i).apply ws (c i) alias? := by
  refine (h.source.qualify hc).bind fun f hf => ?_
  cases alias? with
  | some a => exact .ok (h.push ws hf (some a))
  | none =>
    refine (h.source.identifier hc).bind fun a ha => ?_
    obtain ⟨a', ha⟩ := ha
    simp only [ha]
    exact .ok (h.push ws hf a')

theorem value (h : N.Projections p) (s : Scalar) (alias? : Option String) :
    JointOutcome N.Projections fun i => (p i).value s alias? := by
  simp only [Projection.value]
  cases s.toValue with
  | error e => exact .error e
  | ok v => exact .ok (h.push [] (.same _) alias?)

theorem group (h : N.Projections p) (aliasName : String) {f : ι → Fragment}
    (hf : N.Templated f) : N.Projections fun i => (p i).group aliasName (f i) :=
  h.push _ hf _

theorem compile (h : N.Projections p) : N.Templated fun i => (p i).compile := by
  obtain ⟨isExpression, hexpression⟩ := h.isExpression
  simp only [Projection.compile, hexpression]
  exact .join _ h.items

end Projections

end Naming

end SqlCompose
