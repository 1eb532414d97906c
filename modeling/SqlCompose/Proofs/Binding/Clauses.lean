import SqlCompose.Proofs.Binding.Likeness
import SqlCompose.Query.Clauses

/-! Conditions and lists of selected items under two bindings. The same calls on builders that
are alike both fail or leave builders that are alike. -/

namespace SqlCompose

namespace Likeness

/-! ### Conditions -/

variable (K : Likeness)

inductive Arguments : Argument → Argument → Prop
  | scalar {s s' : Scalar} (h : K.Scalars s s') : Arguments (.scalar s) (.scalar s')
  | operand {o o' : Operand} (h : K.Operands o o') : Arguments (.operand o) (.operand o')

/-- Conditions on one table with the same pending. One is empty if the other is. -/
structure Predicates (p p' : Predicate) : Prop where
  source : K.PlainSource p.source
  source_eq : p'.source = p.source
  pending_eq : p'.pending = p.pending
  body : K.alike p.body p'.body
  isEmpty_eq : p'.body.isEmpty = p.body.isEmpty

variable {K}

theorem toOperand {a a' : Argument} (h : K.Arguments a a') :
    Outcomes K.Operands a.toOperand a'.toOperand := by
  cases h with
  | scalar h => exact h.map fun _ _ hv => .value hv
  | operand h => exact .ok h

theorem plain_connective (c : Connective) : K.plain (" " ++ c.text ++ " ") := by
  cases c <;> exact K.plain_of_not_mem (by decide)

namespace Predicates

variable {p p' : Predicate}

theorem fresh {source : Source} (h : K.PlainSource source) : K.Predicates { source } { source } :=
  ⟨h, rfl, rfl, empty, rfl⟩

theorem nested (h : K.Predicates p p') : K.Predicates p.nested p'.nested := by
  rw [Predicate.nested, Predicate.nested, h.source_eq]
  exact fresh h.source

theorem setPending (h : K.Predicates p p') (pending : Pending) :
    K.Predicates { p with pending } { p' with pending } :=
  ⟨h.source, h.source_eq, rfl, h.body, h.isEmpty_eq⟩

theorem negateNext (h : K.Predicates p p') : K.Predicates p.negateNext p'.negateNext := by
  rw [Predicate.negateNext, Predicate.negateNext, h.pending_eq]
  exact h.setPending _

theorem joinNext (h : K.Predicates p p') (c : Connective) :
    K.Predicates (p.joinNext c) (p'.joinNext c) := by
  rw [Predicate.joinNext, Predicate.joinNext, h.pending_eq]
  exact h.setPending _

theorem push (h : K.Predicates p p') (c : Connective) {f f' : Fragment} (hf : K.alike f f')
    (hempty : f'.isEmpty = f.isEmpty) : K.Predicates (p.push c f) (p'.push c f') := by
  have hp : p'.isEmpty = p.isEmpty := h.isEmpty_eq
  refine ⟨h.source, h.source_eq, h.pending_eq, ?_, ?_⟩
  · simp only [Predicate.push, hp]
    refine K.append ?_ hf
    split
    · exact h.body
    · exact appendText h.body (plain_connective c)
  · simp only [Predicate.push, hp]
    split <;> simp [h.isEmpty_eq, hempty]

theorem test (h : K.Predicates p p') (ops : List Operator) {l l' : List Operand}
    (hl : List.Forall₂ K.Operands l l') :
    Outcomes K.Predicates (p.test (b := K.left) ops l) (p'.test (b := K.right) ops l') := by
  have hcompile := compile h.source (p.pending.operators ++ ops) hl
  unfold Predicate.test
  rw [h.source_eq, h.pending_eq]
  generalize hx : Test.compile (b := K.left) p.source ⟨p.pending.operators ++ ops, l⟩ = x
    at hcompile
  generalize hy : Test.compile (b := K.right) p.source ⟨p.pending.operators ++ ops, l'⟩ = y
    at hcompile
  cases hcompile with
  | error e e' => exact .error e e'
  | ok hf =>
    have hempty := (Test.isEmpty_compile hy).trans (Test.isEmpty_compile hx).symm
    exact .ok ((h.push p.pending.connective hf hempty).setPending {})

theorem compare (h : K.Predicates p p') (op : Operator) {c c' : ColumnRef} (hc : K.Columns c c')
    {a a' : Argument} (ha : K.Arguments a a') :
    Outcomes K.Predicates (p.compare (b := K.left) op c a) (p'.compare (b := K.right) op c' a') :=
  (toOperand ha).bind fun _ _ ho => h.test [op] (.cons (.column hc) (.cons ho .nil))

theorem between (h : K.Predicates p p') {c c' : ColumnRef} (hc : K.Columns c c')
    {low low' high high' : Argument} (hlow : K.Arguments low low')
    (hhigh : K.Arguments high high') :
    Outcomes K.Predicates (p.between (b := K.left) c low high)
      (p'.between (b := K.right) c' low' high') :=
  (toOperand hlow).bind fun _ _ hl => (toOperand hhigh).bind fun _ _ hh =>
    h.test [.between] (.cons (.column hc) (.cons hl (.cons hh .nil)))

theorem isIn (h : K.Predicates p p') {c c' : ColumnRef} (hc : K.Columns c c')
    {l l' : List Scalar} (hl : List.Forall₂ K.Scalars l l') :
    Outcomes K.Predicates (p.isIn (b := K.left) c l) (p'.isIn (b := K.right) c' l') :=
  (Outcomes.mapM hl fun _ _ hs => hs).bind fun _ _ hvs =>
    h.test [.isIn] (.cons (.column hc) (.cons (.values hvs) .nil))

theorem expr (h : K.Predicates p p') {f f' : Fragment} (hf : K.alike f f') :
    Outcomes K.Predicates (p.expr (b := K.left) f) (p'.expr (b := K.right) f') :=
  h.test [] (.cons (.column (.fragment hf)) .nil)

theorem nest (h : K.Predicates p p') {n n' : Predicate} (hn : K.Predicates n n') :
    Outcomes K.Predicates (p.nest (b := K.left) n.compile) (p'.nest (b := K.right) n'.compile) := by
  have hempty : n'.compile.isEmpty = n.compile.isEmpty := hn.isEmpty_eq
  unfold Predicate.nest
  rw [hempty]
  split
  · exact .ok (h.setPending {})
  · exact h.expr hn.body

theorem search (h : K.Predicates p p') (anchor : Predicate.Anchor) {c c' : ColumnRef}
    (hc : K.Columns c c') {t t' : String}
    (ht : K.values (.text (anchor.pattern t)) (.text (anchor.pattern t'))) :
    Outcomes K.Predicates (p.search (b := K.left) anchor c t)
      (p'.search (b := K.right) anchor c' t') :=
  h.compare .like hc (.scalar (.ok ht))

theorem searchAny (h : K.Predicates p p') {l l' : List ColumnRef}
    (hl : List.Forall₂ K.Columns l l') {t t' : String}
    (ht : K.values (.text (Predicate.Anchor.anywhere.pattern t))
      (.text (Predicate.Anchor.anywhere.pattern t'))) :
    Outcomes K.Predicates (p.searchAny (b := K.left) l t) (p'.searchAny (b := K.right) l' t') := by
  have hany := Outcomes.foldlM hl
    (fun _ _ _ _ hq hc => (Predicates.joinNext hq .or).search .anywhere hc ht) h.nested
  exact hany.bind fun _ _ hq => h.nest hq

theorem absorb (h : K.Predicates p p') {f f' : Fragment} (hf : K.alike f f')
    (hempty : f'.isEmpty = f.isEmpty) : K.Predicates (p.absorb f) (p'.absorb f') := by
  rw [Predicate.absorb, Predicate.absorb, hempty]
  split
  · exact h
  · exact h.push .and (parenthesized hf) (by simp)

end Predicates

/-! ### Selected items -/

variable (K)

/-- One function with further arguments in relation. -/
structure Wrappers (w w' : Wrapper) : Prop where
  function_eq : w'.function = w.function
  arguments : List.Forall₂ K.values w.arguments w'.arguments

/-- Lists of items on one table, with the same functions queued. -/
structure Projections (p p' : Projection) : Prop where
  source : K.PlainSource p.source
  source_eq : p'.source = p.source
  items : List.Forall₂ K.alike p.items p'.items
  pending : List.Forall₂ K.Wrappers p.pending p'.pending
  isExpression_eq : p'.isExpression = p.isExpression

variable {K}

theorem withArguments (f : Function) {l l' : List Scalar} (h : List.Forall₂ K.Scalars l l') :
    Outcomes K.Wrappers (Wrapper.withArguments f l) (Wrapper.withArguments f l') :=
  (Outcomes.mapM h fun _ _ hs => hs).map fun _ _ hvs => ⟨rfl, hvs⟩

theorem plain_name (f : Function) : '?' ∉ f.name.toList := by
  cases f with
  | cast t => exact (by decide : '?' ∉ "CAST".toList)
  | _ => decide

theorem wrap {w w' : Wrapper} (hw : K.Wrappers w w') {f f' : Fragment} (hf : K.alike f f') :
    K.alike (w.apply (b := K.left) f) (w'.apply (b := K.right) f') := by
  obtain ⟨function, arguments⟩ := w
  obtain ⟨function', arguments'⟩ := w'
  obtain ⟨hfunction, harguments⟩ := hw
  obtain rfl : function' = function := hfunction
  have hopen : K.plain (function'.name ++ "(") :=
    K.plain_append (K.plain_of_not_mem (plain_name function'))
      (K.plain_of_not_mem (by decide))
  have hrest : K.alike
      (arguments.foldr (fun v rest => .verbatim ", " ++ .bound (b := K.left) v ++ rest) .empty)
      (arguments'.foldr (fun v rest => .verbatim ", " ++ .bound (b := K.right) v ++ rest)
        .empty) :=
    List.rel_foldr (R := K.values) (P := K.alike)
      (fun _ _ hv _ _ hxy => K.append (K.append (fixed (by decide)) (K.bound hv)) hxy) empty
      harguments
  refine K.append (K.append (K.append (K.verbatim hopen) hf) ?_) (fixed (by decide))
  cases function' with
  | cast t =>
    have hcast : '?' ∉ (" AS " ++ t.keyword).toList := by
      cases t <;> decide
    exact fixed hcast
  | _ => exact hrest

namespace Projections

variable {p p' : Projection}

theorem start {source : Source} (h : K.PlainSource source) (isExpression : Bool) :
    K.Projections { source, isExpression } { source, isExpression } :=
  ⟨h, rfl, .nil, .nil, rfl⟩

theorem expression {source source' : Source} (h : K.PlainSource source)
    (heq : source' = source) : K.Projections (.expression source) (.expression source') := by
  rw [heq]
  exact start h true

theorem enqueue (h : K.Projections p p') {w w' : Wrapper} (hw : K.Wrappers w w') :
    K.Projections (p.wrap w) (p'.wrap w') :=
  ⟨h.source, h.source_eq, h.items, List.rel_append h.pending (.cons hw .nil), h.isExpression_eq⟩

theorem push (h : K.Projections p p') {ws ws' : List Wrapper}
    (hws : List.Forall₂ K.Wrappers ws ws') {f f' : Fragment} (hf : K.alike f f')
    {alias? : Option String} (ha : ∀ a ∈ alias?, K.plain a) :
    K.Projections (p.push (b := K.left) ws f alias?) (p'.push (b := K.right) ws' f' alias?) := by
  have hwrapped : K.alike ((p.pending ++ ws).foldr (Wrapper.apply (b := K.left)) f)
      ((p'.pending ++ ws').foldr (Wrapper.apply (b := K.right)) f') :=
    List.rel_foldr (R := K.Wrappers) (P := K.alike) (fun _ _ hw _ _ hxy => wrap hw hxy) hf
      (List.rel_append h.pending hws)
  refine ⟨h.source, h.source_eq, List.rel_append h.items (.cons ?_ .nil), .nil, h.isExpression_eq⟩
  cases alias? with
  | none => exact hwrapped
  | some a =>
    have has : K.plain " AS " := K.plain_of_not_mem (by decide)
    simp only [h.isExpression_eq]
    split_ifs
    · exact hwrapped
    · exact appendText hwrapped (K.plain_append has (ha a rfl))

/-- The name that a column is known by. -/
theorem identifier {s : Source} (hs : K.PlainSource s) {c c' : ColumnRef} (h : K.Columns c c') :
    Outcomes (fun a a' => a' = a ∧ ∀ name ∈ a, K.plain name) (s.identifier? c)
      (s.identifier? c') := by
  cases h with
  | field path =>
    refine (columnName hs path).map fun name name' h => ?_
    obtain ⟨rfl, hname⟩ := h
    exact ⟨rfl, by simpa using hname⟩
  | raw h =>
    refine .ok ⟨rfl, ?_⟩
    split
    · simpa using h
    · simp
  | fragment h => exact .ok ⟨rfl, by simp⟩

theorem apply (h : K.Projections p p') {ws ws' : List Wrapper}
    (hws : List.Forall₂ K.Wrappers ws ws') {c c' : ColumnRef} (hc : K.Columns c c')
    {alias? : Option String} (ha : ∀ a ∈ alias?, K.plain a) :
    Outcomes K.Projections (p.apply (b := K.left) ws c alias?)
      (p'.apply (b := K.right) ws' c' alias?) := by
  unfold Projection.apply
  rw [h.source_eq]
  refine (qualify h.source hc).bind fun f f' hf => ?_
  cases alias? with
  | some a => exact .ok (h.push hws hf ha)
  | none =>
    refine (identifier h.source hc).bind fun a a' hname => ?_
    obtain ⟨rfl, hplain⟩ := hname
    exact .ok (h.push hws hf hplain)

theorem applyWith (h : K.Projections p p') (f : Function) {l l' : List Scalar}
    (hl : List.Forall₂ K.Scalars l l') {c c' : ColumnRef} (hc : K.Columns c c')
    {alias? : Option String} (ha : ∀ a ∈ alias?, K.plain a) :
    Outcomes K.Projections (p.applyWith (b := K.left) f l c alias?)
      (p'.applyWith (b := K.right) f l' c' alias?) :=
  (withArguments f hl).bind fun _ _ hw => h.apply (.cons hw .nil) hc ha

theorem raw (h : K.Projections p p') {sql : String} (hs : K.plain sql) :
    K.Projections (p.raw (b := K.left) sql) (p'.raw (b := K.right) sql) :=
  h.push .nil (K.verbatim hs) (by simp)

theorem value (h : K.Projections p p') {s s' : Scalar} (hs : K.Scalars s s')
    {alias? : Option String} (ha : ∀ a ∈ alias?, K.plain a) :
    Outcomes K.Projections (p.value (b := K.left) s alias?)
      (p'.value (b := K.right) s' alias?) :=
  Outcomes.bind hs fun _ _ hv => .ok (h.push .nil (K.bound hv) ha)

theorem group (h : K.Projections p p') {aliasName : String} (ha : K.plain aliasName)
    {f f' : Fragment} (hf : K.alike f f') :
    K.Projections (p.group (b := K.left) aliasName f) (p'.group (b := K.right) aliasName f') :=
  h.push (.cons ⟨rfl, .nil⟩ .nil) hf (by simpa using ha)

theorem compile (h : K.Projections p p') : K.alike p.compile p'.compile := by
  rw [Projection.compile, Projection.compile, h.isExpression_eq]
  refine join ?_ h.items
  split <;> exact K.plain_of_not_mem (by decide)

theorem isEmpty_eq (h : K.Projections p p') : p'.isEmpty = p.isEmpty :=
  isEmpty_of_forall₂ h.items

end Projections

end Likeness

end SqlCompose
