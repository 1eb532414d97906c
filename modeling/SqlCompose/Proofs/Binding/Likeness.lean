import SqlCompose.Proofs.Binding.Vocabulary
import SqlCompose.Proofs.Fragment
import SqlCompose.Proofs.Rendering

/-! Two ways for values to stand in texts, side by side. Fragments that are composed in the
same way from parts that are alike are alike. -/

namespace SqlCompose

/-- Two bindings, and which fragments are alike under them. All texts without a question mark
are plain, since none of the texts that statements are made of has one. -/
structure Likeness extends Vocabulary where
  left : Binding
  right : Binding
  alike : Fragment → Fragment → Prop
  plain_of_not_mem : ∀ {s : String}, '?' ∉ s.toList → plain s
  plain_append : ∀ {s t : String}, plain s → plain t → plain (s ++ t)
  plain_lowercase : ∀ {s : String}, plain s → plain (Text.lowercase s)
  values_refl : ∀ v, values v v
  verbatim : ∀ {s : String}, plain s → alike (.verbatim s) (.verbatim s)
  append : ∀ {f f' g g' : Fragment}, alike f f' → alike g g' → alike (f ++ g) (f' ++ g')
  bound : ∀ {v w : Value}, values v w →
    alike (Fragment.bound (b := left) v) (Fragment.bound (b := right) w)
  supplied : ∀ {f f' : Fragment}, given f f' →
    alike (Fragment.supplied (b := left) f) (Fragment.supplied (b := right) f')

theorem isEmpty_of_forall₂ {α β : Type} {R : α → β → Prop} {l : List α} {l' : List β}
    (h : List.Forall₂ R l l') : l'.isEmpty = l.isEmpty := by
  cases h <;> rfl

namespace Likeness

variable {K : Likeness}

/-! ### Fragments -/

/-- A text of the statements themselves. -/
theorem fixed {s : String} (h : '?' ∉ s.toList) : K.alike (.verbatim s) (.verbatim s) :=
  K.verbatim (K.plain_of_not_mem h)

theorem empty : K.alike .empty .empty :=
  fixed (by decide)

theorem appendText {f f' : Fragment} (h : K.alike f f') {s : String} (hs : K.plain s) :
    K.alike (f.appendText s) (f'.appendText s) :=
  K.append h (K.verbatim hs)

theorem parenthesized {f f' : Fragment} (h : K.alike f f') :
    K.alike f.parenthesized f'.parenthesized :=
  K.append (K.append (fixed (by decide)) h) (fixed (by decide))

theorem join {s : String} (hs : K.plain s) {l l' : List Fragment} (h : List.Forall₂ K.alike l l') :
    K.alike (.join s l) (.join s l') := by
  induction h with
  | nil => exact empty
  | cons h hrest ih =>
    cases hrest with
    | nil => exact h
    | cons _ _ => exact K.append (K.append h (K.verbatim hs)) ih

theorem boundList {vs ws : List Value} (h : List.Forall₂ K.values vs ws) :
    K.alike (Fragment.boundList (b := K.left) vs) (Fragment.boundList (b := K.right) ws) := by
  refine join (K.plain_of_not_mem (by decide)) ?_
  induction h with
  | nil => exact .nil
  | cons h _ ih => exact .cons (K.bound h) ih

theorem plain_intercalate {s : String} (hs : K.plain s) {l : List String}
    (h : ∀ t ∈ l, K.plain t) : K.plain (s.intercalate l) := by
  induction l with
  | nil =>
    rw [String.intercalate_nil]
    exact K.plain_of_not_mem (by decide)
  | cons t l ih =>
    rw [List.forall_mem_cons] at h
    cases l with
    | nil =>
      rw [String.intercalate_singleton]
      exact h.1
    | cons u l =>
      rw [String.intercalate_cons_cons]
      exact K.plain_append (K.plain_append h.1 hs) (ih h.2)

/-! ### Columns -/

variable (K)

/-- References to the same column, or fragments that are alike. -/
inductive Columns : ColumnRef → ColumnRef → Prop
  | field (path : PropertyPath) : Columns (.field path) (.field path)
  | raw {text : String} (h : K.plain text) : Columns (.raw text) (.raw text)
  | fragment {f g : Fragment} (h : K.alike f g) : Columns (.fragment f) (.fragment g)

/-- Operands of the same form. -/
inductive Operands : Operand → Operand → Prop
  | column {c d : ColumnRef} (h : K.Columns c d) : Operands (.column c) (.column d)
  | value {v w : Value} (h : K.values v w) : Operands (.value v) (.value w)
  | values {vs ws : List Value} (h : List.Forall₂ K.values vs ws) :
      Operands (.values vs) (.values ws)
  | null : Operands .null .null

variable {K}

theorem plain_namesAlong {schema : Schema} (hs : K.PlainSchema schema) {m : Model}
    (hm : K.PlainModel m) {path : PropertyPath} {names : List String}
    (h : schema.namesAlong m path = some names) : ∀ name ∈ names, K.plain name := by
  have hproperty : ∀ {m : Model} {property : String} {c : Column}, K.PlainModel m →
      m.property? property = some c → K.plain c.name :=
    fun hm hc => hm.columns _ (List.mem_of_find?_eq_some hc)
  fun_induction Schema.namesAlong schema m path generalizing names with
  | case1 => cases h
  | case2 m property =>
    obtain ⟨c, hc, rfl⟩ := Option.map_eq_some_iff.mp h
    exact List.forall_mem_singleton.mpr (hproperty hm hc)
  | case3 m property next rest ih =>
    obtain ⟨c, hc, h⟩ := Option.bind_eq_some_iff.mp h
    obtain ⟨i, -, h⟩ := Option.bind_eq_some_iff.mp h
    obtain ⟨target, htarget, h⟩ := Option.bind_eq_some_iff.mp h
    obtain ⟨names, hnames, h⟩ := Option.bind_eq_some_iff.mp h
    cases h
    have hplain : K.PlainModel target := hs target (List.mem_of_getElem? htarget)
    exact List.forall_mem_cons.mpr ⟨hproperty hm hc, ih _ hplain hnames⟩

theorem plain_columnName {s : Source} (hs : K.PlainSource s) {path : PropertyPath}
    {name : String} (h : s.columnName path = .ok name) : K.plain name := by
  rw [Source.columnName, Schema.resolve] at h
  split at h
  · next names hnames =>
    cases h
    exact plain_intercalate (K.plain_of_not_mem (by decide))
      (plain_namesAlong hs.schema hs.model hnames)
  · cases h

theorem columnName {s : Source} (hs : K.PlainSource s) (path : PropertyPath) :
    Outcomes (fun name name' => name' = name ∧ K.plain name) (s.columnName path)
      (s.columnName path) :=
  .same fun _ h => ⟨rfl, plain_columnName hs h⟩

theorem qualify {s : Source} (hs : K.PlainSource s) {c d : ColumnRef} (h : K.Columns c d) :
    Outcomes K.alike (s.qualify c) (s.qualify d) := by
  have hqualified {name : String} (hname : K.plain name) :
      K.plain (s.aliasName ++ "." ++ name) :=
    K.plain_append (K.plain_append hs.aliasName (K.plain_of_not_mem (by decide))) hname
  cases h with
  | field path =>
    refine (columnName hs path).map fun name name' h => ?_
    obtain ⟨rfl, hname⟩ := h
    exact K.verbatim (hqualified hname)
  | raw h =>
    rw [Source.qualify]
    split
    · exact .ok (K.verbatim (hqualified h))
    · exact .ok (K.verbatim h)
  | fragment h => exact .ok h

theorem resolve {s : Source} (hs : K.PlainSource s) {o q : Operand} (h : K.Operands o q) :
    Outcomes K.alike (o.resolve (b := K.left) s) (q.resolve (b := K.right) s) := by
  cases h with
  | column h => exact qualify hs h
  | value h => exact .ok (K.bound h)
  | values h => exact .ok (boundList h)
  | null => exact .ok (fixed (by decide))

/-! ### Tests -/

theorem plain_text (op : Operator) : '?' ∉ op.text.toList := by
  cases op <;> decide

theorem plain_texts (ops : List Operator) : K.plain (Operator.texts ops) := by
  refine plain_intercalate (K.plain_of_not_mem (by decide)) ?_
  intro t ht
  obtain ⟨op, -, rfl⟩ := List.mem_map.mp ht
  exact K.plain_of_not_mem (plain_text op)

theorem plain_infixText (ops : List Operator) : K.plain (Test.infixText ops) := by
  unfold Test.infixText
  split
  · exact K.plain_of_not_mem (by decide)
  · next op _ =>
    cases op.opposite? with
    | none => exact plain_texts _
    | some opposite => exact K.plain_of_not_mem (plain_text opposite)
  · exact plain_texts _

theorem infixed {f f' g g' : Fragment} (hf : K.alike f f') {s : String} (hs : K.plain s)
    (hg : K.alike g g') : K.alike (Test.infixed f s g) (Test.infixed f' s g') := by
  have hblank : K.plain " " := K.plain_of_not_mem (by decide)
  exact K.append (K.append hf (K.verbatim (K.plain_append (K.plain_append hblank hs) hblank))) hg

theorem render (ops : List Operator) {l l' : List Fragment} (h : List.Forall₂ K.alike l l') :
    K.alike (Test.render ops l) (Test.render ops l') := by
  have hblank : K.plain " " := K.plain_of_not_mem (by decide)
  have hops : K.plain (Operator.texts ops) := plain_texts ops
  have hnot {f f' : Fragment} (hf : K.alike f f') :
      K.alike (.verbatim "NOT " ++ f.parenthesized) (.verbatim "NOT " ++ f'.parenthesized) :=
    K.append (fixed (by decide)) (parenthesized hf)
  have hnull {f f' : Fragment} (hf : K.alike f f') :
      K.alike (f.appendText " IS NOT NULL") (f'.appendText " IS NOT NULL") :=
    appendText hf (K.plain_of_not_mem (by decide))
  have htwo {a a' b b' : Fragment} {rest rest' : List Fragment} (ha : K.alike a a')
      (hb : K.alike b b') (h : rest = [] ∨ ops ≠ [.between] ∧ ops ≠ [.not, .between])
      (h' : rest' = [] ∨ ops ≠ [.between] ∧ ops ≠ [.not, .between]) :
      K.alike (Test.render ops (a :: b :: rest)) (Test.render ops (a' :: b' :: rest')) := by
    rw [Test.render_two ops a b h, Test.render_two ops a' b' h']
    split_ifs
    · exact parenthesized ha
    · exact hnot ha
    · exact hnull ha
    · exact infixed ha hops (parenthesized hb)
    · exact infixed ha (plain_infixText ops) hb
  cases h with
  | nil =>
    rw [Test.render_nil]
    exact empty
  | cons ha h =>
    cases h with
    | nil =>
      rw [Test.render_one, Test.render_one]
      split_ifs
      · exact parenthesized ha
      · exact hnot ha
      · exact hnull ha
      · exact appendText ha (K.plain_append hblank hops)
    | cons hb h =>
      cases h with
      | nil => exact htwo ha hb (.inl rfl) (.inl rfl)
      | cons hc _ =>
        by_cases hbetween : ops = [.between] ∨ ops = [.not, .between]
        · rw [Test.render_between hbetween, Test.render_between hbetween]
          exact K.append (K.append (infixed ha hops hb) (fixed (by decide))) hc
        · rw [not_or] at hbetween
          exact htwo ha hb (.inr hbetween) (.inr hbetween)

theorem withNullTest (ops : List Operator) {l l' : List Operand}
    (h : List.Forall₂ K.Operands l l') :
    (Test.mk ops l').withNullTest.operators = (Test.mk ops l).withNullTest.operators ∧
      List.Forall₂ K.Operands (Test.mk ops l).withNullTest.operands
        (Test.mk ops l').withNullTest.operands := by
  unfold Test.withNullTest
  split
  · next hops hl =>
    cases hops
    cases hl
    obtain ⟨⟩ | ⟨ha, ⟨⟩ | ⟨⟨⟩, ⟨⟩⟩⟩ := h
    exact ⟨rfl, .cons ha .nil⟩
  · next hops hl =>
    cases hops
    cases hl
    obtain ⟨⟩ | ⟨ha, ⟨⟩ | ⟨⟨⟩, ⟨⟩⟩⟩ := h
    exact ⟨rfl, .cons ha .nil⟩
  · next hequal hnot =>
    split
    · next hops hl =>
      cases hops
      cases hl
      obtain ⟨⟩ | ⟨_, ⟨⟩ | ⟨⟨⟩, ⟨⟩⟩⟩ := h
      exact absurd rfl (hequal _ rfl)
    · next hops hl =>
      cases hops
      cases hl
      obtain ⟨⟩ | ⟨_, ⟨⟩ | ⟨⟨⟩, ⟨⟩⟩⟩ := h
      exact absurd rfl (hnot _ rfl)
    · exact ⟨rfl, h⟩

/-- A test over operands of the same form. -/
theorem compile {s : Source} (hs : K.PlainSource s) (ops : List Operator) {l l' : List Operand}
    (h : List.Forall₂ K.Operands l l') :
    Outcomes K.alike ((Test.mk ops l).compile (b := K.left) s)
      ((Test.mk ops l').compile (b := K.right) s) := by
  obtain ⟨hops, hoperands⟩ := withNullTest ops h
  simp only [Test.compile, hops, hoperands.length_eq]
  split
  · exact .error _ _
  · refine (Outcomes.mapM hoperands fun o q hoq => resolve hs hoq).bind fun f f' hff' => ?_
    exact .ok (render _ hff')

end Likeness

end SqlCompose
