import SqlCompose.Proofs.Binding.Queries
import SqlCompose.Script.Run

/-! Sessions and single calls under two bindings. -/

namespace SqlCompose

namespace Likeness

/-! ### What a session leaves behind -/

variable (K : Likeness)

/-- Reports of the same sort. Only the fragments in them are compared. -/
inductive Reports : Report → Report → Prop
  | flag (b b' : Bool) : Reports (.flag b) (.flag b')
  | text (s s' : String) : Reports (.text s) (.text s')
  | fragment {f f' : Fragment} (h : K.alike f f') : Reports (.fragment f) (.fragment f')
  | failure (e e' : Error) : Reports (.failure e) (.failure e')

structure Entries (e e' : Entry) : Prop where
  place_eq : e'.place = e.place
  result : Outcomes (Option.Rel K.Reports) e.result e'.result
  state : K.Reports e.state e'.state

structure Sessions (s s' : Session) : Prop where
  counters_eq : s'.counters = s.counters
  saved : List.Forall₂ (fun p p' => p'.1 = p.1 ∧ K.alike p.2 p'.2) s.saved s'.saved
  log : List.Forall₂ K.Entries s.log s'.log

variable {β γ : Type} (R : β → β → Prop) (S : γ → γ → Prop)

/-- Steps that both fail or both succeed. -/
structure Steps (f f' : Finished β) : Prop where
  result : Outcomes (Option.Rel K.Reports) f.result f'.result
  builder : R f.builder f'.builder
  session : K.Sessions f.session f'.session

structure Runs (r r' : Run β) : Prop where
  result : Outcomes (fun _ _ => True) r.result r'.result
  builder : R r.builder r'.builder
  session : K.Sessions r.session r'.session

variable {K R S}

theorem lookup {l l' : List (String × Fragment)}
    (h : List.Forall₂ (fun p p' => p'.1 = p.1 ∧ K.alike p.2 p'.2) l l') (name : String) :
    Option.Rel K.alike (l.lookup name) (l'.lookup name) := by
  induction h with
  | nil => exact .none
  | @cons p p' _ _ hp _ ih =>
    obtain ⟨key, f⟩ := p
    obtain ⟨key', f'⟩ := p'
    obtain ⟨rfl, hf⟩ := hp
    simp only [List.lookup_cons]
    cases name == key' with
    | true => exact .some hf
    | false => exact ih

namespace Sessions

variable {s s' : Session}

theorem record (h : K.Sessions s s') {e e' : Entry} (he : K.Entries e e') :
    K.Sessions (s.record e) (s'.record e') :=
  { h with log := .cons he h.log }

theorem save (h : K.Sessions s s') (name? : Option String) {f f' : Fragment}
    (hf : K.alike f f') : K.Sessions (s.save name? f) (s'.save name? f') := by
  cases name? with
  | none => exact h
  | some name => exact { h with saved := .cons ⟨rfl, hf⟩ h.saved }

end Sessions

/-! ### Steps -/

theorem Steps.ofCall {b b' : β} (hb : R b b') {s s' : Session} (hs : K.Sessions s s')
    {x x' : Except Error (β × Option Report)}
    (h : Outcomes (fun p p' => R p.1 p'.1 ∧ Option.Rel K.Reports p.2 p'.2) x x') :
    K.Steps R (.ofCall b s x) (.ofCall b' s' x') := by
  cases h with
  | ok h => exact ⟨.ok h.2, h.1, hs⟩
  | error e e' => exact ⟨.error e e', hb, hs⟩

theorem Steps.within {f f' : Finished β} (h : K.Steps R f f') {put put' : β → γ}
    (hput : ∀ b b', R b b' → S (put b) (put' b')) : K.Steps S (f.within put) (f'.within put') :=
  ⟨h.result, hput _ _ h.builder, h.session⟩

theorem Runs.finished {r r' : Run β} (h : K.Runs R r r') {put put' : β → γ}
    (hput : ∀ b b', R b b' → S (put b) (put' b')) :
    K.Steps S (r.finished put) (r'.finished put') :=
  ⟨h.result.map fun _ _ _ => .none, hput _ _ h.builder, h.session⟩

/-- A step and what comes after it. -/
theorem Steps.andThen {f f' : Finished β} (h : K.Steps R f f') (place : String)
    {state state' : β → Report} (hstate : ∀ b b', R b b' → K.Reports (state b) (state' b'))
    (attempt : Bool) {next next' : β → Session → Run β}
    (hnext : ∀ b b' s s', R b b' → K.Sessions s s' → K.Runs R (next b s) (next' b' s')) :
    K.Runs R (f.andThen place state attempt next) (f'.andThen place state' attempt next') := by
  obtain ⟨result, b, s⟩ := f
  obtain ⟨result', b', s'⟩ := f'
  obtain ⟨hresult, hb, hs⟩ := h
  have hrecord : K.Sessions (s.record ⟨place, result, state b⟩)
      (s'.record ⟨place, result', state' b'⟩) := hs.record ⟨rfl, hresult, hstate b b' hb⟩
  cases hresult with
  | ok _ => exact hnext _ _ _ _ hb hrecord
  | error e e' =>
    cases attempt with
    | true => exact hnext _ _ _ _ hb hrecord
    | false => exact ⟨.error e e', hb, hrecord⟩

variable (K) in
/-- What has been built for a call, with the session afterwards. -/
def Prepared (x x' : Except Error (List Fragment) × Session) : Prop :=
  Outcomes (List.Forall₂ K.alike) x.1 x'.1 ∧ K.Sessions x.2 x'.2

/-- A step for which something has to be built first. -/
theorem Prepared.step {x x' : Except Error (List Fragment) × Session} (h : K.Prepared x x')
    {b b' : β} (hb : R b b') {call call' : List Fragment → Session → Finished β}
    (hcall : ∀ l l' s s', List.Forall₂ K.alike l l' → K.Sessions s s' →
      K.Steps R (call l s) (call' l' s')) :
    K.Steps R (.ofPrepared b x call) (.ofPrepared b' x' call') := by
  obtain ⟨result, s⟩ := x
  obtain ⟨result', s'⟩ := x'
  obtain ⟨hresult, hs⟩ := h
  cases hresult with
  | ok hl => exact hcall _ _ _ _ hl hs
  | error e e' => exact ⟨.error e e', hb, hs⟩

/-! ### Calls -/

theorem suppliedColumn {c c' : ColumnRef} (h : K.GivenColumns c c') :
    K.Columns (c.supplied (b := K.left)) (c'.supplied (b := K.right)) := by
  cases h with
  | field path => exact .field path
  | raw h => exact .raw h
  | fragment h => exact .fragment (K.supplied h)

theorem suppliedArgument {a a' : Argument} (h : K.GivenArguments a a') :
    K.Arguments (a.supplied (b := K.left)) (a'.supplied (b := K.right)) := by
  cases h with
  | scalar h => exact .scalar h
  | column h => exact .operand (.column (suppliedColumn h))
  | value h => exact .operand (.value h)
  | values h => exact .operand (.values h)
  | null => exact .operand .null

theorem wrapperArg {w w' : WrapperArg} (h : K.WrapperArgs w w') :
    Outcomes K.Wrappers w.value w'.value := by
  rw [WrapperArg.value, WrapperArg.value, h.function_eq]
  exact withArguments _ h.arguments

section

variable {fs fs' : List Fragment} (hfs : List.Forall₂ K.alike fs fs')

include hfs

theorem builtFragment (index : Nat) :
    K.alike ((fs[index]?).getD .empty) ((fs'[index]?).getD .empty) := by
  induction hfs generalizing index with
  | nil => exact empty
  | cons h _ ih =>
    cases index with
    | zero => exact h
    | succ index => exact ih index

theorem fragmentArg {f f' : FragmentArg} (h : K.FragmentArgs f f') :
    K.alike (f.value (b := K.left) fs) (f'.value (b := K.right) fs') := by
  induction h with
  | given h => exact K.supplied h
  | built index => exact builtFragment hfs index
  | nested _ ih => exact parenthesized ih

theorem columnArg {c c' : ColumnArg} (h : K.ColumnArgs c c') :
    K.Columns (c.value (b := K.left) fs) (c'.value (b := K.right) fs') := by
  cases h with
  | given h => exact suppliedColumn h
  | fragment h => exact .fragment (fragmentArg hfs h)

theorem operandArg {o o' : OperandArg} (h : K.OperandArgs o o') :
    K.Arguments (o.value (b := K.left) fs) (o'.value (b := K.right) fs') := by
  cases h with
  | given h => exact suppliedArgument h
  | column h => exact .operand (.column (columnArg hfs h))

theorem applyPredicateCall {c c' : PredicateCall} (h : K.PredicateCalls c c') {p p' : Predicate}
    (hp : K.Predicates p p') :
    Outcomes K.Predicates (c.apply (b := K.left) fs p) (c'.apply (b := K.right) fs' p') := by
  cases h with
  | not => exact .ok hp.negateNext
  | join c => exact .ok (hp.joinNext c)
  | compare op hc ho => exact hp.compare op (columnArg hfs hc) (operandArg hfs ho)
  | between hc hlow hhigh =>
    exact hp.between (columnArg hfs hc) (operandArg hfs hlow) (operandArg hfs hhigh)
  | isIn hc hl => exact hp.isIn (columnArg hfs hc) hl
  | inQuery hc hq =>
    exact hp.test [.isIn] (.cons (.column (columnArg hfs hc))
      (.cons (.column (.fragment (fragmentArg hfs hq))) .nil))
  | isNull hc => exact hp.test [.isNull] (.cons (.column (columnArg hfs hc)) .nil)
  | search anchor hc ht => exact hp.search anchor (columnArg hfs hc) (ht anchor)
  | searchAny hl ht =>
    exact hp.searchAny (List.rel_map (fun _ _ hc => columnArg hfs hc) hl) (ht .anywhere)
  | expr hf => exact hp.expr (fragmentArg hfs hf)
  | test ops hl =>
    exact (Outcomes.mapM hl fun _ _ ho => toOperand (operandArg hfs ho)).bind fun _ _ hl =>
      hp.test ops hl
  | observe o => exact .ok hp

theorem applyProjectionCall {c c' : ProjectionCall} (h : K.ProjectionCalls c c')
    {p p' : Projection} (hp : K.Projections p p') :
    Outcomes K.Projections (c.change (b := K.left) fs p) (c'.change (b := K.right) fs' p') := by
  cases h with
  | wrap hw => exact (wrapperArg hw).bind fun _ _ hw => .ok (hp.enqueue hw)
  | apply hws hc ha =>
    exact (Outcomes.mapM hws fun _ _ => wrapperArg).bind fun _ _ hws =>
      hp.apply hws (columnArg hfs hc) ha
  | applyWith f hl hc ha => exact hp.applyWith f hl (columnArg hfs hc) ha
  | raw hs => exact .ok (hp.raw hs)
  | value hs ha => exact hp.value hs ha
  | observe o => exact .ok hp

theorem performPredicateCall {c c' : PredicateCall} (h : K.PredicateCalls c c')
    {p p' : Predicate} (hp : K.Predicates p p') :
    Outcomes (fun x x' => K.Predicates x.1 x'.1 ∧ Option.Rel K.Reports x.2 x'.2)
      (c.perform (b := K.left) fs p) (c'.perform (b := K.right) fs' p') := by
  refine (applyPredicateCall hfs h hp).bind fun q q' hq => .ok ⟨hq, ?_⟩
  cases h with
  | observe o =>
    cases o with
    | isEmpty => exact .some (.flag _ _)
    | aliasName | inspection => exact .some (.text _ _)
  | _ => exact .none

theorem performProjectionCall {c c' : ProjectionCall} (h : K.ProjectionCalls c c')
    {p p' : Projection} (hp : K.Projections p p') :
    Outcomes (fun x x' => K.Projections x.1 x'.1 ∧ Option.Rel K.Reports x.2 x'.2)
      (c.perform (b := K.left) fs p) (c'.perform (b := K.right) fs' p') := by
  refine (applyProjectionCall hfs h hp).bind fun q q' hq => .ok ⟨hq, ?_⟩
  cases h with
  | observe o =>
    cases o with
    | isEmpty => exact .some (.flag _ _)
    | aliasName | inspection => exact .some (.text _ _)
  | _ => exact .none

theorem performScopeCall {c c' : ScopeCall} (h : K.ScopeCalls c c') {q q' : QueryScope}
    (hq : K.Scopes q q') :
    Outcomes (fun x x' => K.Scopes x.1 x'.1 ∧ Option.Rel K.Reports x.2 x'.2)
      (c.perform (b := K.left) fs q) (c'.perform (b := K.right) fs' q') := by
  cases h with
  | groupBy hc => exact (hq.groupBy (columnArg hfs hc)).map fun _ _ hr => ⟨hr, .none⟩
  | orderBy hc order => exact (hq.orderBy (columnArg hfs hc) order).map fun _ _ hr => ⟨hr, .none⟩
  | aliasName => exact .ok ⟨hq, .some (.text _ _)⟩

theorem performJoinCall {c c' : JoinCall} (h : K.JoinCalls c c') {j j' : Join}
    (hj : K.Joins j j') {s s' : Session} (hs : K.Sessions s s') :
    K.Steps K.Joins (c.perform (b := K.left) fs j s) (c'.perform (b := K.right) fs' j' s') := by
  cases h with
  | parent hc saveAs =>
    have hparent := hj.parentColumn (columnArg hfs hc)
    simp only [JoinCall.perform]
    generalize j.parentColumn _ = x at hparent
    generalize j'.parentColumn _ = x' at hparent
    cases hparent with
    | ok hf => exact ⟨.ok (.some (.fragment hf)), hj, hs.save saveAs hf⟩
    | error e e' => exact ⟨.error e e', hj, hs⟩
  | inspection => exact ⟨.ok (.some (.text _ _)), hj, hs⟩

theorem applyQueryCall {c c' : QueryCall} (h : K.QueryCalls c c') {q q' : Query}
    (hq : K.Queries q q') :
    K.Queries (c.apply (b := K.left) fs q) (c'.apply (b := K.right) fs' q') := by
  cases h with
  | limit h => exact { hq with limit := .some h }
  | offset h => exact { hq with offset := .some h }
  | union op hf =>
    exact { hq with unions := List.rel_append hq.unions (.cons ⟨rfl, fragmentArg hfs hf⟩ .nil) }
  | fromQuery hf => exact { hq with fromQuery := .some (fragmentArg hfs hf) }
  | withCounter counter => exact hq.withCounter counter
  | compile saveAs | inspection => exact hq

theorem performQueryCall {c c' : QueryCall} (h : K.QueryCalls c c') {q q' : Query}
    (hq : K.Queries q q') {s s' : Session} (hs : K.Sessions s s') :
    K.Steps K.Queries (c.perform (b := K.left) fs q s) (c'.perform (b := K.right) fs' q' s') := by
  have hr := applyQueryCall hfs h hq
  cases h with
  | compile saveAs =>
    exact ⟨.ok (.some (.fragment hr.compile)), hr, hs.save saveAs hr.compile⟩
  | inspection => exact ⟨.ok (.some (.text _ _)), hr, hs⟩
  | _ => exact ⟨.ok .none, hr, hs⟩

end

end Likeness

end SqlCompose
