import SqlCompose.Proofs.Except
import SqlCompose.Proofs.Rendering
import SqlCompose.Proofs.Sql.Lexing

/-! The text of a single test. A test over columns and values says one condition, and its
text, negated or not, is a test of the grammar with the same result. A negation may have
become part of an operator there. -/

namespace SqlCompose

/-- Nonempty plain identifiers without an asterisk. -/
def Text.isName (s : String) : Bool :=
  Text.isPlainIdentifier s && s != "" && !s.toList.contains '*'

/-- The name that a column is referred to by. -/
def Source.name? (s : Source) : ColumnRef → Option String
  | .raw text => some text
  | .field path => (s.columnName path).toOption
  | .fragment _ => none

/-- The operand that a caller's operand is: a column under a plain name, or a value. -/
def Operand.term? (s : Source) : Operand → Option Term
  | column c =>
    (s.name? c).bind fun name =>
      if Text.isName name then some (.column (some s.aliasName) name) else none
  | value v => some (.literal v.bound)
  | _ => none

/-- The comparison that an operator makes. -/
def Operator.comparison? : Operator → Option Comparison
  | equal => some .equal
  | great => some .greater
  | less => some .less
  | greatOrEqual => some .greaterOrEqual
  | lessOrEqual => some .lessOrEqual
  | _ => none

/-- What a test with one operator over columns and values says. A comparison for equality
with the null marker says that its operand is null. -/
def Test.said? (s : Source) : (ops : List Operator) → (operands : List Operand) → Option Condition
  | [.equal], [a, .null] => do return .isNull false (← a.term? s)
  | [.isNull], [a] => do return .isNull false (← a.term? s)
  | [.between], [a, low, high] => do
    return .between false (← a.term? s) (← low.term? s) (← high.term? s)
  | [.isIn], [a, .values vs] => do
    return .isIn false (← a.term? s) ((vs.map Value.bound).map .literal)
  | [.like], [a, b] => do return .like false (← a.term? s) (← b.term? s)
  | [op], [a, b] => do return .compare (← op.comparison?) (← a.term? s) (← b.term? s)
  | _, _ => none

/-! ### Operands -/

theorem isWordChar_of_isName {name : String} (h : Text.isName name = true) :
    ∀ c ∈ name.toList, Token.isWordChar c = true := by
  simp only [Text.isName, Text.isPlainIdentifier, Bool.and_eq_true, List.all_eq_true,
    Bool.or_eq_true, Bool.not_eq_true'] at h
  obtain ⟨⟨hplain, -⟩, hstar⟩ := h
  intro c hc
  rcases hplain c hc with hw | hs
  · simp only [Token.isWordChar, Bool.or_eq_true]
    exact .inl hw
  · obtain rfl := eq_of_beq hs
    simp [hc] at hstar

theorem ofText_name {name : String} (h : Text.isName name = true) :
    Token.ofText? name = some [.word name] := by
  rw [Token.ofText?, Token.scan_word (isWordChar_of_isName h), List.nil_append, Token.ofLetters]
  have hne : name.toList.isEmpty = false := by
    simp only [Text.isName, Bool.and_eq_true, bne_iff_ne] at h
    simpa using h.1.2
  rw [hne, String.ofList_toList]
  rfl

theorem Lexes.qualified {aliasName name : String} (ha : Text.isName aliasName = true)
    (hn : Text.isName name = true) :
    Lexes (.verbatim (aliasName ++ "." ++ name)) [.word aliasName, .dot, .word name] := by
  have hsplit : Fragment.verbatim (aliasName ++ "." ++ name) =
      .verbatim aliasName ++ (.verbatim "." ++ .verbatim name) := by
    apply Fragment.ext <;> simp [String.append_assoc]
  rw [hsplit]
  exact (verbatim (ofText_name ha) rfl).separated "." (c := '.') (by decide) rfl rfl rfl
    (verbatim (ofText_name hn) rfl)

theorem Source.qualify_name {s : Source} {c : ColumnRef} {name : String}
    (h : s.name? c = some name) (hn : Text.isName name = true) :
    s.qualify c = .ok (.verbatim (s.aliasName ++ "." ++ name)) := by
  cases c with
  | raw text =>
    obtain rfl : text = name := Option.some.inj h
    have hplain : Text.isPlainIdentifier text = true := by
      simp only [Text.isName, Bool.and_eq_true] at hn
      exact hn.1.1
    rw [qualify, if_pos hplain]
  | field path =>
    rw [name?] at h
    rw [qualify]
    cases hname : s.columnName path with
    | error e => rw [hname] at h; cases h
    | ok n => rw [hname] at h; cases h; rfl
  | fragment f => cases h

/-- An operand's text is a spelling of the operand that it is. -/
theorem Operand.exists_spelling {s : Source} (hs : Text.isName s.aliasName = true) {o : Operand}
    {a : Term} (h : o.term? s = some a) :
    ∃ f ts, o.resolve s = .ok f ∧ Lexes f ts ∧ TermSpelling ts a := by
  cases o with
  | column c =>
    obtain ⟨name, hname, h⟩ := Option.bind_eq_some_iff.mp h
    split at h
    · next hn =>
      cases h
      exact ⟨_, _, s.qualify_name hname hn, Lexes.qualified hs hn, .qualified _ _⟩
    · cases h
  | value v =>
    cases h
    exact ⟨_, _, rfl, Lexes.bound v, .literal _⟩
  | values vs => cases h
  | null => cases h

/-! ### Tests -/

/-- The comparison that holds exactly where another fails. -/
def Comparison.opposite : Comparison → Comparison
  | equal => notEqual
  | notEqual => equal
  | less => greaterOrEqual
  | lessOrEqual => greater
  | greater => lessOrEqual
  | greaterOrEqual => less

theorem Comparison.holds_opposite (c : Comparison) (o : Ordering) :
    c.opposite.holds o = !c.holds o := by
  cases c <;> cases o <;> rfl

/-- The comparison of a test, negated or not. -/
def Comparison.negateIf (negated : Bool) (c : Comparison) : Comparison :=
  if negated then c.opposite else c

theorem Condition.compareTerms_negateIf (ρ : Valuation) (negated : Bool) (c : Comparison)
    (a b : Term) :
    compareTerms ρ (c.negateIf negated) a b = Truth.negateIf negated (compareTerms ρ c a b) := by
  cases negated with
  | false => rfl
  | true =>
    rw [compareTerms, compareTerms, Comparison.negateIf, Truth.negateIf, if_pos rfl, if_pos rfl,
      Truth.not, Option.map_map]
    congr 1
    funext o
    exact c.holds_opposite o

/-- The modifier of a test that is negated. -/
def Operator.negation (negated : Bool) : List Operator :=
  if negated then [.not] else []

namespace Test

variable {f g k : Fragment} {ts us vs : List Token}

theorem lexes_comparison {c : Comparison} (text : String)
    (h : Token.ofText? text = some [.comparison c]) (hf : Lexes f ts) (hg : Lexes g us) :
    Lexes (f ++ .verbatim (" " ++ text ++ " ") ++ g) (ts ++ .comparison c :: us) :=
  hf.infixed text h rfl hg

theorem lexes_compare {op : Operator} {c : Comparison} (hop : op.comparison? = some c)
    (hf : Lexes f ts) (hg : Lexes g us) (negated : Bool) :
    Lexes (render (Operator.negation negated ++ [op]) [f, g])
      (ts ++ .comparison (c.negateIf negated) :: us) := by
  cases negated with
  | false =>
    have hk : Token.ofText? (Operator.texts [op]) = some [.comparison c] := by
      cases op <;> cases hop <;> decide
    cases op <;> cases hop <;> exact lexes_comparison _ hk hf hg
  | true =>
    cases op <;> cases hop
    · exact lexes_comparison "<>" (by decide) hf hg
    · exact lexes_comparison "<=" (by decide) hf hg
    · exact lexes_comparison ">=" (by decide) hf hg
    · exact lexes_comparison "<" (by decide) hf hg
    · exact lexes_comparison ">" (by decide) hf hg

theorem lexes_like (hf : Lexes f ts) (hg : Lexes g us) (negated : Bool) :
    Lexes (render (Operator.negation negated ++ [.like]) [f, g])
      (ts ++ (negation negated ++ .word "LIKE" :: us)) := by
  have hk : Token.ofText? (Operator.texts (Operator.negation negated ++ [.like])) =
      some (negation negated ++ [.word "LIKE"]) := by
    cases negated <;> decide
  have h := hf.infixed _ hk (by cases negated <;> rfl) hg
  rw [List.append_assoc] at h
  cases negated <;> exact h

theorem lexes_between (hf : Lexes f ts) (hg : Lexes g us) (hk : Lexes k vs) (negated : Bool) :
    Lexes (render (Operator.negation negated ++ [.between]) [f, g, k])
      (ts ++ (negation negated ++ .word "BETWEEN" :: (us ++ .word "AND" :: vs))) := by
  have hn : Token.ofText? (Operator.texts (Operator.negation negated ++ [.between])) =
      some (negation negated ++ [.word "BETWEEN"]) := by
    cases negated <;> decide
  have hand : Token.ofText? "AND" = some [.word "AND"] := by decide
  have h := (hf.infixed _ hn (by cases negated <;> rfl) hg).infixed "AND" hand rfl hk
  simp only [List.append_assoc, List.singleton_append] at h
  cases negated <;> exact h

theorem lexes_isIn (hf : Lexes f ts) (values : List Value) (negated : Bool) :
    Lexes (render (Operator.negation negated ++ [.isIn]) [f, .boundList values])
      (ts ++ (negation negated ++ .word "IN" :: .opening ::
        (listing (values.map Value.bound) ++ [.closing]))) := by
  have hk : Token.ofText? (Operator.texts (Operator.negation negated ++ [.isIn])) =
      some (negation negated ++ [.word "IN"]) := by
    cases negated <;> decide
  have h := hf.infixed _ hk (by cases negated <;> rfl) (Lexes.boundList values).parenthesized
  rw [List.append_assoc] at h
  cases negated <;> exact h

theorem lexes_isNull (hf : Lexes f ts) (negated : Bool) :
    Lexes (render (Operator.negation negated ++ [.isNull]) [f])
      (ts ++ .word "IS" :: (negation negated ++ [.word "NULL"])) := by
  cases negated with
  | false =>
    have hk : Token.ofText? "IS NULL" = some [.word "IS", .word "NULL"] := by decide
    exact hf.suffixed _ hk rfl
  | true =>
    have hk : Token.ofText? "IS NOT NULL" = some [.word "IS", .word "NOT", .word "NULL"] := by
      decide
    have htext : " " ++ "IS NOT NULL" = " IS NOT NULL" := by decide
    have h := hf.suffixed "IS NOT NULL" hk rfl
    rw [htext] at h
    exact h

theorem withNullTest_of_term {s : Source} {a b : Operand} {y : Term} (hb : b.term? s = some y)
    (ops : List Operator) : withNullTest ⟨ops, [a, b]⟩ = ⟨ops, [a, b]⟩ := by
  refine withNullTest_of_ne fun c h => ?_
  cases h
  cases hb

/-- A test compiles, its text is a test of the grammar, and has the result of a condition or,
if it is negated, the opposite. -/
def Spells (s : Source) (t : Test) (negated : Bool) (c : Condition) : Prop :=
  ∃ text ts d, t.compile s = .ok text ∧ Lexes text ts ∧ TestSpelling ts d ∧
    ∀ ρ, d.eval ρ = Truth.negateIf negated (c.eval ρ)

variable {s : Source} (hs : Text.isName s.aliasName = true) {a b low high : Operand}
  {x y z : Term} (negated : Bool)

include hs

theorem spells_isNull {t : Test} (hx : a.term? s = some x)
    (ht : t.withNullTest = ⟨Operator.negation negated ++ [.isNull], [a]⟩) :
    Spells s t negated (.isNull false x) := by
  obtain ⟨f, ts, hf, hlex, hx⟩ := Operand.exists_spelling hs hx
  have hcompile := compile_eq ht (by cases negated <;> rfl) (mapM_cons_of_ok hf rfl)
  exact ⟨_, _, _, hcompile, lexes_isNull hlex negated, .isNull negated hx, fun _ => rfl⟩

theorem spells_between (hx : a.term? s = some x) (hy : low.term? s = some y)
    (hz : high.term? s = some z) :
    Spells s ⟨Operator.negation negated ++ [.between], [a, low, high]⟩ negated
      (.between false x y z) := by
  obtain ⟨f, ts, hf, hlexf, hx⟩ := Operand.exists_spelling hs hx
  obtain ⟨g, us, hg, hlexg, hy⟩ := Operand.exists_spelling hs hy
  obtain ⟨k, vs, hk, hlexk, hz⟩ := Operand.exists_spelling hs hz
  have ht : withNullTest ⟨Operator.negation negated ++ [.between], [a, low, high]⟩ =
      ⟨Operator.negation negated ++ [.between], [a, low, high]⟩ := by
    cases negated <;> rfl
  have hcompile := compile_eq ht (by cases negated <;> rfl)
    (mapM_cons_of_ok hf (mapM_cons_of_ok hg (mapM_cons_of_ok hk rfl)))
  exact ⟨_, _, _, hcompile, lexes_between hlexf hlexg hlexk negated, .between negated hx hy hz,
    fun _ => rfl⟩

theorem spells_isIn (hx : a.term? s = some x) (values : List Value) :
    Spells s ⟨Operator.negation negated ++ [.isIn], [a, .values values]⟩ negated
      (.isIn false x ((values.map Value.bound).map .literal)) := by
  obtain ⟨f, ts, hf, hlex, hx⟩ := Operand.exists_spelling hs hx
  have hvalues : Operand.resolve s (.values values) = .ok (.boundList values) := rfl
  have ht : withNullTest ⟨Operator.negation negated ++ [.isIn], [a, .values values]⟩ =
      ⟨Operator.negation negated ++ [.isIn], [a, .values values]⟩ := by
    cases negated <;> rfl
  have hcompile := compile_eq ht (by cases negated <;> rfl)
    (mapM_cons_of_ok hf (mapM_cons_of_ok hvalues rfl))
  exact ⟨_, _, _, hcompile, lexes_isIn hlex values negated, .isIn negated hx _, fun _ => rfl⟩

theorem spells_like (hx : a.term? s = some x) (hy : b.term? s = some y) :
    Spells s ⟨Operator.negation negated ++ [.like], [a, b]⟩ negated (.like false x y) := by
  have ht := withNullTest_of_term (a := a) hy (Operator.negation negated ++ [.like])
  obtain ⟨f, ts, hf, hlexf, hx⟩ := Operand.exists_spelling hs hx
  obtain ⟨g, us, hg, hlexg, hy⟩ := Operand.exists_spelling hs hy
  have hcompile := compile_eq ht (by cases negated <;> rfl)
    (mapM_cons_of_ok hf (mapM_cons_of_ok hg rfl))
  exact ⟨_, _, _, hcompile, lexes_like hlexf hlexg negated, .like negated hx hy, fun _ => rfl⟩

theorem spells_compare {op : Operator} {k : Comparison} (hop : op.comparison? = some k)
    (hx : a.term? s = some x) (hy : b.term? s = some y) :
    Spells s ⟨Operator.negation negated ++ [op], [a, b]⟩ negated (.compare k x y) := by
  have ht := withNullTest_of_term (a := a) hy (Operator.negation negated ++ [op])
  obtain ⟨f, ts, hf, hlexf, hx⟩ := Operand.exists_spelling hs hx
  obtain ⟨g, us, hg, hlexg, hy⟩ := Operand.exists_spelling hs hy
  have harity : 2 = Operator.arity (Operator.negation negated ++ [op]) := by
    cases op <;> cases hop <;> cases negated <;> rfl
  have hcompile := compile_eq ht harity (mapM_cons_of_ok hf (mapM_cons_of_ok hg rfl))
  exact ⟨_, _, _, hcompile, lexes_compare hop hlexf hlexg negated, .compare _ hx hy,
    fun ρ => Condition.compareTerms_negateIf ρ negated k x y⟩

theorem spells_of_said {ops : List Operator} {operands : List Operand} {c : Condition}
    (h : said? s ops operands = some c) :
    Spells s ⟨Operator.negation negated ++ ops, operands⟩ negated c := by
  unfold said? at h
  split at h
  · obtain ⟨x, hx, h⟩ := Option.bind_eq_some_iff.mp h
    cases h
    exact spells_isNull hs negated hx (by cases negated <;> rfl)
  · obtain ⟨x, hx, h⟩ := Option.bind_eq_some_iff.mp h
    cases h
    exact spells_isNull hs negated hx (by cases negated <;> rfl)
  · obtain ⟨x, hx, h⟩ := Option.bind_eq_some_iff.mp h
    obtain ⟨y, hy, h⟩ := Option.bind_eq_some_iff.mp h
    obtain ⟨z, hz, h⟩ := Option.bind_eq_some_iff.mp h
    cases h
    exact spells_between hs negated hx hy hz
  · obtain ⟨x, hx, h⟩ := Option.bind_eq_some_iff.mp h
    cases h
    exact spells_isIn hs negated hx _
  · obtain ⟨x, hx, h⟩ := Option.bind_eq_some_iff.mp h
    obtain ⟨y, hy, h⟩ := Option.bind_eq_some_iff.mp h
    cases h
    exact spells_like hs negated hx hy
  · obtain ⟨k, hop, h⟩ := Option.bind_eq_some_iff.mp h
    obtain ⟨x, hx, h⟩ := Option.bind_eq_some_iff.mp h
    obtain ⟨y, hy, h⟩ := Option.bind_eq_some_iff.mp h
    cases h
    exact spells_compare hs negated hop hx hy
  · cases h

end Test

end SqlCompose
