import SqlCompose.Sql.Condition

/-! The grammar of conditions. A sentence of the grammar has exactly one meaning: whatever
the grammar says of some tokens, the reader finds. -/

namespace SqlCompose

/-- The ways to write an operand. -/
inductive TermSpelling : List Token → Term → Prop
  | qualified (qualifier name : String) :
      TermSpelling [.word qualifier, .dot, .word name] (.column (some qualifier) name)
  | literal (v : Value) : TermSpelling [.literal v] (.literal v)
  | null : TermSpelling [.word "NULL"] (.literal .null)
  | number {w : String} {v : Value} (h : Condition.wholeNumber? w = some v) :
      TermSpelling [.word w] (.literal v)
  | column {w : String} (h : Condition.wholeNumber? w = none) (hk : w ∉ Condition.keywords) :
      TermSpelling [.word w] (.column none w)

/-- The word NOT, or nothing. -/
def negation (negated : Bool) : List Token :=
  if negated then [.word "NOT"] else []

/-- Values with commas between them. -/
def listing : List Value → List Token
  | [] => []
  | [v] => [.literal v]
  | v :: w :: vs => .literal v :: .comma :: listing (w :: vs)

/-- The ways to write a test. -/
inductive TestSpelling : List Token → Condition → Prop
  | compare {ts us : List Token} {a b : Term} (c : Comparison) (ha : TermSpelling ts a)
      (hb : TermSpelling us b) : TestSpelling (ts ++ .comparison c :: us) (.compare c a b)
  | between {ts us vs : List Token} {a low high : Term} (negated : Bool)
      (ha : TermSpelling ts a) (hl : TermSpelling us low) (hh : TermSpelling vs high) :
      TestSpelling (ts ++ (negation negated ++ .word "BETWEEN" :: (us ++ .word "AND" :: vs)))
        (.between negated a low high)
  | isIn {ts : List Token} {a : Term} (negated : Bool) (ha : TermSpelling ts a)
      (vs : List Value) :
      TestSpelling
        (ts ++ (negation negated ++ .word "IN" :: .opening :: (listing vs ++ [.closing])))
        (.isIn negated a (vs.map .literal))
  | like {ts us : List Token} {a pattern : Term} (negated : Bool) (ha : TermSpelling ts a)
      (hp : TermSpelling us pattern) :
      TestSpelling (ts ++ (negation negated ++ .word "LIKE" :: us)) (.like negated a pattern)
  | isNull {ts : List Token} {a : Term} (negated : Bool) (ha : TermSpelling ts a) :
      TestSpelling (ts ++ .word "IS" :: (negation negated ++ [.word "NULL"])) (.isNull negated a)

/-- The three kinds of conditions, from the tightest on. -/
inductive Level where
  | item
  | conjunction
  | disjunction

/-- The conditions of a kind, as they are written and as expressions. NOT belongs to the
item after it, AND binds tighter than OR, and parentheses make an item of anything. -/
inductive Sentence : Level → List Token → Condition → Prop
  | test {ts : List Token} {c : Condition} (h : TestSpelling ts c) : Sentence .item ts c
  | not {ts : List Token} {c : Condition} (h : Sentence .item ts c) :
      Sentence .item (.word "NOT" :: ts) (.not c)
  | group {ts : List Token} {c : Condition} (h : Sentence .disjunction ts c) :
      Sentence .item (.opening :: (ts ++ [.closing])) c
  | single {ts : List Token} {c : Condition} (h : Sentence .item ts c) :
      Sentence .conjunction ts c
  | and {ts us : List Token} {c d : Condition} (hc : Sentence .conjunction ts c)
      (hd : Sentence .item us d) : Sentence .conjunction (ts ++ .word "AND" :: us) (.and c d)
  | last {ts : List Token} {c : Condition} (h : Sentence .conjunction ts c) :
      Sentence .disjunction ts c
  | or {ts us : List Token} {c d : Condition} (hc : Sentence .conjunction ts c)
      (hd : Sentence .disjunction us d) :
      Sentence .disjunction (ts ++ .word "OR" :: us) (.or c d)

/-- There is no sentence without tokens. -/
theorem Sentence.ne_nil {k : Level} {ts : List Token} {c : Condition} (h : Sentence k ts c) :
    ts ≠ [] := by
  induction h with
  | test h => cases h <;> simp
  | not _ _ | group _ _ | and _ _ _ _ | or _ _ _ _ => simp
  | single _ ih | last _ ih => exact ih

namespace Condition

/-! ### Operands and tests -/

/-- Tokens that do not go on with a name. -/
def NoDot (rest : List Token) : Prop :=
  rest.head? ≠ some .dot

theorem readTerm_word {w : String} (hw : w ≠ "NULL") {rest : List Token} (hr : NoDot rest) :
    readTerm (.word w :: rest) =
      (wholeNumber? w).elim (if w ∈ keywords then none else some (.column none w, rest))
        fun v => some (.literal v, rest) := by
  cases rest with
  | nil => simp only [readTerm]; cases wholeNumber? w <;> rfl
  | cons t rest =>
    cases t <;> first
      | exact absurd rfl hr
      | simp only [readTerm]; cases wholeNumber? w <;> rfl

theorem readTerm_spelling {ts rest : List Token} {a : Term} (h : TermSpelling ts a)
    (hr : NoDot rest) : readTerm (ts ++ rest) = some (a, rest) := by
  cases h with
  | qualified qualifier name => rfl
  | literal v => rfl
  | null =>
    cases rest with
    | nil => rfl
    | cons t rest => cases t <;> first | rfl | exact absurd rfl hr
  | number h =>
    refine (readTerm_word ?_ hr).trans (by rw [h, Option.elim_some])
    rintro rfl
    cases h
  | column h hk =>
    refine (readTerm_word ?_ hr).trans (by rw [h, Option.elim_none, if_neg hk])
    rintro rfl
    exact hk (by decide)

theorem readItems_listing (vs : List Value) (rest : List Token) :
    readItems (listing vs ++ .closing :: rest) = some (vs.map .literal, rest) := by
  induction vs with
  | nil => rfl
  | cons v vs ih =>
    cases vs with
    | nil => rfl
    | cons w vs =>
      rw [listing, List.cons_append, List.cons_append, readItems, ih]
      rfl

/-- What follows the first operand of a test is read as the rest of the test. -/
theorem exists_readTest {ts rest : List Token} {c : Condition} (h : TestSpelling ts c)
    (hr : NoDot rest) :
    ∃ (us vs : List Token) (a : Term), ts = us ++ vs ∧ TermSpelling us a ∧ NoDot (vs ++ rest) ∧
      readTest a (vs ++ rest) = some (c, rest) := by
  cases h with
  | compare c ha hb =>
    refine ⟨_, _, _, rfl, ha, by simp [NoDot], ?_⟩
    rw [List.cons_append, readTest, readTerm_spelling hb hr]
    rfl
  | @between _ us vs _ low high negated ha hl hh =>
    refine ⟨_, _, _, rfl, ha, by cases negated <;> simp [NoDot, negation], ?_⟩
    have hlow : readTerm (us ++ .word "AND" :: (vs ++ rest)) =
        some (low, .word "AND" :: (vs ++ rest)) := readTerm_spelling hl (by simp [NoDot])
    cases negated <;>
      simp [negation, readTest, readTest.readNegatable, hlow, readTerm_spelling hh hr]
  | isIn negated ha vs =>
    refine ⟨_, _, _, rfl, ha, by cases negated <;> simp [NoDot, negation], ?_⟩
    cases negated <;>
      simp [negation, readTest, readTest.readNegatable, readItems_listing]
  | like negated ha hp =>
    refine ⟨_, _, _, rfl, ha, by cases negated <;> simp [NoDot, negation], ?_⟩
    cases negated <;>
      simp [negation, readTest, readTest.readNegatable, readTerm_spelling hp hr]
  | isNull negated ha =>
    refine ⟨_, _, _, rfl, ha, by simp [NoDot], ?_⟩
    cases negated <;> rfl

theorem readItem_word {w : String} (hw : w ≠ "NOT") {rest : List Token} (hr : NoDot rest)
    (depth : Nat) :
    readItem (depth + 1) (.word w :: rest) =
      (readTerm (.word w :: rest)).bind fun r => readTest r.1 r.2 := by
  rw [readItem]
  · rfl
  · intro _ _ heq
    cases heq
    exact hr rfl
  · intro _ heq
    cases heq
    exact hw rfl
  · intro _ heq
    cases heq

/-- An item that starts with an operand is a test. -/
theorem readItem_term {us vs : List Token} {a : Term} (h : TermSpelling us a) (hv : NoDot vs)
    (depth : Nat) : readItem (depth + 1) (us ++ vs) = readTest a vs := by
  have hterm := readTerm_spelling h hv
  cases h with
  | qualified qualifier name => simp [readItem, readTerm]
  | literal v => rfl
  | null =>
    rw [List.singleton_append] at hterm ⊢
    rw [readItem_word (by decide) hv, hterm]
    rfl
  | number h =>
    rw [List.singleton_append] at hterm ⊢
    rw [readItem_word (by rintro rfl; cases h) hv, hterm]
    rfl
  | column h hk =>
    rw [List.singleton_append] at hterm ⊢
    rw [readItem_word (by rintro rfl; exact hk (by decide)) hv, hterm]
    rfl

/-! ### Conditions in a row

Every token of a sentence takes at most three steps of the reader. -/

/-- At every sufficient depth an item is read as its condition, and what follows is left. -/
def ItemRead (ts : List Token) (c : Condition) : Prop :=
  ∀ rest, NoDot rest → ∀ depth, 3 * ts.length ≤ depth →
    readItem depth (ts ++ rest) = some (c, rest)

/-- The tokens are read as the conditions `l` that follow in a row, which takes `n` tokens. -/
def RestRead (n : Nat) (ts : List Token) (l : List (Connective × Condition))
    (rest : List Token) : Prop :=
  NoDot ts ∧ ∀ depth, 3 * n + 1 ≤ depth → readRest depth ts = some (l, rest)

/-- The tokens of some conditions in a row, together with those that follow, are read as a
first item and the others, and mean `c` with the others after it. -/
def RowRead (ts : List Token) (c : Condition) (n : Nat) (us : List Token)
    (l : List (Connective × Condition)) (rest : List Token) : Prop :=
  ∃ (first : Condition) (more : List (Connective × Condition)) (after : List Token) (k m : Nat),
    k + m = ts.length + n ∧
    (∀ depth, 3 * k ≤ depth → readItem depth (ts ++ us) = some (first, after)) ∧
    RestRead m after more rest ∧ chain first more = chain c l

theorem RestRead.done {rest : List Token} (h : rest = [] ∨ rest.head? = some .closing) :
    RestRead 0 rest [] rest := by
  refine ⟨by rcases h with rfl | h <;> simp [NoDot, *], fun depth hd => ?_⟩
  obtain ⟨depth, rfl⟩ : ∃ d, depth = d + 1 := ⟨depth - 1, by omega⟩
  match rest, h with
  | [], _ => simp only [readRest]
  | .closing :: _, _ => simp only [readRest]

theorem RestRead.and {ts us : List Token} {c : Condition} {n : Nat}
    {l : List (Connective × Condition)} {rest : List Token} (hc : ItemRead ts c)
    (h : RestRead n us l rest) :
    RestRead (ts.length + 1 + n) (.word "AND" :: (ts ++ us)) ((.and, c) :: l) rest := by
  refine ⟨by simp [NoDot], fun depth hd => ?_⟩
  obtain ⟨depth, rfl⟩ : ∃ d, depth = d + 1 := ⟨depth - 1, by omega⟩
  rw [readRest, hc us h.1 depth (by omega)]
  simp only [Option.bind_eq_bind, Option.bind_some]
  rw [h.2 depth (by omega)]
  rfl

/-- A row after an OR is the right side of it. -/
theorem RestRead.or {us rest : List Token} {d : Condition} (h : RowRead us d 0 rest [] rest) :
    ∃ l, RestRead (us.length + 1) (.word "OR" :: (us ++ rest)) l rest ∧
      ∀ c, chain c l = .or c d := by
  obtain ⟨first, more, after, k, m, hlen, hfirst, hmore, hchain⟩ := h
  refine ⟨(.or, first) :: more, ⟨by simp [NoDot], fun depth hd => ?_⟩, fun c => ?_⟩
  · obtain ⟨depth, rfl⟩ : ∃ d, depth = d + 1 := ⟨depth - 1, by omega⟩
    rw [readRest, hfirst depth (by omega)]
    simp only [Option.bind_eq_bind, Option.bind_some]
    rw [hmore.2 depth (by omega)]
    rfl
  · rw [chain, hchain, chain]

/-- What is read of the conditions of each kind. -/
def Reads : Level → List Token → Condition → Prop
  | .item, ts, c => ItemRead ts c
  | .conjunction, ts, c => ∀ n us l rest, RestRead n us l rest → RowRead ts c n us l rest
  | .disjunction, ts, c => ∀ rest, RestRead 0 rest [] rest → RowRead ts c 0 rest [] rest

theorem itemRead_test {ts : List Token} {c : Condition} (h : TestSpelling ts c) :
    ItemRead ts c := by
  intro rest hr depth hd
  obtain ⟨us, vs, a, rfl, ha, hv, htest⟩ := exists_readTest h hr
  have hpos : 0 < us.length := by cases ha <;> simp
  obtain ⟨depth, rfl⟩ : ∃ d, depth = d + 1 := by
    rw [List.length_append] at hd
    exact ⟨depth - 1, by omega⟩
  rw [List.append_assoc, readItem_term ha hv, htest]

theorem itemRead_group {ts : List Token} {c : Condition} (h : Reads .disjunction ts c) :
    ItemRead (.opening :: (ts ++ [.closing])) c := by
  intro rest _ depth hd
  obtain ⟨first, more, after, k, m, hlen, hfirst, hmore, hchain⟩ :=
    h (.closing :: rest) (.done (.inr rfl))
  simp only [List.length_cons, List.length_append] at hd
  obtain ⟨depth, rfl⟩ : ∃ d, depth = d + 2 := ⟨depth - 2, by omega⟩
  have hinner : readChain (depth + 1) (ts ++ .closing :: rest) = some (c, .closing :: rest) := by
    rw [readChain, hfirst depth (by omega)]
    simp only [Option.bind_eq_bind, Option.bind_some]
    rw [hmore.2 depth (by omega), ← show chain first more = c from hchain]
    rfl
  rw [List.cons_append, List.append_assoc, readItem]
  simp only [List.singleton_append, hinner]
  rfl

/-- No item starts with a point, so NOT before it is not the name of a table. -/
theorem itemRead_not {ts : List Token} {c : Condition} (h : ItemRead ts c) :
    ItemRead (.word "NOT" :: ts) (.not c) := by
  intro rest hr depth hd
  rw [List.length_cons] at hd
  obtain ⟨depth, rfl⟩ : ∃ d, depth = d + 1 := ⟨depth - 1, by omega⟩
  have hread := h rest hr depth (by omega)
  rw [List.cons_append, readItem, hread]
  · rfl
  · intro after heq
    rw [heq] at hread
    cases depth <;> simp [readItem, readTerm] at hread

/-- Whatever the grammar says of some tokens, the reader finds. -/
theorem reads_of_sentence {k : Level} {ts : List Token} {c : Condition} (h : Sentence k ts c) :
    Reads k ts c := by
  induction h with
  | test h => exact itemRead_test h
  | not _ ih => exact itemRead_not ih
  | group _ ih => exact itemRead_group ih
  | single _ ih => exact fun n us l rest hl => ⟨_, l, us, _, n, rfl, ih us hl.1, hl, rfl⟩
  | @and ts us c d _ _ ihc ihd =>
    intro n vs l rest hl
    obtain ⟨first, more, after, k, m, hlen, hfirst, hmore, hchain⟩ :=
      ihc _ _ _ rest (hl.and ihd)
    refine ⟨first, more, after, k, m, ?_, ?_, hmore, hchain⟩
    · rw [hlen, List.length_append, List.length_cons]
      omega
    · simpa using hfirst
  | last _ ih => exact fun rest hr => ih 0 rest [] rest hr
  | @or ts us c d _ _ ihc ihd =>
    intro rest hr
    obtain ⟨l, hl, hc⟩ := RestRead.or (ihd rest hr)
    obtain ⟨first, more, after, k, m, hlen, hfirst, hmore, hchain⟩ := ihc _ _ l rest hl
    refine ⟨first, more, after, k, m, ?_, ?_, hmore, hchain.trans (hc c)⟩
    · rw [hlen, List.length_append, List.length_cons]
      omega
    · simpa using hfirst

/-- A sentence as a whole is read as the condition that it is. -/
theorem ofTokens_of_sentence {ts : List Token} {c : Condition}
    (h : Sentence .disjunction ts c) : ofTokens? ts = some c := by
  obtain ⟨first, more, after, k, m, hlen, hfirst, hmore, hchain⟩ :=
    reads_of_sentence h [] (.done (.inl rfl))
  rw [List.append_nil] at hfirst
  have hread : readChain (3 * ts.length + 3) ts = some (c, []) := by
    rw [readChain, hfirst _ (by omega)]
    simp only [Option.bind_eq_bind, Option.bind_some]
    rw [hmore.2 _ (by omega), ← show chain first more = c from hchain]
    rfl
  rw [ofTokens?, hread]

/-- No tokens are two conditions. -/
theorem sentence_unique {ts : List Token} {c d : Condition} (hc : Sentence .disjunction ts c)
    (hd : Sentence .disjunction ts d) : c = d :=
  Option.some.inj ((ofTokens_of_sentence hc).symm.trans (ofTokens_of_sentence hd))

end Condition

end SqlCompose
