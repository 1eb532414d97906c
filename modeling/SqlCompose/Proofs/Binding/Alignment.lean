import SqlCompose.Proofs.Binding.Programs
import SqlCompose.Proofs.Text.Lowercase

/-! Placeholders and parameters go together: every fragment that is compiled from sound parts
has one question mark for each parameter, and putting texts of the parameters in their place
gives the text that is composed when these texts are written at once. -/

namespace SqlCompose

namespace Fragment

variable {f g : Fragment}

/-- There are as many question marks as parameters. -/
def IsAligned (f : Fragment) : Prop :=
  f.sql.toList.count '?' = f.params.length

/-- Puts the texts of values in the place of question marks, from left to right. -/
def fillFrom (lit : Value → String) : List Char → List Value → List Char
  | cs, [] => cs
  | [], _ => []
  | c :: cs, v :: vs =>
    if c = '?' then (lit v).toList ++ fillFrom lit cs vs else c :: fillFrom lit cs (v :: vs)

/-- The text of a fragment with texts of its parameters in their places. -/
def fill (lit : Value → String) (f : Fragment) : String :=
  .ofList (fillFrom lit f.sql.toList f.params)

theorem isAligned_verbatim {s : String} (h : '?' ∉ s.toList) : (verbatim s).IsAligned :=
  List.count_eq_zero.mpr h

theorem toList_placeholder (v : Value) : (placeholder v).sql.toList = ['?'] := by
  show "?".toList = ['?']
  decide

theorem isAligned_placeholder (v : Value) : (placeholder v).IsAligned := by
  rw [IsAligned, toList_placeholder]
  rfl

theorem IsAligned.append (hf : f.IsAligned) (hg : g.IsAligned) : (f ++ g).IsAligned := by
  unfold IsAligned at *
  rw [sql_append, params_append, String.toList_append, List.count_append, List.length_append,
    hf, hg]

theorem fillFrom_nil (lit : Value → String) (cs : List Char) : fillFrom lit cs [] = cs := by
  cases cs <;> rfl

theorem fillFrom_question (lit : Value → String) (cs : List Char) (v : Value) (vs : List Value) :
    fillFrom lit ('?' :: cs) (v :: vs) = (lit v).toList ++ fillFrom lit cs vs := by
  rw [fillFrom, if_pos rfl]

theorem fillFrom_of_ne (lit : Value → String) {c : Char} (hc : c ≠ '?') (cs : List Char)
    (vs : List Value) : fillFrom lit (c :: cs) vs = c :: fillFrom lit cs vs := by
  cases vs with
  | nil => rw [fillFrom_nil, fillFrom_nil]
  | cons v vs => rw [fillFrom, if_neg hc]

/-- The values that belong to the first of two texts are used up in it. -/
theorem fillFrom_append (lit : Value → String) {cs : List Char} {vs : List Value}
    (h : cs.count '?' = vs.length) (ds : List Char) (ws : List Value) :
    fillFrom lit (cs ++ ds) (vs ++ ws) = fillFrom lit cs vs ++ fillFrom lit ds ws := by
  induction cs generalizing vs with
  | nil =>
    have hvs : vs = [] := List.eq_nil_of_length_eq_zero h.symm
    rw [hvs, fillFrom_nil, List.nil_append, List.nil_append, List.nil_append]
  | cons c cs ih =>
    by_cases hc : c = '?'
    · subst hc
      cases vs with
      | nil => simp at h
      | cons v vs =>
        have hcount : cs.count '?' = vs.length := by simpa using h
        rw [List.cons_append, List.cons_append, fillFrom_question, fillFrom_question, ih hcount,
          List.append_assoc]
    · rw [List.count_cons_of_ne hc] at h
      rw [List.cons_append, fillFrom_of_ne lit hc, fillFrom_of_ne lit hc, ih h, List.cons_append]

theorem fill_append (lit : Value → String) (h : f.IsAligned) (g : Fragment) :
    (f ++ g).fill lit = f.fill lit ++ g.fill lit := by
  rw [fill, sql_append, params_append, String.toList_append, fillFrom_append lit h,
    String.ofList_append, fill, fill]

theorem fill_verbatim (lit : Value → String) (s : String) : (verbatim s).fill lit = s := by
  rw [fill, params_verbatim, fillFrom_nil, sql_verbatim, String.ofList_toList]

theorem fill_placeholder (lit : Value → String) (v : Value) :
    (placeholder v).fill lit = lit v := by
  have hfill : fillFrom lit ['?'] [v] = (lit v).toList := by
    rw [fillFrom_question, fillFrom_nil, List.append_nil]
  rw [fill, toList_placeholder, placeholder, hfill, String.ofList_toList]

end Fragment

/-- Values are written out in their places, also those of the caller's fragments. -/
@[reducible] def Binding.writtenOut (lit : Value → String) : Binding :=
  ⟨fun v => .verbatim (lit v), fun f => .verbatim (f.fill lit)⟩

/-- No text that is taken as it is has a question mark, and what the caller supplies is
aligned. -/
def Vocabulary.sound : Vocabulary where
  plain s := '?' ∉ s.toList
  values := Eq
  given f f' := f' = f ∧ f.IsAligned

/-- Placeholders on the one side, values written out on the other. -/
def Likeness.filling (lit : Value → String) : Likeness :=
  { Vocabulary.sound with
    left := .placeholders
    right := .writtenOut lit
    alike f f' := f.IsAligned ∧ f' = .verbatim (f.fill lit)
    plain_of_not_mem := id
    plain_append := fun {s t} hs ht => by
      show '?' ∉ (s ++ t).toList
      rw [String.toList_append, List.mem_append, not_or]
      exact ⟨hs, ht⟩
    plain_lowercase := Text.question_not_mem_lowercase
    values_refl := Eq.refl
    verbatim := fun hs => ⟨Fragment.isAligned_verbatim hs, by rw [Fragment.fill_verbatim]⟩
    append := by
      rintro f _ g _ ⟨hf, rfl⟩ ⟨hg, rfl⟩
      refine ⟨hf.append hg, ?_⟩
      rw [Fragment.fill_append lit hf]
      rfl
    bound := by
      rintro v _ rfl
      refine ⟨Fragment.isAligned_placeholder v, ?_⟩
      show Fragment.verbatim (lit v) = .verbatim ((Fragment.placeholder v).fill lit)
      rw [Fragment.fill_placeholder]
    supplied := by
      rintro f _ ⟨rfl, hf⟩
      exact ⟨hf, rfl⟩ }

/-- In a sound program, raw texts, names and aliases have no question mark, and the fragments
that the caller supplies are aligned. Nothing is required of values. -/
def Program.IsSound (P : Program) : Prop :=
  Vocabulary.sound.Programs P P

/-- Values bring no condition with them. -/
theorem Vocabulary.sound_scalars (s : Scalar) : sound.Scalars s s :=
  .same fun _ _ => rfl

/-- Every fragment that a sound program compiles is aligned, and filling in texts of its
parameters gives the fragment that the same calls compile when they write these texts. -/
theorem Program.compiled_filled (lit : Value → String) {schema : Schema}
    (hS : Vocabulary.sound.PlainSchema schema) (counters : Counters) {P : Program}
    (hP : P.IsSound) :
    List.Forall₂ (fun f f' => f.IsAligned ∧ f' = .verbatim (f.fill lit))
      (P.compiled schema counters) (P.compiled (b := .writtenOut lit) schema counters) :=
  (Likeness.filling lit).programs hS counters hP

/-- Values in every clause of a query with a join, a subquery and a supplied union. One of them
is a question mark itself. -/
theorem Program.compiled_filled_of_query :
    let lit : Value → String := Value.inspect
    let model : Model := { typeName := "Employee", table := "employee" }
    let column (name : String) : ColumnArg := .given (.raw name)
    let scalar (s : Scalar) : OperandArg := .given (.scalar s)
    let older : QueryScript := .scoped false
      (.filter (.call false .done (.compare .great (column "age") (scalar (.signed 40))) .done))
      .done
    let P : Program := .query { model } <|
      .scoped false (.project (.call false .done
        (.applyWith .coalesce [.text "?"] (column "name") none) .done)) <|
      .scoped false (.filter (.call false (.query { model } older .done)
        (.inQuery (column "id") (.built 0)) .done)) <|
      .scoped false (.join .inner model (some "boss") (.scoped false
        (.filter (.call false .done (.search .start (column "name") "A") .done)) .done)) <|
      .call false .done (.limit 10) <|
      .call false .done (.union .union (.given ⟨"SELECT ?", [.integer 5]⟩)) .done
    let sql := "SELECT COALESCE(emp.name, ?) AS name FROM employee AS emp" ++
      " INNER JOIN employee AS boss" ++
      " WHERE emp.id IN (SELECT emp.* FROM employee AS emp WHERE emp.age > ?)" ++
      " AND (boss.name LIKE ?)" ++
      " LIMIT ? UNION SELECT ?"
    Vocabulary.sound.PlainSchema ⟨[]⟩ ∧ P.IsSound ∧
    (P.compiled ⟨[]⟩ ⟨[]⟩).head? =
      some ⟨sql, [.text "?", .integer 40, .text "A%", .integer 10, .integer 5]⟩ ∧
    List.Forall₂ (fun f f' => f.IsAligned ∧ f' = .verbatim (f.fill lit))
      (P.compiled ⟨[]⟩ ⟨[]⟩) (P.compiled (b := .writtenOut lit) ⟨[]⟩ ⟨[]⟩) := by
  intro lit model column scalar older P sql
  have hS : Vocabulary.sound.PlainSchema ⟨[]⟩ := by
    intro m hm
    cases hm
  have hmodel : Vocabulary.sound.PlainModel model :=
    ⟨(by decide : '?' ∉ model.table.toList), (by decide +kernel : '?' ∉ model.defaultAlias.toList),
      by intro c hc; cases hc⟩
  have hhead : Vocabulary.sound.PlainHead { model } := ⟨hmodel, by intro a ha; cases ha⟩
  have hcolumn {name : String} (h : '?' ∉ name.toList) :
      Vocabulary.sound.ColumnArgs (column name) (column name) := .given (.raw h)
  have holder : Vocabulary.sound.QueryScripts older older :=
    .scoped _ (.filter (.call _ .done (.compare _ (hcolumn (by decide))
      (.given (.scalar (Vocabulary.sound_scalars _)))) .done)) .done
  have hunion : (⟨"SELECT ?", [.integer 5]⟩ : Fragment).IsAligned := by
    unfold Fragment.IsAligned
    decide
  have hboss : Vocabulary.sound.PlainAlias (some "boss") := by
    intro a ha
    cases ha
    exact (by decide : '?' ∉ "boss".toList)
  have hP : P.IsSound := .query hhead <|
    .scoped _ (.project (.call _ .done (.applyWith _ (.cons (Vocabulary.sound_scalars _) .nil)
      (hcolumn (by decide)) (by intro a ha; cases ha)) .done)) <|
    .scoped _ (.filter (.call _ (.query hhead holder .done)
      (.inQuery (hcolumn (by decide)) (.built 0)) .done)) <|
    .scoped _ (.join _ hmodel hboss (.scoped _ (.filter (.call _ .done
      (.search _ (hcolumn (by decide)) fun _ => rfl) .done)) .done)) <|
    .call _ .done (.limit rfl) <|
    .call _ .done (.union _ (.given ⟨rfl, hunion⟩)) .done
  exact ⟨hS, hP, by decide +kernel, compiled_filled lit hS ⟨[]⟩ hP⟩

end SqlCompose
