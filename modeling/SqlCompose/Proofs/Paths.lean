import SqlCompose.Model

/-! Paths of property names, from a model through references to a property. A path is followed from
column to column, each in the model that the one before it refers to, whether or not references
come back to a model. Its name is made of those of the columns. A path that cannot be followed is
reported as a whole, with the model that it starts at. -/

namespace SqlCompose

/-- The first column of a model with this property. -/
def Model.Maps (m : Model) (property : String) (c : Column) : Prop :=
  ∃ before after, m.columns = before ++ c :: after ∧ c.property = property ∧
    ∀ d ∈ before, d.property ≠ property

theorem Model.property?_eq_some_iff {m : Model} {property : String} {c : Column} :
    m.property? property = some c ↔ m.Maps property c := by
  rw [property?, List.find?_eq_some_iff_append]
  constructor
  · rintro ⟨hproperty, before, after, hcolumns, hbefore⟩
    exact ⟨before, after, hcolumns, eq_of_beq hproperty, by simpa using hbefore⟩
  · rintro ⟨before, after, hcolumns, hproperty, hbefore⟩
    exact ⟨beq_of_eq hproperty, before, after, hcolumns, by simpa using hbefore⟩

theorem Model.Maps.unique {m : Model} {property : String} {c c' : Column}
    (h : m.Maps property c) (h' : m.Maps property c') : c = c' :=
  Option.some.inj ((property?_eq_some_iff.mpr h).symm.trans (property?_eq_some_iff.mpr h'))

namespace Schema

/-- The model that a column refers to. -/
def target? (s : Schema) (c : Column) : Option Model :=
  c.reference.bind s.model?

/-- The model in which a name of a path is looked up: at first the one that the path starts at, then
the one that the column before refers to. -/
def owner? (s : Schema) (m : Model) (columns : List Column) : Nat → Option Model
  | 0 => some m
  | i + 1 => columns[i]?.bind s.target?

/-- The columns met on a path, one for each of its names. -/
structure Follows (s : Schema) (m : Model) (path : PropertyPath) (columns : List Column) :
    Prop where
  ne_nil : path ≠ []
  length_eq : columns.length = path.length
  found : ∀ i property, path[i]? = some property → ∃ owner c,
    s.owner? m columns i = some owner ∧ columns[i]? = some c ∧ owner.Maps property c

variable {s : Schema} {m : Model}

theorem owner?_cons {c : Column} {target : Model} (hc : s.target? c = some target)
    (columns : List Column) (i : Nat) :
    s.owner? m (c :: columns) (i + 1) = s.owner? target columns i := by
  cases i with
  | zero => exact hc
  | succ i => rfl

theorem follows_singleton_iff {property : String} {columns : List Column} :
    s.Follows m [property] columns ↔ ∃ c, columns = [c] ∧ m.Maps property c := by
  constructor
  · intro h
    obtain ⟨c, rfl⟩ := List.length_eq_one_iff.mp h.length_eq
    obtain ⟨owner, c', howner, hc', hmaps⟩ := h.found 0 property rfl
    cases howner
    cases hc'
    exact ⟨c, rfl, hmaps⟩
  · rintro ⟨c, rfl, hmaps⟩
    refine ⟨nofun, rfl, fun i property' hi => ?_⟩
    cases i with
    | zero =>
      cases hi
      exact ⟨m, c, rfl, rfl, hmaps⟩
    | succ i => cases hi

/-- After the first name of several, the rest of a path starts at the model that its column refers
to. -/
theorem follows_cons_iff {property : String} {rest : PropertyPath} (hrest : rest ≠ [])
    {columns : List Column} :
    s.Follows m (property :: rest) columns ↔ ∃ c target cs, columns = c :: cs ∧
      m.Maps property c ∧ s.target? c = some target ∧ s.Follows target rest cs := by
  constructor
  · intro h
    obtain ⟨c, cs, rfl⟩ := List.exists_cons_of_length_eq_add_one h.length_eq
    obtain ⟨owner, c', howner, hc', hmaps⟩ := h.found 0 property rfl
    cases howner
    cases hc'
    obtain ⟨next, rest', rfl⟩ := List.exists_cons_of_ne_nil hrest
    obtain ⟨target, -, htarget, -⟩ := h.found 1 next rfl
    refine ⟨c, target, cs, rfl, hmaps, htarget, hrest, Nat.succ.inj h.length_eq,
      fun i property' hi => ?_⟩
    obtain ⟨owner, c', howner, hc', hmaps'⟩ := h.found (i + 1) property' hi
    rw [owner?_cons htarget] at howner
    exact ⟨owner, c', howner, hc', hmaps'⟩
  · rintro ⟨c, target, cs, rfl, hmaps, htarget, h⟩
    refine ⟨nofun, congrArg (· + 1) h.length_eq, fun i property' hi => ?_⟩
    cases i with
    | zero =>
      cases hi
      exact ⟨m, c, rfl, rfl, hmaps⟩
    | succ i =>
      obtain ⟨owner, c', howner, hc', hmaps'⟩ := h.found i property' hi
      exact ⟨owner, c', (owner?_cons htarget cs i).trans howner, hc', hmaps'⟩

theorem Follows.columns_ne_nil {path : PropertyPath} {columns : List Column}
    (h : s.Follows m path columns) : columns ≠ [] := by
  rintro rfl
  exact h.ne_nil (List.length_eq_zero_iff.mp h.length_eq.symm)

theorem Follows.unique {path : PropertyPath} {columns columns' : List Column}
    (h : s.Follows m path columns) (h' : s.Follows m path columns') : columns = columns' := by
  induction path generalizing m columns columns' with
  | nil => exact absurd rfl h.ne_nil
  | cons property rest ih =>
    by_cases hrest : rest = []
    · subst hrest
      obtain ⟨c, rfl, hmaps⟩ := follows_singleton_iff.mp h
      obtain ⟨c', rfl, hmaps'⟩ := follows_singleton_iff.mp h'
      rw [hmaps.unique hmaps']
    · obtain ⟨c, target, cs, rfl, hmaps, htarget, h⟩ := (follows_cons_iff hrest).mp h
      obtain ⟨c', target', cs', rfl, hmaps', htarget', h'⟩ := (follows_cons_iff hrest).mp h'
      obtain rfl := hmaps.unique hmaps'
      obtain rfl := Option.some.inj (htarget.symm.trans htarget')
      rw [ih h h']

/-- A path in two parts: the second starts at the model that the last column of the first refers
to. -/
theorem follows_append_iff {p q : PropertyPath} (hp : p ≠ []) (hq : q ≠ [])
    {columns : List Column} :
    s.Follows m (p ++ q) columns ↔ ∃ ps qs target, columns = ps ++ qs ∧ s.Follows m p ps ∧
      ps.getLast?.bind s.target? = some target ∧ s.Follows target q qs := by
  induction p generalizing m columns with
  | nil => exact absurd rfl hp
  | cons property p ih =>
    by_cases hlast : p = []
    · subst hlast
      rw [List.singleton_append, follows_cons_iff hq]
      constructor
      · rintro ⟨c, target, cs, rfl, hmaps, htarget, h⟩
        exact ⟨[c], cs, target, rfl, follows_singleton_iff.mpr ⟨c, rfl, hmaps⟩, htarget, h⟩
      · rintro ⟨ps, qs, target, rfl, hfirst, htarget, h⟩
        obtain ⟨c, rfl, hmaps⟩ := follows_singleton_iff.mp hfirst
        exact ⟨c, target, qs, rfl, hmaps, htarget, h⟩
    · have hrest : p ++ q ≠ [] := by simp [hlast]
      rw [List.cons_append, follows_cons_iff hrest]
      constructor
      · rintro ⟨c, next, cs, rfl, hmaps, hnext, h⟩
        obtain ⟨ps, qs, target, rfl, hfirst, htarget, h⟩ := (ih hlast).mp h
        refine ⟨c :: ps, qs, target, rfl,
          (follows_cons_iff hlast).mpr ⟨c, next, ps, rfl, hmaps, hnext, hfirst⟩, ?_, h⟩
        rwa [List.getLast?_cons_of_ne_nil hfirst.columns_ne_nil]
      · rintro ⟨ps, qs, target, rfl, hfirst, htarget, h⟩
        obtain ⟨c, next, cs, rfl, hmaps, hnext, hfirst⟩ := (follows_cons_iff hlast).mp hfirst
        rw [List.getLast?_cons_of_ne_nil hfirst.columns_ne_nil] at htarget
        exact ⟨c, next, cs ++ qs, rfl, hmaps, hnext,
          (ih hlast).mpr ⟨cs, qs, target, rfl, hfirst, htarget, h⟩⟩

theorem namesAlong_cons {property : String} {rest : PropertyPath} (hrest : rest ≠ []) :
    s.namesAlong m (property :: rest) =
      (m.property? property).bind fun c => (s.target? c).bind fun target =>
        (s.namesAlong target rest).map (c.name :: ·) := by
  obtain ⟨next, rest, rfl⟩ := List.exists_cons_of_ne_nil hrest
  rw [namesAlong]
  simp only [target?, Option.bind_assoc, Option.map_eq_bind]
  rfl

/-- The names along a path are those of the columns that are met on it. -/
theorem namesAlong_eq_some_iff {path : PropertyPath} {names : List String} :
    s.namesAlong m path = some names ↔
      ∃ columns, s.Follows m path columns ∧ names = columns.map (·.name) := by
  induction path generalizing m names with
  | nil => exact iff_of_false nofun fun ⟨columns, h, _⟩ => h.ne_nil rfl
  | cons property rest ih =>
    by_cases hrest : rest = []
    · subst hrest
      simp only [namesAlong, follows_singleton_iff, Option.map_eq_some_iff,
        Model.property?_eq_some_iff]
      constructor
      · rintro ⟨c, hmaps, rfl⟩
        exact ⟨[c], ⟨c, rfl, hmaps⟩, rfl⟩
      · rintro ⟨columns, ⟨c, rfl, hmaps⟩, rfl⟩
        exact ⟨c, hmaps, rfl⟩
    · simp only [namesAlong_cons hrest, follows_cons_iff hrest, Option.bind_eq_some_iff,
        Option.map_eq_some_iff, Model.property?_eq_some_iff, ih]
      constructor
      · rintro ⟨c, hmaps, target, htarget, names, ⟨cs, h, rfl⟩, rfl⟩
        exact ⟨c :: cs, ⟨c, target, cs, rfl, hmaps, htarget, h⟩, rfl⟩
      · rintro ⟨columns, ⟨c, target, cs, rfl, hmaps, htarget, h⟩, rfl⟩
        exact ⟨c, hmaps, target, htarget, _, ⟨cs, h, rfl⟩, rfl⟩

/-! ### Names of paths -/

theorem resolve_eq_ok_iff {path : PropertyPath} {name : String} :
    s.resolve m path = .ok name ↔
      ∃ columns, s.Follows m path columns ∧ name = "_".intercalate (columns.map (·.name)) := by
  unfold resolve
  cases hnames : s.namesAlong m path with
  | none =>
    refine iff_of_false nofun fun ⟨columns, h, _⟩ => ?_
    rw [namesAlong_eq_some_iff.mpr ⟨columns, h, rfl⟩] at hnames
    cases hnames
  | some names =>
    obtain ⟨columns, h, rfl⟩ := namesAlong_eq_some_iff.mp hnames
    constructor
    · rintro ⟨⟩
      exact ⟨columns, h, rfl⟩
    · rintro ⟨columns', h', rfl⟩
      rw [namesAlong_eq_some_iff.mpr ⟨columns', h', rfl⟩] at hnames
      rw [← Option.some.inj hnames]

theorem resolve_error {path : PropertyPath} {e : Error} (h : s.resolve m path = .error e) :
    e = .unknownProperty m.typeName path.text := by
  unfold resolve at h
  split at h <;> cases h
  rfl

/-- Paths from a model, whatever the references between the models are. A path has a name exactly if
each of its names is found where it is looked up: it is made of the names of the columns, each the
first with its property. The name of a path in two parts is made of that of the first part, and that
of the second from the model that the last column of the first refers to. All other paths are
reported by the first model and by all of their names, wherever they fail. -/
theorem resolve_along_columns (s : Schema) (m : Model) (path : PropertyPath) :
    ((∃ name, s.resolve m path = .ok name) ↔ ∃ columns, s.Follows m path columns) ∧
    (∀ columns, s.Follows m path columns →
      s.resolve m path = .ok ("_".intercalate (columns.map (·.name)))) ∧
    (∀ e, s.resolve m path = .error e ↔
      (¬ ∃ columns, s.Follows m path columns) ∧
        e = .unknownProperty m.typeName (".".intercalate path)) ∧
    ∀ p q, path = p ++ q → p ≠ [] → q ≠ [] → ∀ name, s.resolve m path = .ok name ↔
      ∃ columns target start rest, s.Follows m p columns ∧
        columns.getLast?.bind s.target? = some target ∧ s.resolve m p = .ok start ∧
        s.resolve target q = .ok rest ∧ name = start ++ "_" ++ rest := by
  have hok : (∃ name, s.resolve m path = .ok name) ↔ ∃ columns, s.Follows m path columns := by
    simp only [resolve_eq_ok_iff]
    exact ⟨fun ⟨_, columns, h, _⟩ => ⟨columns, h⟩, fun ⟨columns, h⟩ => ⟨_, columns, h, rfl⟩⟩
  refine ⟨hok, fun columns h => resolve_eq_ok_iff.mpr ⟨columns, h, rfl⟩, fun e => ?_, ?_⟩
  · rw [← hok]
    cases hresolve : s.resolve m path with
    | ok name => simp
    | error e' =>
      obtain rfl := resolve_error hresolve
      simp [eq_comm, PropertyPath.text]
  · rintro p q rfl hp hq name
    simp only [resolve_eq_ok_iff, follows_append_iff hp hq]
    have hjoin {ps qs : List Column} {target : Model} (hfirst : s.Follows m p ps)
        (h : s.Follows target q qs) :
        "_".intercalate ((ps ++ qs).map (·.name)) =
          "_".intercalate (ps.map (·.name)) ++ "_" ++ "_".intercalate (qs.map (·.name)) := by
      rw [List.map_append]
      exact String.intercalate_append_of_ne_nil (mt List.map_eq_nil_iff.mp hfirst.columns_ne_nil)
        (mt List.map_eq_nil_iff.mp h.columns_ne_nil)
    constructor
    · rintro ⟨columns, ⟨ps, qs, target, rfl, hfirst, htarget, h⟩, rfl⟩
      exact ⟨ps, target, _, _, hfirst, htarget, ⟨ps, hfirst, rfl⟩, ⟨qs, h, rfl⟩, hjoin hfirst h⟩
    · rintro ⟨ps, target, _, _, hfirst, htarget, ⟨ps', hfirst', rfl⟩, ⟨qs, h, rfl⟩, rfl⟩
      obtain rfl := hfirst.unique hfirst'
      exact ⟨ps ++ qs, ⟨ps, qs, target, rfl, hfirst, htarget, h⟩, (hjoin hfirst h).symm⟩

/-- An employee's boss is an employee, so the path to one's name can have any length. -/
example :
    let employee : Model :=
      { typeName := "Employee", table := "employee"
        columns := [{ property := "boss", name := "manager", reference := some 0 },
          { property := "name", name := "full_name" }] }
    let schema : Schema := ⟨[employee]⟩
    schema.resolve employee ["boss", "boss", "name"] = .ok "manager_manager_full_name" ∧
    schema.resolve employee ["boss", "name", "boss"] =
      .error (.unknownProperty "Employee" "boss.name.boss") :=
  ⟨rfl, rfl⟩

end Schema

end SqlCompose
