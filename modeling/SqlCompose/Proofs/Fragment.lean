import SqlCompose.Fragment

/-! Algebra of fragments: text and parameters are appended side by side. -/

namespace SqlCompose.Fragment

theorem ext {a b : Fragment} (hs : a.sql = b.sql) (hp : a.params = b.params) : a = b := by
  cases a
  cases b
  cases hs
  cases hp
  rfl

@[simp] theorem sql_append (a b : Fragment) : (a ++ b).sql = a.sql ++ b.sql := rfl

@[simp] theorem params_append (a b : Fragment) : (a ++ b).params = a.params ++ b.params := rfl

@[simp] theorem sql_verbatim (sql : String) : (verbatim sql).sql = sql := rfl

@[simp] theorem params_verbatim (sql : String) : (verbatim sql).params = [] := rfl

@[simp] theorem empty_append (a : Fragment) : Fragment.empty ++ a = a :=
  ext (by simp [empty]) (by simp [empty])

@[simp] theorem append_empty (a : Fragment) : a ++ Fragment.empty = a :=
  ext (by simp [empty]) (by simp [empty])

theorem append_assoc (a b c : Fragment) : a ++ b ++ c = a ++ (b ++ c) :=
  ext (by simp [String.append_assoc]) (by simp)

@[simp] theorem isEmpty_append (a b : Fragment) : (a ++ b).isEmpty = (a.isEmpty && b.isEmpty) := by
  rw [Bool.eq_iff_iff]
  simp [isEmpty]

@[simp] theorem isEmpty_verbatim (sql : String) : (verbatim sql).isEmpty = sql.isEmpty := rfl

@[simp] theorem isEmpty_empty : Fragment.empty.isEmpty = true := rfl

@[simp] theorem isEmpty_parenthesized (a : Fragment) : a.parenthesized.isEmpty = false := by
  simp [parenthesized]

@[simp] theorem isEmpty_appendText (a : Fragment) (sql : String) :
    (a.appendText sql).isEmpty = (a.isEmpty && sql.isEmpty) :=
  isEmpty_append a (verbatim sql)

/-- Text and parameters of several fragments with a separator between them. -/
theorem join_eq (separator : String) (l : List Fragment) :
    join separator l = ⟨separator.intercalate (l.map sql), l.flatMap params⟩ := by
  induction l with
  | nil => rfl
  | cons a l ih => cases l with
    | nil => exact ext (by simp [join]) (by simp [join])
    | cons b rest =>
      have hjoin : join separator (a :: b :: rest) =
          a ++ verbatim separator ++ join separator (b :: rest) := rfl
      rw [hjoin, ih]
      refine ext ?_ ?_
      · simp [String.intercalate_cons_cons]
      · simp

/-- Items of a FROM clause, with a blank before each. -/
def spaced (l : List Fragment) : Fragment :=
  l.foldr (fun item rest => .verbatim " " ++ item ++ rest) .empty

@[simp] theorem spaced_append (l l' : List Fragment) :
    spaced (l ++ l') = spaced l ++ spaced l' := by
  induction l with
  | nil => exact (empty_append _).symm
  | cons item l ih =>
    show verbatim " " ++ item ++ spaced (l ++ l') = _
    rw [ih, ← append_assoc]
    rfl

end SqlCompose.Fragment
