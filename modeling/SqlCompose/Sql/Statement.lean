import SqlCompose.Sql.Condition

/-! The statements that a table understands, read from fragments with their parameters in
place. -/

namespace SqlCompose

inductive Statement where
  | select (row : List Value)
  | insert (table : String) (columns : List String) (rows : List (List Value))
  | update (table : String) (assignments : List (String × Value)) (filter : Option Condition)
  | delete (table : String) (filter : Option Condition)

namespace Statement

/-- A value that is bound or a whole number that is written out. -/
def valueOf? : Token → Option Value
  | .literal v => some v
  | .word w => Condition.wholeNumber? w
  | _ => none

/-- Reads values with commas between them, up to the end. -/
def readRow? : List Token → Option (List Value)
  | [t] => (valueOf? t).map ([·])
  | t :: .comma :: ts => do
    let v ← valueOf? t
    return v :: (← readRow? ts)
  | _ => none

/-- Reads names with commas between them, up to the closing parenthesis. -/
def readNames? : List Token → Option (List String × List Token)
  | .word name :: .comma :: ts => (readNames? ts).map fun r => (name :: r.1, r.2)
  | .word name :: .closing :: ts => some ([name], ts)
  | _ => none

/-- Reads rows of values in parentheses, up to the end, starting inside a row of which the
first values are known. -/
def readRows? (row : List Value) : List Token → Option (List (List Value))
  | .literal v :: .comma :: ts => readRows? (row ++ [v]) ts
  | [.literal v, .closing] => some [row ++ [v]]
  | .literal v :: .closing :: .comma :: .opening :: ts =>
    (readRows? [] ts).map fun rows => (row ++ [v]) :: rows
  | _ => none

/-- Reads an optional condition, up to the end. -/
def readFilter? : List Token → Option (Option Condition)
  | [] => some none
  | .word "WHERE" :: ts => (Condition.ofTokens? ts).map some
  | _ => none

/-- Reads assignments with commas between them, and the condition after them. -/
def readAssignments? : List Token → Option (List (String × Value) × Option Condition)
  | .word name :: .comparison .equal :: .literal v :: .comma :: ts =>
    (readAssignments? ts).map fun r => ((name, v) :: r.1, r.2)
  | .word name :: .comparison .equal :: .literal v :: ts =>
    (readFilter? ts).map fun filter => ([(name, v)], filter)
  | _ => none

def ofTokens? : List Token → Option Statement
  | .word "SELECT" :: ts => (readRow? ts).map select
  | .word "INSERT" :: .word "INTO" :: .word table :: .opening :: ts => do
    let (columns, ts) ← readNames? ts
    match ts with
    | .word "VALUES" :: .opening :: ts => (readRows? [] ts).map (insert table columns)
    | _ => none
  | .word "UPDATE" :: .word table :: .word "SET" :: ts =>
    (readAssignments? ts).map fun r => update table r.1 r.2
  | .word "DELETE" :: .word "FROM" :: .word table :: ts => (readFilter? ts).map (delete table)
  | _ => none

/-- The statement that a fragment stands for. -/
def ofFragment? (f : Fragment) : Option Statement :=
  f.tokens?.bind ofTokens?

end Statement

end SqlCompose
