import SqlCompose.RowDelete
import SqlCompose.RowUpdate
import SqlCompose.Script.Run

/-! Scripts that build UPDATE and DELETE statements. Every one of their steps is an attempt. -/

namespace SqlCompose

inductive UpdateStep where
  | set (before : Preparation) (column : ColumnArg) (value : Scalar)
  | filter (steps : PredicateScript)
  | inspection

inductive DeleteStep where
  | filter (steps : PredicateScript)
  | inspection

namespace RowUpdate

def report (u : RowUpdate) : Report :=
  .ofResult u.compile

/-- Runs one step at the given place. -/
def step [b : Binding] (schema : Schema) (place : String) (u : RowUpdate) (s : Session) :
    UpdateStep → Finished RowUpdate
  | .set before column value =>
    .ofPrepared u (before.run schema [] s) fun fragments s =>
      .ofCall u s ((u.set (column.value fragments) value).map (·, none))
  | .filter steps =>
    (steps.run schema (place ++ ".") 0 u.filter s).finished fun filter => { u with filter }
  | .inspection => ⟨.ok (some (.text u.inspect)), u, s⟩

/-- Runs the steps from number `number` on. -/
def run [b : Binding] (schema : Schema) :
    (number : Nat) → List UpdateStep → RowUpdate → Session → Run RowUpdate
  | _, [], u, s => ⟨.ok (), u, s⟩
  | number, step :: rest, u, s =>
    (u.step schema (toString number) s step).andThen (toString number) report true
      fun u s => run schema (number + 1) rest u s

end RowUpdate

namespace RowDelete

def report (d : RowDelete) : Report :=
  .fragment d.compile

/-- Runs one step at the given place. -/
def step [b : Binding] (schema : Schema) (place : String) (d : RowDelete) (s : Session) :
    DeleteStep → Finished RowDelete
  | .filter steps =>
    (steps.run schema (place ++ ".") 0 d.filter s).finished fun filter => { d with filter }
  | .inspection => ⟨.ok (some (.text d.inspect)), d, s⟩

/-- Runs the steps from number `number` on. -/
def run [b : Binding] (schema : Schema) :
    (number : Nat) → List DeleteStep → RowDelete → Session → Run RowDelete
  | _, [], d, s => ⟨.ok (), d, s⟩
  | number, step :: rest, d, s =>
    (d.step schema (toString number) s step).andThen (toString number) report true
      fun d s => run schema (number + 1) rest d s

end RowDelete

end SqlCompose
