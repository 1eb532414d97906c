import SqlCompose.Alias.Counters
import SqlCompose.Error
import SqlCompose.Fragment

/-! What a script leaves behind besides its builder: the counters, the fragments it has
saved, and a log of its steps. -/

namespace SqlCompose

/-- Something that a step shows of its builder. -/
inductive Report where
  | flag (b : Bool)
  | text (s : String)
  | fragment (f : Fragment)
  | failure (e : Error)
deriving DecidableEq

def Report.ofResult : Except Error Fragment → Report
  | .ok f => fragment f
  | .error e => failure e

/-- One finished step: its place, its failure or its output, and its builder afterwards. -/
structure Entry where
  place : String
  result : Except Error (Option Report)
  state : Report

/-- The log has the latest entry first. -/
structure Session where
  counters : Counters := ⟨[]⟩
  saved : List (String × Fragment) := []
  log : List Entry := []

namespace Session

def record (s : Session) (e : Entry) : Session :=
  { s with log := e :: s.log }

/-- Saves a fragment if it is given a name. -/
def save (s : Session) (name? : Option String) (f : Fragment) : Session :=
  match name? with
  | some name => { s with saved := (name, f) :: s.saved }
  | none => s

def saved? (s : Session) (name : String) : Option Fragment :=
  s.saved.lookup name

end Session

/-- A script that has come to its end, or to the step that made it fail. -/
structure Run (β : Type) where
  result : Except Error Unit
  builder : β
  session : Session

/-- A single step that has come to its end. -/
structure Finished (β : Type) where
  result : Except Error (Option Report)
  builder : β
  session : Session

namespace Finished

/-- A call that either changes the builder or fails and leaves it as it was. -/
def ofCall {β : Type} (b : β) (s : Session) : Except Error (β × Option Report) → Finished β
  | .ok (b, out) => ⟨.ok out, b, s⟩
  | .error e => ⟨.error e, b, s⟩

/-- Logs a step and goes on with the next, unless the step failed and was not an attempt. -/
def andThen {β : Type} (f : Finished β) (place : String) (state : β → Report) (attempt : Bool)
    (next : β → Session → Run β) : Run β :=
  let s := f.session.record ⟨place, f.result, state f.builder⟩
  match f.result with
  | .ok _ => next f.builder s
  | .error e => if attempt then next f.builder s else ⟨.error e, f.builder, s⟩

/-- The same step for the builder that `b` is a part of. -/
def within {β γ : Type} (f : Finished β) (put : β → γ) : Finished γ :=
  ⟨f.result, put f.builder, f.session⟩

end Finished

/-- A run as the step that it was a part of, without output. -/
def Run.finished {β γ : Type} (r : Run β) (put : β → γ) : Finished γ :=
  ⟨r.result.map fun _ => none, put r.builder, r.session⟩

end SqlCompose
