import SqlCompose.Script.Run

/-! Scripts that compose a single fragment. Every one of their steps is an attempt. -/

namespace SqlCompose

inductive FragmentCall where
  | replace (f : Fragment)
  | appendText (sql : String)
  | append (f : FragmentArg)
  | parenthesize
  | join (fs : List FragmentArg) (separator : String)
  | wrap (w : WrapperArg)
  | save (name : Option String)
  | isEmpty
  | text
  | inspection
  | equals (f : FragmentArg)

/-- A call with what is built before it. -/
structure FragmentStep where
  before : Preparation := .done
  call : FragmentCall

namespace FragmentCall

/-- The fragment after a successful call. -/
def change [b : Binding] (fragments : List Fragment) (f : Fragment) :
    FragmentCall → Except Error Fragment
  | replace g => .ok g.supplied
  | appendText sql => .ok (f.appendText sql)
  | append g => .ok (f ++ g.value fragments)
  | parenthesize => .ok f.parenthesized
  | join fs separator => .ok (.join separator (fs.map (·.value fragments)))
  | wrap w => do return (← w.value).apply f
  | _ => .ok f

def output [b : Binding] (fragments : List Fragment) (f : Fragment) :
    FragmentCall → Option Report
  | isEmpty => some (.flag f.isEmpty)
  | text => some (.text f.sql)
  | inspection => some (.text f.inspect)
  | equals g => some (.flag (f.same (g.value fragments)))
  | _ => none

def perform [b : Binding] (fragments : List Fragment) (c : FragmentCall) (f : Fragment)
    (s : Session) : Finished Fragment :=
  match c with
  | save name => ⟨.ok none, f, s.save name f⟩
  | c => .ofCall f s ((c.change fragments f).map fun g => (g, c.output fragments g))

end FragmentCall

namespace Fragment

/-- Runs the steps from number `number` on. -/
def run [b : Binding] (schema : Schema) :
    (number : Nat) → List FragmentStep → Fragment → Session → Run Fragment
  | _, [], f, s => ⟨.ok (), f, s⟩
  | number, step :: rest, f, s =>
    let finished := Finished.ofPrepared f (step.before.run schema [] s) fun fragments s =>
      step.call.perform fragments f s
    finished.andThen (toString number) Report.fragment true
      fun f s => run schema (number + 1) rest f s

end Fragment

end SqlCompose
