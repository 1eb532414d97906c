import SqlCompose.Alias.Counters
import SqlCompose.Inspect
import SqlCompose.Text.Letters
import SqlCompose.Text.Quoted

/-! The scopes of a query: the query itself and every join in it. Each scope owns one
alias, and a new scope is given an alias that no scope of the query has yet. -/

namespace SqlCompose

/-- One scope, with the numbers of the scopes opened in it. -/
structure AliasScope where
  aliasName : String
  children : List Nat
deriving DecidableEq

/-- The scopes of one query, numbered as they were opened; the query itself is number 0.
Colliding aliases take their numbers from `counter`. -/
structure AliasTree where
  counter : CounterId
  scopes : List AliasScope
deriving DecidableEq

namespace AliasTree

def withRoot (aliasName : String) (counter : CounterId) : AliasTree :=
  ⟨counter, [⟨Text.lowercase aliasName, []⟩]⟩

/-- The alias of a scope; empty for a scope that the tree does not have. -/
def aliasName (t : AliasTree) (scope : Nat) : String :=
  ((t.scopes[scope]?).map (·.aliasName)).getD ""

/-- Searches for an alias below `scope`, depth first and at most `depth` scopes deep. -/
def search (t : AliasTree) (aliasName : String) : (depth scope : Nat) → Bool
  | 0, _ => false
  | depth + 1, scope =>
    match t.scopes[scope]? with
    | none => false
    | some node => node.aliasName == aliasName || node.children.any (t.search aliasName depth)

/-- Whether a scope of the query has the alias. No chain of nested scopes is longer than
there are scopes. -/
def isTaken (t : AliasTree) (aliasName : String) : Bool :=
  t.search aliasName t.scopes.length 0

/-- The first free alias: `candidate` itself, or `base` with the first number of the
counter that makes it free, taking at most `tries` of them. -/
def firstFree (t : AliasTree) (base : String) :
    (tries : Nat) → (candidate : String) → Counters → String × Counters
  | 0, candidate, cs => (candidate, cs)
  | tries + 1, candidate, cs =>
    if t.isTaken candidate then
      let (n, cs) := cs.take t.counter
      t.firstFree base tries (base ++ toString n.toNat) cs
    else (candidate, cs)

/-- Adds a scope with the given alias under `parent`. -/
def addScope (t : AliasTree) (parent : Nat) (aliasName : String) : AliasTree :=
  { t with
    scopes := (t.scopes.modify parent fun node =>
      { node with children := node.children ++ [t.scopes.length] }) ++ [⟨aliasName, []⟩] }

/-- Opens a scope under `parent`, named after `proposal` in lower case. The number of the
scope is the number of scopes so far, and as many numbers of the counter always suffice. -/
def allocate (t : AliasTree) (parent : Nat) (proposal : String) (cs : Counters) :
    AliasTree × Counters :=
  let base := Text.lowercase proposal
  let (aliasName, cs) := t.firstFree base t.scopes.length base cs
  (t.addScope parent aliasName, cs)

/-- The number that the next scope gets. -/
def nextScope (t : AliasTree) : Nat :=
  t.scopes.length

/-- From now on colliding aliases take their numbers from another counter. -/
def withCounter (t : AliasTree) (counter : CounterId) : AliasTree :=
  { t with counter := counter }

def inspectScopeId (scope : Nat) : String :=
  Inspect.tuple "ScopeId" [toString scope]

def inspect (t : AliasTree) (cs : Counters) : String :=
  let scope (node : AliasScope) :=
    Inspect.record "Scope"
      [("alias", Text.quoted node.aliasName),
       ("children", Inspect.list (node.children.map inspectScopeId))]
  Inspect.record "AliasRegistry"
    [("counter", cs.inspect t.counter), ("scopes", Inspect.list (t.scopes.map scope))]

end AliasTree

end SqlCompose
