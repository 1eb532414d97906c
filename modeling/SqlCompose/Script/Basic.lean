import SqlCompose.Script.Call

/-! Scripts: the calls that build a condition, a projection, a join or a query, one after
the other, with the scripts that build their parts nested in them. A step that is an
attempt may fail without ending its script. -/

namespace SqlCompose

/-- The table that a query starts from. -/
structure QueryHead where
  model : Model
  aliasName : Option String := none
  counter : CounterId := .shared
deriving DecidableEq

def QueryHead.start (schema : Schema) (h : QueryHead) : Query :=
  match h.aliasName with
  | some aliasName => Query.aliased schema h.model aliasName h.counter
  | none => Query.ofModel schema h.model h.counter

mutual

/-- What is built before a call, from left to right: saved fragments, subqueries and
expressions. `storable` builds nothing, but requires that scalars can be stored. -/
inductive Preparation where
  | done
  | saved (name : String) (rest : Preparation)
  | storable (scalars : List Scalar) (rest : Preparation)
  | query (head : QueryHead) (steps : QueryScript) (rest : Preparation)
  | expression (model : Model) (aliasName : String) (steps : ProjectionScript) (rest : Preparation)

inductive PredicateScript where
  | done
  | call (attempt : Bool) (before : Preparation) (c : PredicateCall) (rest : PredicateScript)
  | scope (attempt : Bool) (steps : PredicateScript) (rest : PredicateScript)

inductive ProjectionScript where
  | done
  | call (attempt : Bool) (before : Preparation) (c : ProjectionCall) (rest : ProjectionScript)
  | group (attempt : Bool) (aliasName : String) (steps : ProjectionScript) (rest : ProjectionScript)

/-- One step that queries and joins have in common. -/
inductive ScopeStep where
  | project (steps : ProjectionScript)
  | filter (steps : PredicateScript)
  | having (steps : PredicateScript)
  | expr (steps : ProjectionScript) (saveAs : Option String)
  | join (kind : JoinKind) (model : Model) (aliasName : Option String) (steps : JoinScript)
  | call (before : Preparation) (c : ScopeCall)

inductive JoinScript where
  | done
  | scoped (attempt : Bool) (step : ScopeStep) (rest : JoinScript)
  | on (attempt : Bool) (steps : PredicateScript) (rest : JoinScript)
  | call (attempt : Bool) (before : Preparation) (c : JoinCall) (rest : JoinScript)

inductive QueryScript where
  | done
  | scoped (attempt : Bool) (step : ScopeStep) (rest : QueryScript)
  | call (attempt : Bool) (before : Preparation) (c : QueryCall) (rest : QueryScript)

end

end SqlCompose
