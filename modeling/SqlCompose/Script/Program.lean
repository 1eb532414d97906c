import SqlCompose.Insertion
import SqlCompose.Script.Composition
import SqlCompose.Script.RowChange

/-! Programs: all calls on one builder, from its beginning to the statements it compiles. -/

namespace SqlCompose

inductive Program : Type 1 where
  | condition (model : Model) (aliasName : String) (steps : PredicateScript)
  | selection (model : Model) (aliasName : String) (isExpression : Bool)
      (steps : ProjectionScript)
  | query (head : QueryHead) (steps : QueryScript)
  | composition (steps : List FragmentStep)
  | update (model : Model) (steps : List UpdateStep)
  | delete (model : Model) (steps : List DeleteStep)
  | deleteKeys (model : Model) (keys : List Scalar) (steps : List DeleteStep)
  | insert (i : Insertion) (rows : List (List Value))
  | insertRecords {ρ : Type} (i : Insertion) (T : RecordType ρ) (records : List ρ)
  | updateRecord {ρ : Type} (T : RecordType ρ) (r : ρ)
  | deleteRecord {ρ : Type} (T : RecordType ρ) (r : ρ)

def Report.fragments : Report → List Fragment
  | fragment f => [f]
  | _ => []

/-- The fragments that a step has shown, as its output and as the state of its builder. -/
def Entry.fragments (e : Entry) : List Fragment :=
  let outputs := match e.result with
    | .ok (some output) => output.fragments
    | _ => []
  outputs ++ e.state.fragments

def Session.fragments (s : Session) : List Fragment :=
  s.saved.map Prod.snd ++ s.log.flatMap Entry.fragments

/-- All fragments of a run, with what its builder shows at the end. -/
def Run.fragments {β : Type} (report : β → Report) (r : Run β) : List Fragment :=
  (report r.builder).fragments ++ r.session.fragments

namespace Program

/-- All fragments that a program compiles. -/
def compiled [b : Binding] (schema : Schema) (counters : Counters) : Program → List Fragment
  | condition model aliasName steps =>
    (steps.run schema "" 0 { source := { schema, model, aliasName } } { counters }).fragments
      Predicate.report
  | selection model aliasName isExpression steps =>
    (steps.run schema "" 0 { source := { schema, model, aliasName }, isExpression }
      { counters }).fragments Projection.report
  | query head steps =>
    (steps.run schema "" 0 (head.start schema) { counters }).fragments Query.report
  | composition steps => (Fragment.run schema 0 steps .empty { counters }).fragments .fragment
  | update model steps =>
    (RowUpdate.run schema 0 steps (.ofModel schema model) { counters }).fragments
      RowUpdate.report
  | delete model steps =>
    (RowDelete.run schema 0 steps (.ofModel schema model) { counters }).fragments
      RowDelete.report
  | deleteKeys model keys steps =>
    match RowDelete.ofKeys schema model keys with
    | .ok d => (RowDelete.run schema 0 steps d { counters }).fragments RowDelete.report
    | .error _ => []
  | insert i rows => (i.compile rows).toOption.getD []
  | insertRecords i T records => (i.compileRecords T records).toOption.getD []
  | updateRecord T r => (RowUpdate.compileRecord T r).toOption.toList
  | deleteRecord T r => (RowDelete.compileRecord T r).toOption.toList

end Program

end SqlCompose
