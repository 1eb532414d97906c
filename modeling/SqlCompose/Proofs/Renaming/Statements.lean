import SqlCompose.Proofs.Binding.Literals
import SqlCompose.Proofs.Renaming.Scripts

/-! What the state of the counters changes in a statement: the aliases of its scopes and nothing
else. A script has one template for its statement and one for every other fragment that it shows,
and whether its calls succeed does not depend on the counters either. -/

namespace SqlCompose

namespace Naming

variable {ι : Type} {N : Naming ι}

/-! ### What a run has shown -/

theorem Reports.fragments {r : ι → Report} (h : N.Reports r) :
    JointList N.Templated fun i => (r i).fragments := by
  cases h with
  | flag | text => exact .nil
  | fragment hf => exact .cons hf .nil

theorem Reports.isFailure {r : ι → Report} (h : N.Reports r) : Same fun i => (r i).isFailure := by
  cases h with
  | flag | text | fragment _ => exact .rfl

theorem Entries.fragments {e : ι → Entry} (h : N.Entries e) :
    JointList N.Templated fun i => (e i).fragments := by
  refine JointList.append ?_ h.state.fragments
  rcases h.result.cases with ⟨out, hok, hout⟩ | ⟨_, herror⟩
  · simp only [hok]
    rcases hout.cases with hnone | ⟨r, hsome, hr⟩
    · simp only [hnone]
      exact .nil
    · simp only [hsome]
      exact hr.fragments
  · simp only [herror]
    exact .nil

theorem Entries.outcome {e : ι → Entry} (h : N.Entries e) : Same fun i => (e i).outcome := by
  have hresult := h.result.isOk.map₂ h.state.isFailure fun ok failure => (ok, !failure)
  exact h.place.map₂ hresult Prod.mk

theorem Sessions.fragments {s : ι → Session} (h : N.Sessions s) :
    JointList N.Templated fun i => (s i).fragments :=
  (h.saved.map fun _ hp => hp.fragment).append (h.log.flatMap fun _ he => he.fragments)

/-- Sessions in which nothing has been done yet. -/
theorem Sessions.fresh (counters : ι → Counters) :
    N.Sessions fun i => { counters := counters i } :=
  ⟨.nil, .nil⟩

section

variable {β : Type} {R : (ι → β) → Prop} {r : ι → Run β} {queries : ι → List BuiltQuery}
  (h : N.Runs R r queries) {report : β → Report}
  (hreport : ∀ b, R b → N.Reports fun i => report (b i))

include h hreport

theorem Runs.fragments : JointList N.Templated fun i => (r i).fragments report :=
  (hreport _ h.builder).fragments.append h.session.fragments

theorem Runs.outcomes : Same fun i => (r i).outcomes report := by
  have hlog : Same fun i => (r i).session.log.map Entry.outcome :=
    (h.session.log.map fun _ he => he.outcome).allSame
  have hlast : Same fun i => ("", (r i).result.isOk, !(report (r i).builder).isFailure) :=
    h.result.isOk.map₂ (hreport _ h.builder).isFailure fun ok failure => ("", ok, !failure)
  simp only [Run.outcomes, List.map_reverse]
  exact hlog.map₂ hlast fun l last => l.reverse ++ [last]

end

end Naming

/-! ### Statements -/

/-- The queries that a script builds from given counters: its own, and then those for its calls. -/
def QueryScript.allQueries (schema : Schema) (head : QueryHead) (steps : QueryScript)
    (counters : Counters) : List BuiltQuery :=
  .ofScript schema head steps "" { counters } ::
    steps.queries schema "" 0 (head.start schema) { counters }

/-- The aliases of all scopes of these queries. -/
def QueryScript.aliases (schema : Schema) (head : QueryHead) (steps : QueryScript)
    (counters : Counters) : Aliases :=
  (steps.allQueries schema head counters).map BuiltQuery.aliases

/-- One template gives the statement of a script under every state of the counters, once the aliases
of the scopes are put in their places, and one list of templates gives all fragments that are shown
on the way. The same calls succeed, the same scopes are opened, and no two scopes of a query have the
same alias. -/
theorem QueryScript.compile_eq_template (schema : Schema) (head : QueryHead)
    (steps : QueryScript) :
    ∃ (statement : Template) (shown : List Template) (outcomes : List (String × Bool × Bool))
      (widths : List Nat), ∀ counters : Counters,
      let r := steps.run schema "" 0 (head.start schema) { counters }
      let aliases := steps.aliases schema head counters
      statement.fill? aliases = some r.builder.compile ∧
      shown.mapM (Template.fill? aliases) = some (r.fragments Query.report) ∧
      r.outcomes Query.report = outcomes ∧
      aliases.map List.length = widths ∧
      ∀ l ∈ aliases, l.length ≤ UInt64.size → l.Nodup := by
  let N : Naming Counters := steps.aliases schema head
  have hcovers : N.Covers (steps.allQueries schema head) := ⟨0, fun i => List.prefix_rfl⟩
  have hnames := hcovers.names
  have hstart : N.Names fun _ => (head.start schema).scope.tree.aliases :=
    hnames.mono fun counters => (steps.becomes schema "" 0 _ { counters }).keeps_aliases
  have hr := Naming.runQueryScript schema steps "" 0 (.start schema head hstart)
    (.fresh id) hcovers.tail hnames
  have hreport (q : Counters → Query) (hq : N.Queries q) : N.Reports fun i => (q i).report :=
    .fragment hq.compile
  obtain ⟨statement, hstatement⟩ := hr.builder.compile.template
  obtain ⟨shown, hshown⟩ := Naming.exists_templates (hr.fragments hreport)
  obtain ⟨outcomes, houtcomes⟩ := hr.outcomes hreport
  have hqueries : JointList Naming.SameWidth (steps.allQueries schema head) :=
    .cons hr.builder.sameWidth hr.queries
  have hwidth : Same fun counters =>
      (steps.allQueries schema head counters).map fun q => q.aliases.length :=
    (hqueries.map (f := fun _ q => q.aliases.length) fun _ hq => hq).allSame
  obtain ⟨widths, hwidths⟩ := hwidth
  refine ⟨statement, shown, outcomes, widths, fun counters => ⟨hstatement counters,
    hshown counters, houtcomes counters, ?_, ?_⟩⟩
  · rw [QueryScript.aliases, List.map_map]
    exact hwidths counters
  · intro l hl
    obtain ⟨q, -, rfl⟩ := List.mem_map.mp hl
    exact q.nodup_aliases

/-- Two joins, the second of which proposes the alias that the first gets when the counter is at 5,
and a subquery with a join of its own. -/
theorem QueryScript.compile_eq_template_of_employees :
    let employee : Model := { typeName := "Employee", table := "employee" }
    let head : QueryHead := { model := employee, aliasName := some "E" }
    let boss : JoinScript :=
      .call false .done (.parent (.given (.raw "boss")) (some "boss"))
        (.on false (.call false (.saved "boss" .done)
          (.compare .equal (.given (.raw "id")) (.column (.fragment (.built 0)))) .done) .done)
    let below : QueryScript := .scoped false (.join .inner employee (some "e") boss) .done
    let steps : QueryScript :=
      .scoped false (.join .left employee (some "e") boss) <|
      .scoped false (.join .cross employee (some "E5") .done) <|
      .scoped false (.filter (.call false (.query head below .done)
        (.inQuery (.given (.raw "id")) (.built 0)) .done)) .done
    let compiled (next : UInt64) : Fragment :=
      (steps.run ⟨[]⟩ "" 0 (head.start ⟨[]⟩) { counters := ⟨[(.shared, next)]⟩ }).builder.compile
    let aliases (next : UInt64) : Aliases := steps.aliases ⟨[]⟩ head ⟨[(.shared, next)]⟩
    aliases 1 = [["e", "e1", "e5"], ["e", "e2"]] ∧
    aliases 5 = [["e", "e5", "e56"], ["e", "e7"]] ∧
    (compiled 5).sql = "SELECT e.* FROM employee AS e " ++
      "LEFT JOIN employee AS e5 ON (e5.id = e.boss) CROSS JOIN employee AS e56 " ++
      "WHERE e.id IN (SELECT e.* FROM employee AS e " ++
      "INNER JOIN employee AS e7 ON (e7.id = e.boss))" ∧
    (∃ statement : Template, ∀ next, statement.fill? (aliases next) = some (compiled next)) ∧
    ∀ l ∈ aliases 5, l.Nodup := by
  intro employee head boss below steps compiled aliases
  have h5 : aliases 5 = [["e", "e5", "e56"], ["e", "e7"]] := by decide +kernel
  have hshort : ∀ l ∈ aliases 5, l.length ≤ UInt64.size := by
    rw [h5]
    decide +kernel
  obtain ⟨statement, _, _, _, h⟩ := compile_eq_template ⟨[]⟩ head steps
  refine ⟨by decide +kernel, h5, by decide +kernel, ⟨statement, fun next => (h _).1⟩, ?_⟩
  exact fun l hl => (h _).2.2.2.2 l hl (hshort l hl)

end SqlCompose
