import SqlCompose.Proofs.Fragment
import SqlCompose.Proofs.Renaming.Families

/-! Statements with places for aliases. A template is a list of texts and of references to scopes of
several queries; the aliases of these scopes turn it into a fragment. -/

namespace SqlCompose

/-! ### Templates -/

/-- A text, or the alias of a scope of one of several queries. -/
inductive TemplatePiece where
  | text (s : String)
  | scope (query number : Nat)
deriving DecidableEq

/-- A statement up to the names of its aliases. -/
structure Template where
  pieces : List TemplatePiece
  params : List Value
deriving DecidableEq

/-- The aliases of several queries, each with those of its scopes in order. -/
abbrev Aliases := List (List String)

/-- The text of a piece, if it refers to a scope that there is. -/
def TemplatePiece.text? (names : Aliases) : TemplatePiece → Option String
  | text s => some s
  | scope query number => names[query]?.bind (·[number]?)

namespace Template

/-- The text of pieces, if there are all scopes that they refer to. -/
def text? (names : Aliases) : List TemplatePiece → Option String
  | [] => some ""
  | piece :: rest => do return (← piece.text? names) ++ (← text? names rest)

/-- A template with the aliases of the scopes in their places. -/
def fill? (names : Aliases) (t : Template) : Option Fragment :=
  (text? names t.pieces).map fun sql => ⟨sql, t.params⟩

/-- One template after the other. -/
def append (t u : Template) : Template :=
  ⟨t.pieces ++ u.pieces, t.params ++ u.params⟩

theorem text?_cons {names : Aliases} {piece : TemplatePiece} {l : List TemplatePiece} {s t : String}
    (hpiece : piece.text? names = some s) (hl : text? names l = some t) :
    text? names (piece :: l) = some (s ++ t) := by
  rw [text?, hpiece, hl]
  rfl

theorem text?_append {names : Aliases} {l m : List TemplatePiece} {s t : String}
    (hl : text? names l = some s) (hm : text? names m = some t) :
    text? names (l ++ m) = some (s ++ t) := by
  induction l generalizing s with
  | nil =>
    cases hl
    rw [List.nil_append, hm, String.empty_append]
  | cons piece l ih =>
    obtain ⟨first, hfirst, hl⟩ := Option.bind_eq_some_iff.mp hl
    obtain ⟨rest, hrest, hl⟩ := Option.bind_eq_some_iff.mp hl
    cases hl
    rw [List.cons_append, String.append_assoc]
    exact text?_cons hfirst (ih hrest)

theorem fill?_append {names : Aliases} {t u : Template} {f g : Fragment}
    (ht : t.fill? names = some f) (hu : u.fill? names = some g) :
    (t.append u).fill? names = some (f ++ g) := by
  obtain ⟨s, hs, rfl⟩ := Option.map_eq_some_iff.mp ht
  obtain ⟨r, hr, rfl⟩ := Option.map_eq_some_iff.mp hu
  exact Option.map_eq_some_iff.mpr ⟨s ++ r, text?_append hs hr, rfl⟩

end Template

/-! ### Fragments that come from one template -/

/-- The aliases of the scopes that a program opens, under each of its histories. -/
abbrev Naming (ι : Type) := ι → Aliases

namespace Naming

variable {ι : Type} (N : Naming ι)

/-- An alias that belongs to one scope, or one that is given and does not depend on the history. -/
def Alias (a : ι → String) : Prop :=
  ∃ piece : TemplatePiece, ∀ i, piece.text? (N i) = some (a i)

/-- Fragments that all come from one template. Either all are empty or none is. -/
structure Templated (f : ι → Fragment) : Prop where
  template : ∃ t : Template, ∀ i, t.fill? (N i) = some (f i)
  isEmpty : Same fun i => (f i).isEmpty

variable {N}

theorem Alias.given (s : String) : N.Alias fun _ => s :=
  ⟨.text s, fun _ => rfl⟩

namespace Templated

variable {f g : ι → Fragment}

/-- One fragment, whatever the history. -/
theorem same (f : Fragment) : N.Templated fun _ => f where
  template := ⟨⟨[.text f.sql], f.params⟩, fun i => by
    simp [Template.fill?, Template.text?, TemplatePiece.text?]⟩
  isEmpty := .rfl

theorem append (hf : N.Templated f) (hg : N.Templated g) : N.Templated fun i => f i ++ g i where
  template := by
    obtain ⟨t, ht⟩ := hf.template
    obtain ⟨u, hu⟩ := hg.template
    exact ⟨t.append u, fun i => Template.fill?_append (ht i) (hu i)⟩
  isEmpty := by
    simpa only [Fragment.isEmpty_append] using hf.isEmpty.map₂ hg.isEmpty (· && ·)

theorem appendText (hf : N.Templated f) (s : String) : N.Templated fun i => (f i).appendText s :=
  hf.append (same (.verbatim s))

theorem parenthesized (hf : N.Templated f) : N.Templated fun i => (f i).parenthesized :=
  ((same (.verbatim "(")).append hf).append (same (.verbatim ")"))

/-- An alias between texts that are not both empty. -/
theorem aliased {a : ι → String} (ha : N.Alias a) {before after : String}
    (h : before ≠ "" ∨ after ≠ "") : N.Templated fun i => .verbatim (before ++ a i ++ after) where
  template := by
    obtain ⟨piece, hpiece⟩ := ha
    refine ⟨⟨[.text before, piece, .text after], []⟩, fun i => ?_⟩
    have htext : Template.text? (N i) [.text before, piece, .text after] =
        some (before ++ (a i ++ (after ++ ""))) :=
      Template.text?_cons rfl (Template.text?_cons (hpiece i) (Template.text?_cons rfl rfl))
    rw [Template.fill?, htext, String.append_empty, ← String.append_assoc]
    rfl
  isEmpty := by
    -- the alias itself may be empty
    refine ⟨false, fun i => ?_⟩
    rcases h with h | h <;> simp [h]

/-- An alias before a text. -/
theorem ofAlias {a : ι → String} (ha : N.Alias a) {after : String} (h : after ≠ "") :
    N.Templated fun i => .verbatim (a i ++ after) := by
  have haliased : N.Templated fun i => .verbatim ("" ++ a i ++ after) := aliased ha (.inr h)
  simpa only [String.empty_append] using haliased

/-- An alias after a text. -/
theorem toAlias {a : ι → String} (ha : N.Alias a) {before : String} (h : before ≠ "") :
    N.Templated fun i => .verbatim (before ++ a i) := by
  have haliased : N.Templated fun i => .verbatim (before ++ a i ++ "") := aliased ha (.inl h)
  simpa only [String.append_empty] using haliased

theorem join (separator : String) {l : ι → List Fragment} (h : JointList N.Templated l) :
    N.Templated fun i => .join separator (l i) := by
  induction h with
  | nil => exact same .empty
  | cons ha hrest ih =>
    cases hrest with
    | nil => exact ha
    | cons _ _ => exact (ha.append (same (.verbatim separator))).append ih

/-- The items of a FROM clause, with a blank before each. -/
theorem items {l : ι → List Fragment} (h : JointList N.Templated l) :
    N.Templated fun i => (l i).foldr (fun item rest => .verbatim " " ++ item ++ rest) .empty :=
  h.foldr (S := N.Templated) (fun _ _ ha hb => ((same (.verbatim " ")).append ha).append hb)
    (same .empty)

end Templated

/-- Lists of fragments come from one list of templates. -/
theorem exists_templates {l : ι → List Fragment} (h : JointList N.Templated l) :
    ∃ ts : List Template, ∀ i, ts.mapM (Template.fill? (N i)) = some (l i) := by
  induction h with
  | nil => exact ⟨[], fun i => rfl⟩
  | cons ha _ ih =>
    obtain ⟨t, ht⟩ := ha.template
    obtain ⟨ts, hts⟩ := ih
    exact ⟨t :: ts, fun i => by simp [ht, hts]⟩

end Naming

end SqlCompose
