import SqlCompose.Script.Basic

/-! Writing the arguments of a call: whatever has to be built for it is noted on the way,
and numbered in the order in which it is noted. -/

namespace SqlCompose

/-- What has been noted for a call so far. -/
structure Needs where
  steps : List (Preparation → Preparation) := []
  built : Nat := 0

abbrev Prepared (m : Type → Type) := StateT Needs m

namespace Prepared

variable {m : Type → Type} [Monad m]

/-- Notes something to be built, and gives the argument that refers to it. -/
def build (step : Preparation → Preparation) : Prepared m FragmentArg := do
  let needs ← get
  set { needs with steps := needs.steps ++ [step], built := needs.built + 1 }
  return .built needs.built

/-- Notes scalars that have to be storable. -/
def requireStorable (scalars : List Scalar) : Prepared m Unit :=
  modify fun needs => { needs with steps := needs.steps ++ [.storable scalars] }

/-- The arguments of a call, with all that is to be built before it. -/
def finish {α : Type} (arguments : Prepared m α) : m (Preparation × α) := do
  let (a, needs) ← arguments.run {}
  return (needs.steps.foldr (fun step rest => step rest) .done, a)

end Prepared

end SqlCompose
