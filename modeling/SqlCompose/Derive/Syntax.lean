import SqlCompose.Derive.Syntax.Items

/-! The grammar of types, and of what is in them. -/

namespace SqlCompose.Derive.Syntax

/-- The form of each phrase, given the forms of the phrases in it. -/
def rules (g : Grammar) : Grammar
  | .type isSum => type g isSum
  | .bound => bound g
  | .value isOpen => value g isOpen
  | .operand isOpen => operand g isOpen
  | .pattern => pattern g
  | .statement => statement g
  | .statements => statements g
  | .item => item g

/-- Phrases that contain each other at most `depth` deep. -/
def grammar : (depth : Nat) → Grammar
  | 0 => fun _ => failure
  | depth + 1 => rules (grammar depth)

/-- A type as it is written out again, if the lexemes have that form. At most four phrases
start at the same lexeme. -/
def writtenType? (lexemes : List Lexeme) : Option (List Lexeme) := do
  let (written, rest) ← (grammar (4 * lexemes.length + 4) (.type true)).run lexemes
  if rest.isEmpty then some written else none

end SqlCompose.Derive.Syntax
