import SqlCompose.Derive.Syntax

/-! Pieces of declarations as they are written out again, without what separates their
lexemes. -/

namespace SqlCompose.Derive

/-- A type as it is written out again. A text that is no type keeps its lexemes. -/
def typeText (s : String) : String :=
  let lexemes := Lexeme.ofText s
  Lexeme.join ((Syntax.writtenType? lexemes).getD lexemes)

/-- A name or a visibility as it is written out again, without the attributes in front. -/
def plainText (s : String) : String :=
  Lexeme.join (Syntax.behindAttributes (Lexeme.ofText s))

/-- Whether there is a parameter between the angle brackets that a text starts with. -/
def hasParameters (generics : String) : Bool :=
  let lexemes := Lexeme.ofText generics
  Syntax.begins "<" lexemes && !Syntax.begins ">" (Syntax.behind lexemes)

end SqlCompose.Derive
