/-! Identifiers: the texts that are taken for column names and get qualified, and the
stricter form that declared names must have. -/

namespace SqlCompose.Text

/-- ASCII letters and digits, underscores and asterisks only. The empty text qualifies. -/
def isPlainIdentifier (s : String) : Bool :=
  s.toList.all fun c => c.isAlphanum || c == '_' || c == '*'

/-- What keeps a text from being a declared name. -/
inductive IdentifierFault where
  | empty
  | leading (c : Char)
  | inner (c : Char)
deriving DecidableEq

/-- A declared name starts with an ASCII letter or an underscore and goes on with ASCII
letters, digits and underscores. The first character that breaks this is reported. -/
def identifierFault? (s : String) : Option IdentifierFault :=
  match s.toList with
  | [] => some .empty
  | first :: rest =>
    if first.isAlpha || first == '_' then
      (rest.find? fun c => !(c.isAlphanum || c == '_')).map .inner
    else some (.leading first)

end SqlCompose.Text
