import SqlCompose.Derive.Syntax.Values

/-! Declarations in blocks, and the statements among them. A declaration that has a part it
should not have, or that lacks one, is kept as it is. -/

namespace SqlCompose.Derive.Syntax

/-- A form that is never kept as it is. -/
def regular (p : Form) : Reader (Option (List Lexeme)) :=
  some <$> p

/-- Further parts of a declaration. -/
def followedBy (p : Form) (q : Reader (Option (List Lexeme))) :
    Reader (Option (List Lexeme)) := do
  let written ← p
  return (← q).map (written ++ ·)

/-! ### Functions -/

/-- Whether the group that comes first tells where a declaration is visible. -/
def beginsRestriction : List Lexeme → Bool
  | .mark '(' _ :: rest =>
    begins "in" rest || beginsAny ["crate", "self", "super"] rest && begins ")" (behind rest)
  | _ => false

/-- Where a declaration is visible. -/
def visibility : Form :=
  ifAhead (begins "pub") (take "pub" ++ ifAhead beginsRestriction group)

/-- The words before a function. -/
def qualifiers : Form :=
  optional "const" ++ optional "async" ++ optional "unsafe" ++ optional "safe" ++ convention

def beginsFunction (lexemes : List Lexeme) : Bool :=
  (qualifiers.run lexemes).any fun (_, rest) => begins "fn" rest

/-- The object that a method is called on. -/
def receiver (g : Grammar) : Form := do
  if begins "&" (← get) then
    take "&" ++ ifAhead beginsLifetime lifetime ++ optional "mut" ++ take "self"
  else optional "mut" ++ take "self" ++ ifAhead (begins ":") (take ":" ++ g (.type true))

/-- An input of a function. A type with arguments may stand without a name. -/
def input (g : Grammar) : Form :=
  attributes g ++ do
    let lexemes ← get
    if begins "..." lexemes then take "..."
    else
      receiver g <|> do
        if beginsName lexemes && begins "<" (behind lexemes) then
          return .word ['_'] :: .alone ':' :: (← g (.type true))
        else
          g .pattern ++ take ":" ++ do
            if begins "..." (← get) then take "..." else g (.type true)

/-- What a function takes and gives. -/
def signature (g : Grammar) : Form :=
  qualifiers ++ take "fn" ++ name ++ parameters g ++ within '(' (commaList (input g)) ++
    result g true ++ conditions g

/-! ### Types -/

/-- A field with a name. One of a structure without a name is kept as it is. -/
def namedField (g : Grammar) : Form :=
  attributes g ++ visibility ++ anyWord ++ take ":" ++ do
    let lexemes ← get
    if begins "struct" lexemes || begins "union" lexemes && begins "\x7b" (behind lexemes) then
      anyWord ++ group
    else g (.type true)

def namedFields (g : Grammar) : Form :=
  within '\x7b' (commaList (namedField g))

def tupleFields (g : Grammar) : Form :=
  within '(' (commaList (attributes g ++ visibility ++ g (.type true)))

/-- What follows the parameters of a structure. -/
def structureBody (g : Grammar) : Form :=
  conditions g ++ do
    let lexemes ← get
    if begins "(" lexemes then tupleFields g ++ conditions g ++ take ";"
    else if begins "\x7b" lexemes then namedFields g
    else take ";"

/-- A variant of an enumeration. Where it is visible is left out. -/
def variant (g : Grammar) : Form := do
  let attributes ← attributes g
  discard visibility
  let fields (lexemes : List Lexeme) : Form :=
    if begins "\x7b" lexemes then namedFields g
    else ifAhead (begins "(") (tupleFields g)
  return attributes ++
    (← name ++ (do fields (← get)) ++ ifAhead (begins "=") (take "=" ++ g (.value true)))

/-- Where the conditions of a type declaration may stand. -/
inductive ConditionPlace where
  | beforeType
  | behindType
  | anywhere
deriving DecidableEq

/-- A declared type. `isBounded` tells whether it is given by bounds, and `isDefined` whether
it is equal to a type. -/
structure TypeParts where
  lexemes : List Lexeme
  isBounded : Bool
  isDefined : Bool

/-- The parts of a type declaration. -/
def typeParts (g : Grammar) (place : ConditionPlace) : Reader TypeParts := do
  let start ← take "type" ++ name ++ parameters g
  let isBounded := begins ":" (← get)
  let bounds ← colonBounds g
  let before ← ifAhead (fun _ => place != .behindType) (conditions g)
  let isDefined := begins "=" (← get)
  let rest ← ifAhead (begins "=") (take "=" ++ g (.type true)) ++
    ifAhead (fun _ => place != .beforeType) (conditions g) ++ take ";"
  return ⟨start ++ bounds ++ before ++ rest, isBounded, isDefined⟩

/-- A type declaration that has to be equal to a type. -/
def definedType (g : Grammar) (place : ConditionPlace) : Reader (Option (List Lexeme)) := do
  let parts ← typeParts g place
  return if parts.isDefined && !parts.isBounded then some parts.lexemes else none

/-! ### Values and macros -/

/-- A constant. It has neither parameters nor conditions, and a value if it needs one. -/
def constantItem (g : Grammar) (needsValue : Bool) : Reader (Option (List Lexeme)) := do
  let start ← take "const" ++ anyWord
  let hasParameters := begins "<" (← get)
  let type ← parameters g ++ take ":" ++ g (.type true)
  let hasValue := begins "=" (← get)
  let value ← ifAhead (begins "=") (take "=" ++ g (.value true))
  let hasConditions := begins "where" (← get)
  let rest ← conditions g ++ take ";"
  return if hasParameters || hasConditions || needsValue && !hasValue then none
    else some (start ++ type ++ value ++ rest)

/-- A static variable. It has a type, and a value if it needs one and only then. -/
def staticItem (g : Grammar) (needsValue : Bool) : Reader (Option (List Lexeme)) := do
  let isMarked := beginsAny ["unsafe", "safe"] (← get)
  let start ← optional "unsafe" ++ optional "safe" ++ take "static" ++ optional "mut" ++ name
  let hasType := begins ":" (← get)
  let type ← ifAhead (begins ":") (take ":" ++ g (.type true))
  let hasValue := begins "=" (← get)
  let rest ← ifAhead (begins "=") (take "=" ++ g (.value true)) ++ take ";"
  return if isMarked || !hasType || hasValue != needsValue then none
    else some (start ++ type ++ rest)

/-- A macro and the text that it is given. -/
def macroItem : Form :=
  plainPath ++ take "!" ++ ifAhead beginsWord anyWord ++ group ++ optional ";"

/-- All up to a semicolon, which is included. -/
def toSemicolon : Form :=
  many (fun lexemes => !lexemes.isEmpty && !begins ";" lexemes) unit ++ take ";"

/-! ### Members -/

/-- A function with statements, or nothing if it has none. -/
def definedFunction (g : Grammar) : Reader (Option (List Lexeme)) := do
  let signature ← signature g
  if begins ";" (← get) then
    discard (take ";")
    return none
  else return signature ++ (← block g)

/-- A member of a trait. It is neither visible nor a default by itself. -/
def traitMember (g : Grammar) : Form :=
  orVerbatim do
    let attributes ← attributes g
    let marks ← visibility ++ optional "default"
    let lexemes ← get
    let written ←
      if beginsFunction lexemes then
        regular (signature g ++ do if begins ";" (← get) then take ";" else block g)
      else if begins "const" lexemes then constantItem g false
      else if begins "type" lexemes then
        regular (do return (← typeParts g .behindType).lexemes)
      else regular macroItem
    return if marks.isEmpty then written.map (attributes ++ ·) else none

/-- A member of an implementation. -/
def implementationMember (g : Grammar) : Form :=
  let isDefault (lexemes : List Lexeme) : Bool :=
    begins "default" lexemes && !begins "!" (behind lexemes)
  orVerbatim (followedBy (attributes g ++ visibility ++ ifAhead isDefault (take "default")) do
    let lexemes ← get
    if beginsFunction lexemes then definedFunction g
    else if begins "const" lexemes then constantItem g true
    else if begins "type" lexemes then definedType g .behindType
    else regular macroItem)

/-- A member of a foreign module, which is declared and not defined. -/
def foreignMember (g : Grammar) : Form :=
  orVerbatim (followedBy (attributes g ++ visibility) do
    let lexemes ← get
    if beginsFunction lexemes then
      let isSafe := (qualifiers.run lexemes).any fun (words, _) => words.any (begins "safe" [·])
      let signature ← signature g
      if begins "\x7b" (← get) then
        discard (block g)
        return none
      else
        let written := signature ++ (← take ";")
        return if isSafe then none else some written
    else if begins "static" lexemes || begins "static" (behind lexemes) then staticItem g false
    else if begins "type" lexemes then
      let parts ← typeParts g .anywhere
      return if parts.isBounded || parts.isDefined then none else some parts.lexemes
    else regular macroItem)

/-- Members in braces, behind the attributes of what they belong to. -/
def members (g : Grammar) (member : Form) : Form :=
  within '\x7b' (innerAttributes g ++ all member)

/-! ### Traits and implementations -/

/-- A trait, or another name for bounds. -/
def traitItem (g : Grammar) : Form :=
  optional "unsafe" ++ optional "auto" ++ take "trait" ++ name ++ parameters g ++ do
    if begins "=" (← get) then take "=" ++ bounds g ++ conditions g ++ take ";"
    else colonBounds g ++ conditions g ++ members g (traitMember g)

/-- Whether the angle bracket that comes first holds parameters, rather than a type. -/
def beginsParameters (lexemes : List Lexeme) : Bool :=
  let first := behind lexemes
  let second := behind first
  begins "<" lexemes && (beginsAny [">", "#", "const"] first ||
    (beginsLifetime first || beginsName first) &&
      (beginsColon second || beginsAny [">", ",", "="] second))

/-- Whether a trait is given by its path alone, in an implementation for a type. -/
def beginsTraitFor (g : Grammar) (lexemes : List Lexeme) : Bool :=
  ((traitPath g).run lexemes).any fun (_, rest) => begins "for" rest

/-- An implementation. It is of a trait that is given by its path, or of none, and not
constant. -/
def implementation (g : Grammar) : Reader (Option (List Lexeme)) := do
  let start ← optional "default" ++ optional "unsafe" ++ take "impl" ++
    ifAhead beginsParameters (parameters g)
  let mark ← optional "?" ++ optional "const"
  let polarity ← ifAhead (fun lexemes => begins "!" lexemes && !begins "\x7b" (behind lexemes))
    (take "!")
  let isOfTrait := beginsTraitFor g (← get)
  let first ← g (.type true)
  let isForType := begins "for" (← get)
  let rest ← ifAhead (begins "for") (take "for" ++ g (.type true)) ++ conditions g ++
    members g (implementationMember g)
  return if mark.isEmpty && isForType == isOfTrait then some (start ++ polarity ++ first ++ rest)
    else none

/-! ### Items -/

/-- Whether the two words come first. -/
def beginsWords (first second : String) (lexemes : List Lexeme) : Bool :=
  begins first lexemes && begins second (behind lexemes)

/-- An item behind its attributes and where it is visible. -/
def itemBody (g : Grammar) (isVisible : Bool) : Reader (Option (List Lexeme)) := do
  let lexemes ← get
  let next := if begins "unsafe" lexemes then behind lexemes else lexemes
  if beginsFunction lexemes then definedFunction g
  else if begins "use" lexemes || beginsWords "extern" "crate" lexemes then regular toSemicolon
  else if begins "extern" next then
    regular (optional "unsafe" ++ convention ++ members g (foreignMember g))
  else if begins "static" lexemes then staticItem g true
  else if begins "const" lexemes then constantItem g true
  else if begins "trait" next || beginsWords "auto" "trait" next then regular (traitItem g)
  else if begins "mod" next then
    regular (optional "unsafe" ++ take "mod" ++ name ++ do
      if begins ";" (← get) then take ";" else members g (g .item))
  else if begins "type" lexemes then definedType g .beforeType
  else if begins "struct" lexemes then
    regular (take "struct" ++ name ++ parameters g ++ structureBody g)
  else if begins "enum" lexemes then
    regular (take "enum" ++ name ++ parameters g ++ conditions g ++
      within '\x7b' (commaList (variant g)))
  else if begins "union" lexemes && beginsName (behind lexemes) then
    regular (take "union" ++ name ++ parameters g ++ conditions g ++ namedFields g)
  else if begins "impl" next || begins "default" lexemes && !begins "!" (behind lexemes) then
    let written ← implementation g
    return if isVisible then none else written
  else if begins "macro" lexemes then
    discard (take "macro" ++ name ++ ifAhead (begins "(") group ++ group)
    return none
  else regular macroItem

/-- An item. -/
def item (g : Grammar) : Form :=
  orVerbatim do
    let attributes ← attributes g
    let visibility ← visibility
    return (← itemBody g !visibility.isEmpty).map (attributes ++ visibility ++ ·)

/-! ### Statements -/

/-- Whether an item comes first, apart from macros. -/
def beginsItem (lexemes : List Lexeme) : Bool :=
  let next := behind lexemes
  let third := behind next
  beginsAny
    ["pub", "extern", "use", "fn", "mod", "type", "struct", "enum", "trait", "impl", "macro"]
    lexemes ||
  begins "crate" lexemes && !begins "::" next ||
  begins "static" lexemes && (begins "mut" next || beginsName next) ||
  begins "const" lexemes && !beginsAny ["\x7b", "static", "move", "|"] next &&
    !(begins "async" next && !beginsAny ["unsafe", "extern", "fn"] third) ||
  begins "unsafe" lexemes && !begins "\x7b" next ||
  begins "async" lexemes && beginsAny ["unsafe", "extern", "fn"] next ||
  begins "union" lexemes && beginsName next ||
  beginsWords "auto" "trait" lexemes ||
  begins "default" lexemes && beginsAny ["unsafe", "impl"] next

/-- The lexemes behind a path without arguments and an exclamation mark, if they come
first. -/
def behindMacro? (lexemes : List Lexeme) : Option (List Lexeme) := do
  let (_, rest) ← plainPath.run lexemes
  if begins "!" rest then some (behind rest) else none

/-- Whether a macro comes first that is given a name. -/
def beginsMacroItem (lexemes : List Lexeme) : Bool :=
  (behindMacro? lexemes).any fun rest => beginsName rest || begins "try" rest

/-- Whether a macro comes first whose text is in braces, and which no access follows. -/
def beginsMacroBlock (lexemes : List Lexeme) : Bool :=
  (behindMacro? lexemes).any fun rest => begins "\x7b" rest && !beginsAccess (behind rest)

/-- A variable. -/
def variableItem (g : Grammar) : Form :=
  take "let" ++ g .pattern ++ ifAhead (begins ":") (take ":" ++ g (.type true)) ++
    ifAhead (begins "=") (take "=" ++ g (.value true) ++
      ifAhead (begins "else") (take "else" ++ block g)) ++
    take ";"

/-- One of several statements. -/
def statementOf (g : Grammar) : Form := do
  let lexemes := behindAttributes (← get)
  if begins ";" lexemes then take ";"
  else if beginsItem lexemes || beginsMacroItem lexemes then g .item
  else if begins "let" lexemes then attributes g ++ variableItem g
  else if beginsMacroBlock lexemes then attributes g ++ macroItem
  else g .statement ++ optional ";"

/-- The statements of a block, behind its attributes. -/
def statements (g : Grammar) : Form :=
  innerAttributes g ++ all (statementOf g)

end SqlCompose.Derive.Syntax
