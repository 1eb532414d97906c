import SqlCompose.Derive.Syntax.Path

/-! Types, and the patterns that values of a type are taken apart with. -/

namespace SqlCompose.Derive.Syntax

/-! ### Types -/

/-- The bounds of a type that is given by them. -/
def boundsOfType (g : Grammar) (isSum : Bool) : Form :=
  if isSum then bounds g else g .bound

/-- More bounds of a type, if a plus follows. -/
def moreBounds (g : Grammar) : Form :=
  ifAhead (begins "+") (take "+" ++ bounds g)

/-- Types in parentheses, or a single bound of a type. -/
def typeInParentheses (g : Grammar) (isSum : Bool) : Form := do
  let isRelaxed := begins "?" ((← get).drop 1)
  let written ← within '(' (if isRelaxed then g .bound else commaList (g (.type true)))
  if isSum || isRelaxed then return written ++ (← moreBounds g) else return written

/-- The convention that a function is called by. -/
def convention : Form :=
  ifAhead (begins "extern") (take "extern" ++ ifAhead beginsLiteral literal)

/-- An input of a function type. The object that a method is called on is kept as it is if
it can be changed. -/
def inputOfType (g : Grammar) (isFirst : Bool) : Form :=
  let named (lexemes : List Lexeme) : Bool := beginsWord lexemes && beginsColon (behind lexemes)
  attributes g ++ orVerbatim do
    let isChanged := isFirst && begins "mut" (← get)
    let written ← (if isChanged then take "mut" else return []) ++
      ifAhead named (anyWord ++ take ":") ++
      ifAhead (!·.isEmpty) do
        let lexemes ← get
        if begins "..." lexemes then take "..."
        else if isChanged && begins "self" lexemes then take "self"
        else g (.type true)
    return if isChanged then none else some written

/-- The inputs of a function type. -/
def inputsOfType (g : Grammar) : Form :=
  ifAhead (!·.isEmpty) (inputOfType g true) ++
    ifAhead (begins ",") (take "," ++ commaList (inputOfType g false))

/-- The type of a function. -/
def functionType (g : Grammar) : Form :=
  optional "unsafe" ++ convention ++ take "fn" ++ within '(' (inputsOfType g) ++ result g false

/-- A type that starts with a path, behind lifetimes that it holds for. A macro loses
them. -/
def pathType (g : Grammar) (isSum : Bool) (lifetimes : List Lexeme) : Form := do
  let path ← typePath g
  if isMacroName path (← get) then return path ++ (← macroText)
  else if isSum then return lifetimes ++ path ++ (← moreBounds g)
  else return lifetimes ++ path

/-- A type that starts with a word or mark of its own. One of an object behind a star is
kept as it is. -/
def markedType (g : Grammar) (isSum : Bool) : Form := do
  let lexemes ← get
  if begins "(" lexemes then typeInParentheses g isSum
  else if begins "dyn" lexemes then
    if begins "*" (behind lexemes) then
      verbatim (take "dyn" ++ take "*" ++ boundsOfType g isSum)
    else take "dyn" ++ boundsOfType g isSum
  else if begins "impl" lexemes then take "impl" ++ boundsOfType g isSum
  else if beginsLifetime lexemes then bounds g
  else if begins "[" lexemes then
    within '[' (g (.type true) ++ ifAhead (begins ";") (take ";" ++ g (.value true)))
  else if begins "*" lexemes then
    take "*" ++ (if begins "mut" (behind lexemes) then take "mut" else take "const") ++
      g (.type false)
  else if begins "&" lexemes then
    take "&" ++ ifAhead beginsLifetime lifetime ++ optional "mut" ++ g (.type false)
  else if begins "!" lexemes then take "!"
  else if begins "_" lexemes then take "_"
  else functionType g

/-- A type. -/
def type (g : Grammar) (isSum : Bool) : Form := do
  let lifetimes ← binder g
  let lexemes ← get
  if beginsName lexemes || beginsAny ("::" :: "<" :: pathWords) lexemes then
    pathType g isSum lifetimes
  else return lifetimes ++ (← markedType g isSum)

/-! ### Patterns -/

/-- Patterns for several cases, with a bar between. -/
def cases (g : Grammar) : Form :=
  optional "|" ++ g .pattern ++
    many (fun lexemes => begins "|" lexemes && !begins "||" lexemes && !begins "|=" lexemes)
      (take "|" ++ g .pattern)

/-- The dots of a range in a pattern. Three dots include the end, and are written that
way. -/
def dots : Form := do
  let lexemes ← get
  if begins "..." lexemes then
    discard (take "...")
    return [.mark '.' true, .mark '.' true, .alone '=']
  else if begins "..=" lexemes then take "..="
  else take ".."

/-- The first or last value of a range in a pattern. -/
def edge (g : Grammar) : Form := do
  let lexemes ← get
  if beginsLiteral lexemes then literal
  else if begins "const" lexemes then take "const" ++ block g
  else valuePath g

/-- Whether a range in a pattern ends without a last value. -/
def endsRange (lexemes : List Lexeme) : Bool :=
  lexemes.isEmpty || beginsColon lexemes || beginsAny ["|", "=", ",", ";", "if"] lexemes

/-- The dots of a range in a pattern and its last value, if it has one. -/
def restOfRange (g : Grammar) : Form :=
  dots ++ ifAhead (!endsRange ·) (edge g)

/-- The pattern of a field. A boxed one is kept as it is. -/
def fieldPattern (g : Grammar) : Form :=
  attributes g ++ do
    let lexemes ← get
    if begins ".." lexemes then take ".."
    else if begins "box" lexemes then
      verbatim (take "box" ++ optional "ref" ++ optional "mut" ++ name)
    else
      optional "ref" ++ optional "mut" ++ takeMany 1 ++ ifAhead (begins ":") (take ":" ++ cases g)

/-- A pattern that starts with a path. -/
def pathPattern (g : Grammar) : Form :=
  pathAnd (valuePath g) do
    let lexemes ← get
    if begins "\x7b" lexemes then within '\x7b' (commaList (fieldPattern g))
    else if begins "(" lexemes then within '(' (commaList (cases g))
    else ifAhead (begins "..") (restOfRange g)

/-- Whether a path is the start of a pattern, rather than a name for what it matches. -/
def beginsPathPattern (lexemes : List Lexeme) : Bool :=
  beginsAny ["::", "<", "Self", "super", "crate"] lexemes ||
    begins "self" lexemes && begins "::" (behind lexemes) ||
    beginsName lexemes && beginsAny ["::", "!", "\x7b", "(", ".."] (behind lexemes)

/-- A pattern. A boxed one is kept as it is. -/
def pattern (g : Grammar) : Form := do
  let lexemes ← get
  if beginsPathPattern lexemes then pathPattern g
  else if begins "_" lexemes then take "_"
  else if begins "box" lexemes then verbatim (take "box" ++ g .pattern)
  else if beginsLiteral lexemes || begins "const" lexemes then
    edge g ++ ifAhead (begins "..") (restOfRange g)
  else if begins "&" lexemes then take "&" ++ optional "mut" ++ g .pattern
  else if begins "(" lexemes then within '(' (commaList (cases g))
  else if begins "[" lexemes then within '[' (commaList (cases g))
  else if begins ".." lexemes then restOfRange g
  else
    optional "ref" ++ optional "mut" ++ anyWord ++ ifAhead (begins "@") (take "@" ++ g .pattern)

end SqlCompose.Derive.Syntax
