import SqlCompose.Derive.Syntax.Types

/-! Values: operands with operators between them. -/

namespace SqlCompose.Derive.Syntax

/-! ### Operators -/

/-- The operators between two values, longer ones before those they start with. -/
def operators : List String := [
  "<<=", ">>=", "+=", "-=", "*=", "/=", "%=", "^=", "&=", "|=", "&&", "||", "<<", ">>", "==",
  "<=", "!=", ">=", "+", "-", "*", "/", "%", "^", "&", "|", "<", ">"]

/-- Whether a value cannot be the end of a range. -/
def endsOpenRange (isOpen : Bool) (lexemes : List Lexeme) : Bool :=
  lexemes.isEmpty || begins "." lexemes && !begins ".." lexemes ||
    !isOpen && begins "\x7b" lexemes ||
    beginsAny [
      ",", ";", "?", "=>", "=", "+", "/", "%", "^", ">", "<=", "!=", "-=", "*=", "&=", "|=",
      "<<=", "as"] lexemes

/-- The dots of a range and its end, if it has one. -/
def rangeFrom (g : Grammar) (isOpen : Bool) : Form := do
  if begins "..=" (← get) then take "..=" ++ g (.operand isOpen)
  else take ".." ++ ifAhead (!endsOpenRange isOpen ·) (g (.operand isOpen))

def beginsAssignment (lexemes : List Lexeme) : Bool :=
  begins "=" lexemes && !begins "=>" lexemes

/-- An operator and what it is applied to besides the value in front. -/
def operation (g : Grammar) (isOpen : Bool) : Form := do
  let lexemes ← get
  match operators.find? (begins · lexemes) with
  | some operator => take operator ++ g (.operand isOpen)
  | none =>
    if begins ".." lexemes then rangeFrom g isOpen
    else if begins "as" lexemes then take "as" ++ g (.type false)
    else take "=" ++ g (.operand isOpen)

def operations (g : Grammar) (isOpen : Bool) : Form :=
  many (fun lexemes => beginsAssignment lexemes || beginsAny (".." :: "as" :: operators) lexemes)
    (operation g isOpen)

/-! ### What follows an operand -/

/-- Values in parentheses. -/
def inputs (g : Grammar) : Form :=
  within '(' (commaList (g (.value true)))

/-- Whether a part of an operand is taken or asked for. -/
def beginsAccess (lexemes : List Lexeme) : Bool :=
  begins "?" lexemes || begins "." lexemes && !begins ".." lexemes

/-- The name or number of a field. A number may have a point behind it, and then another
field. -/
def field : Form := do
  let written ← takeMany 1
  match written with
  | [.literal text] => if text.getLast? = some '.' then return written ++ (← takeMany 1)
  | _ => pure ()
  return written

/-- A call, an index, a field or a question mark behind an operand. -/
def access (g : Grammar) : Form := do
  let lexemes ← get
  if begins "(" lexemes then inputs g
  else if begins "[" lexemes then within '[' (g (.value true))
  else if begins "?" lexemes then take "?"
  else take "." ++ field ++ ifAhead (begins "::") (take "::" ++ arguments g)

/-- Whether something comes first that makes an operand of the one in front. -/
def goesOnOperand (lexemes : List Lexeme) : Bool :=
  beginsAccess lexemes || beginsAny ["(", "["] lexemes

def accesses (g : Grammar) : Form :=
  many goesOnOperand (access g)

/-! ### Blocks -/

/-- Whether the lifetimes of a closure come first. -/
def beginsBinder (lexemes : List Lexeme) : Bool :=
  begins "for" lexemes && begins "<" (behind lexemes) &&
    (beginsLifetime (behindMany 2 lexemes) || begins ">" (behindMany 2 lexemes))

/-- Whether a value comes first that ends with a block. -/
def beginsBlock (lexemes : List Lexeme) : Bool :=
  beginsAny ["if", "while", "loop", "match", "unsafe", "\x7b"] lexemes ||
    beginsAny ["try", "const"] lexemes && begins "\x7b" (behind lexemes) ||
    begins "for" lexemes && !beginsBinder lexemes || beginsLifetime lexemes

/-- A value with blocks for whether a condition holds. -/
def choice (g : Grammar) : Form :=
  let branch : Form := take "if" ++ g (.value false) ++ block g
  branch ++
    many (fun lexemes => begins "else" lexemes && begins "if" (behind lexemes))
      (take "else" ++ branch) ++
    ifAhead (begins "else") (take "else" ++ block g)

/-- A value for one of several cases. -/
def arm (g : Grammar) : Form :=
  attributes g ++ cases g ++ ifAhead (begins "if") (take "if" ++ g (.value true)) ++
    take "=>" ++ g .statement ++ optional ","

/-- A value that starts with the word for its block, or with a name for it. -/
def blockValue (g : Grammar) : Form := do
  let lexemes ← get
  if begins "if" lexemes then choice g
  else if begins "match" lexemes then
    take "match" ++ g (.value false) ++ within '\x7b' (innerAttributes g ++ all (arm g))
  else
    ifAhead beginsLifetime (lifetime ++ take ":") ++ do
      let lexemes ← get
      if begins "while" lexemes then take "while" ++ g (.value false) ++ block g
      else if begins "for" lexemes then
        take "for" ++ cases g ++ take "in" ++ g (.value false) ++ block g
      else ifAhead (beginsAny ["loop", "try", "unsafe", "const"]) anyWord ++ block g

def beginsBuiltin (lexemes : List Lexeme) : Bool :=
  begins "builtin" lexemes && begins "#" (behind lexemes)

/-- Whether a value comes first that is kept as it is: a call that takes the place of this
one, or a built-in of the compiler. -/
def beginsVerbatim (lexemes : List Lexeme) : Bool :=
  begins "become" lexemes || beginsBuiltin lexemes && !goesOnOperand (behindMany 4 lexemes)

/-- A value as a statement. What is behind its block belongs to it only if it is a field of
the block's value or asks for it. Values that are kept as they are lose the attributes in
front. -/
def statement (g : Grammar) : Form := do
  let attributes ← attributes g
  let lexemes ← get
  if beginsVerbatim lexemes then g (.value true)
  else if beginsBlock lexemes then
    return attributes ++
      (← blockValue g ++ ifAhead beginsAccess (accesses g ++ operations g true))
  else return attributes ++ (← g (.value true))

/-! ### Closures -/

def beginsClosure (lexemes : List Lexeme) : Bool :=
  beginsAny ["|", "move", "static"] lexemes || beginsBinder lexemes ||
    begins "const" lexemes && !begins "\x7b" (behind lexemes) ||
    begins "async" lexemes && beginsAny ["|", "move"] (behind lexemes)

/-- A parameter of a closure. A boxed one without a type loses its attributes. -/
def closureParameter (g : Grammar) : Form := do
  let attributes ← attributes g
  let isBoxed := begins "box" (← get)
  let pattern ← g .pattern
  if begins ":" (← get) then return attributes ++ pattern ++ (← take ":" ++ g (.type true))
  else return if isBoxed then pattern else attributes ++ pattern

def closure (g : Grammar) (isOpen : Bool) : Form :=
  binder g ++ optional "const" ++ optional "static" ++ optional "async" ++ optional "move" ++
    take "|" ++ separated "," (begins "|") (closureParameter g) ++ take "|" ++ do
      if begins "->" (← get) then result g true ++ block g else g (.value isOpen)

/-! ### Operands -/

/-- Whether a value comes first. -/
def beginsValue (lexemes : List Lexeme) : Bool :=
  beginsWord lexemes && !begins "as" lexemes || beginsLiteral lexemes ||
    beginsLifetime lexemes ||
    beginsAny ["(", "[", "\x7b", "!", "-", "*", "|", "&", "..", "<", "::", "#"] lexemes &&
      !beginsAny ["!=", "-=", "->", "*=", "|=", "&=", "<=", "<<="] lexemes

/-- Whether a block comes first that is run on its own. -/
def beginsAsync (lexemes : List Lexeme) : Bool :=
  begins "async" lexemes && (begins "\x7b" (behind lexemes) ||
    begins "move" (behind lexemes) && begins "\x7b" (behindMany 2 lexemes))

/-- A field of a structure and its value, or a value for all other fields. -/
def fieldValue (g : Grammar) : Form := do
  if begins ".." (← get) then take ".." ++ ifAhead (!·.isEmpty) (g (.value true))
  else attributes g ++ takeMany 1 ++ ifAhead (begins ":") (take ":" ++ g (.value true))

/-- An operand that starts with a path. -/
def pathOperand (g : Grammar) (isOpen : Bool) : Form :=
  pathAnd (valuePath g)
    (ifAhead (isOpen && begins "\x7b" ·) (within '\x7b' (commaList (fieldValue g))))

/-- An operand without what follows it. -/
def atom (g : Grammar) (isOpen : Bool) : Form := do
  let lexemes ← get
  if beginsLiteral lexemes then literal
  else if beginsAsync lexemes then take "async" ++ optional "move" ++ block g
  else if beginsClosure lexemes then closure g isOpen
  else if beginsBlock lexemes then blockValue g
  else if beginsBuiltin lexemes then
    take "builtin" ++ take "#" ++ name ++ group
  else if begins "(" lexemes then inputs g
  else if begins "[" lexemes then
    within '[' (commaList (g (.value true)) ++ ifAhead (begins ";") (take ";" ++ g (.value true)))
  else if begins "break" lexemes then
    take "break" ++ ifAhead beginsLifetime lifetime ++
      ifAhead (fun lexemes => beginsValue lexemes && (isOpen || !begins "\x7b" lexemes))
        (g (.value true))
  else if begins "continue" lexemes then take "continue" ++ ifAhead beginsLifetime lifetime
  else if beginsAny ["return", "yield"] lexemes then
    anyWord ++ ifAhead beginsValue (g (.value true))
  else if begins "let" lexemes then
    take "let" ++ cases g ++ take "=" ++ g (.operand isOpen)
  else if begins ".." lexemes then rangeFrom g isOpen
  else if begins "_" lexemes then take "_"
  else pathOperand g isOpen

/-- An operand. A call that takes the place of this one is kept as it is. -/
def operand (g : Grammar) (isOpen : Bool) : Form := do
  if begins "become" (behindAttributes (← get)) then
    verbatim (attributes g ++ take "become" ++ g (.value true))
  else
    attributes g ++ do
      let lexemes ← get
      if begins "&" lexemes then
        let isRaw := begins "raw" (behind lexemes) &&
          beginsAny ["mut", "const"] (behindMany 2 lexemes)
        take "&" ++ (if isRaw then takeMany 2 else optional "mut") ++ g (.operand isOpen)
      else if beginsAny ["*", "!", "-"] lexemes then takeMany 1 ++ g (.operand isOpen)
      else atom g isOpen ++ accesses g

/-- A value. -/
def value (g : Grammar) (isOpen : Bool) : Form :=
  g (.operand isOpen) ++ operations g isOpen

end SqlCompose.Derive.Syntax
