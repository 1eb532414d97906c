import SqlCompose.Derive.Syntax.Reader

/-! Paths with their arguments, and the parameters and bounds that go with them. Lifetimes
are written before the other arguments and parameters of a list. -/

namespace SqlCompose.Derive.Syntax

/-- The statements of a block in braces. -/
def block (g : Grammar) : Form :=
  within '\x7b' (g .statements)

/-! ### Arguments -/

/-- Whether a value comes first that may be an argument. -/
def beginsConstant (lexemes : List Lexeme) : Bool :=
  beginsLiteral lexemes || begins "\x7b" lexemes

/-- A value that may be an argument, or the name of one. -/
def constant (g : Grammar) : Form := do
  let lexemes ← get
  if beginsLiteral lexemes then literal else if beginsName lexemes then name else block g

/-- A type, or a value that may be an argument. -/
def typeOrConstant (g : Grammar) : Form := do
  if beginsConstant (← get) then constant g else g (.type true)

/-- Whether no bound follows. -/
def endsBounds (lexemes : List Lexeme) : Bool :=
  begins "where" lexemes ||
    !(beginsWord lexemes || beginsLifetime lexemes || beginsAny ["::", "?", "~", "(", "["] lexemes)

/-- Any number of bounds, with a plus between. -/
def bounds (g : Grammar) : Form :=
  separated "+" endsBounds (g .bound)

/-- An argument in angle brackets. A lifetime with a bound is a type. -/
def argument (g : Grammar) : Reader Piece := do
  let lexemes ← get
  if beginsLifetime lexemes && !begins "+" (behind lexemes) then return ⟨true, ← lifetime⟩
  else
    let written ← typeOrConstant g ++
      ifAhead (begins "=") (take "=" ++ typeOrConstant g) ++
      ifAhead (begins ":") (take ":" ++ bounds g)
    return ⟨false, written⟩

/-- Arguments in angle brackets. -/
def arguments (g : Grammar) : Form := do
  let opening ← take "<"
  let pieces ← pieces "," (begins ">") (argument g)
  return opening ++ lifetimesFirst pieces ++ (← take ">")

/-- The type of a result, if there is one. -/
def result (g : Grammar) (isSum : Bool) : Form :=
  ifAhead (begins "->") (take "->" ++ g (.type isSum))

/-! ### Paths -/

/-- Whether arguments in angle brackets follow a name. In a value they follow two colons
only, as the bracket is a sign of comparison there. -/
def beginsArguments (inValue : Bool) (lexemes : List Lexeme) : Bool :=
  !inValue && begins "<" lexemes && !begins "<=" lexemes && !begins "<<=" lexemes ||
    begins "::" lexemes && begins "<" (behindMany 2 lexemes)

/-- A name in a path, with its arguments. -/
def segment (g : Grammar) (inValue : Bool) : Form :=
  takeIf (fun lexemes => beginsName lexemes || beginsAny ("try" :: pathWords) lexemes) 1 ++
    ifAhead (beginsArguments inValue) (optional "::" ++ arguments g)

/-- Further names of a path. -/
def segments (g : Grammar) (inValue : Bool) : Form :=
  many (fun lexemes => begins "::" lexemes && !begins "(" (behindMany 2 lexemes))
    (take "::" ++ segment g inValue)

/-- Whether inputs follow a name in the path of a type, with two colons between or not. -/
def beginsInputs (lexemes : List Lexeme) : Bool :=
  begins "(" lexemes || begins "::" lexemes && begins "(" (behindMany 2 lexemes)

/-- The inputs and the result behind a name in the path of a type, and further names. Colons
in front of the inputs are left out. At most `fuel` times, as long as the path so far ends
with a name. -/
def signaturesFrom (g : Grammar) (path : List Lexeme) : (fuel : Nat) → Form
  | 0 => return []
  | fuel + 1 => do
    match path.getLast? with
    | some (.word _) =>
      if beginsInputs (← get) then
        discard (optional "::")
        let inputs ← within '(' (commaList (g (.type true))) ++ result g false
        let names ← segments g false
        return inputs ++ names ++ (← signaturesFrom g names fuel)
      else return []
    | _ => return []

/-- A path from a type on, seen as a trait or as itself. -/
def pathOfType (g : Grammar) (inValue : Bool) (trait : Form) : Form :=
  take "<" ++ g (.type true) ++ ifAhead (begins "as") (take "as" ++ trait) ++ take ">" ++
    take "::" ++ segment g inValue ++ segments g inValue

/-- A path from a name on. -/
def pathOfName (g : Grammar) (inValue : Bool) : Form :=
  optional "::" ++ segment g inValue ++ segments g inValue

/-- The path of a trait, which may have inputs. -/
def traitPath (g : Grammar) : Form := do
  let path ← pathOfName g false
  return path ++ (← signaturesFrom g path (← get).length)

/-- The path of a type. -/
def typePath (g : Grammar) : Form := do
  let path ← if begins "<" (← get) then pathOfType g false (traitPath g) else pathOfName g false
  return path ++ (← signaturesFrom g path (← get).length)

/-- The path of a value. -/
def valuePath (g : Grammar) : Form := do
  if begins "<" (← get) then pathOfType g true (traitPath g) else pathOfName g true

/-- Whether the lexemes of a path have no arguments among them. -/
def isPlainPath (path : List Lexeme) : Bool :=
  path.all fun
    | .word _ | .mark ':' _ => true
    | _ => false

/-- Whether a path is the name of a macro, as an exclamation mark is behind it that is not
part of a comparison. -/
def isMacroName (path lexemes : List Lexeme) : Bool :=
  isPlainPath path && begins "!" lexemes && !begins "!=" lexemes

/-- The text that a macro is given, as it is. -/
def macroText : Form :=
  take "!" ++ group

/-- A path and what follows it, be it the text of a macro or another form. -/
def pathAnd (path : Form) (rest : Form) : Form := do
  let written ← path
  return written ++ (← if isMacroName written (← get) then macroText else rest)

/-! ### Parameters and bounds -/

/-- A colon and the bounds behind it. Without bounds there is no colon. -/
def colonBounds (g : Grammar) : Form :=
  ifAhead beginsColon do
    let colon ← take ":"
    let written ← bounds g
    return if written.isEmpty then [] else colon ++ written

/-- A parameter in angle brackets. -/
def parameter (g : Grammar) : Reader Piece := do
  let attributes ← attributes g
  let lexemes ← get
  if beginsLifetime lexemes then return ⟨true, attributes ++ (← lifetime ++ colonBounds g)⟩
  else
    let written ←
      if begins "const" lexemes then
        take "const" ++ name ++ take ":" ++ g (.type true) ++
          ifAhead (begins "=") (take "=" ++ constant g)
      else
        anyWord ++ colonBounds g ++ ifAhead (begins "=") (take "=" ++ g (.type true))
    return ⟨false, attributes ++ written⟩

/-- The parameters of a declaration, if there are any. -/
def parameters (g : Grammar) : Form :=
  ifAhead (begins "<") do
    let opening ← take "<"
    let pieces ← pieces "," (begins ">") (parameter g)
    let closing ← take ">"
    return if pieces.isEmpty then [] else opening ++ lifetimesFirst pieces ++ closing

/-- The lifetimes that a bound or a type holds for all of. They stay in order. -/
def binder (g : Grammar) : Form :=
  ifAhead (begins "for") do
    let opening ← take "for" ++ take "<"
    let pieces ← pieces "," (begins ">") (parameter g)
    return opening ++ pieces.flatMap (·.lexemes) ++ (← take ">")

/-- The lifetimes and names that a type makes use of. -/
def captures : Form := do
  let opening ← take "use" ++ take "<"
  let pieces ← pieces "," (begins ">") do
    if beginsLifetime (← get) then return ⟨true, ← lifetime⟩ else return ⟨false, ← anyWord⟩
  return opening ++ lifetimesFirst pieces ++ (← take ">")

/-- The bound by a trait, or nothing if the trait has to be constant. A question mark is
written before the lifetimes. -/
def traitBound (g : Grammar) : Reader (Option (List Lexeme)) := do
  let lifetimes ← binder g
  let mark ← ifAhead (begins "[") group ++ optional "~" ++ optional "const"
  let question ← optional "?"
  let rest ← binder g ++ traitPath g
  return if mark.isEmpty then some (question ++ lifetimes ++ rest) else none

/-- A bound. One by a constant trait is kept as it is. -/
def bound (g : Grammar) : Form := do
  let lexemes ← get
  if beginsLifetime lexemes then lifetime
  else if begins "use" lexemes then captures
  else if begins "(" lexemes then
    orVerbatim do return (← inside '(' (traitBound g)).map (enclose '(')
  else orVerbatim (traitBound g)

/-- Whether no condition on types follows. -/
def endsConditions (lexemes : List Lexeme) : Bool :=
  lexemes.isEmpty || beginsColon lexemes || beginsAny ["\x7b", ",", ";", "="] lexemes

/-- A condition on a lifetime or type. -/
def condition (g : Grammar) : Form := do
  let lexemes ← get
  if beginsLifetime lexemes && begins ":" (behind lexemes) then
    lifetime ++ take ":" ++ bounds g
  else binder g ++ g (.type true) ++ take ":" ++ bounds g

/-- The conditions of a declaration, if there are any. -/
def conditions (g : Grammar) : Form :=
  ifAhead (begins "where") do
    let opening ← take "where"
    let written ← separated "," endsConditions (condition g)
    return if written.isEmpty then [] else opening ++ written

end SqlCompose.Derive.Syntax
