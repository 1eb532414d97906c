import SqlCompose.Derive.Lexeme

/-! Readers of lexemes, and the phrases that they are combined to. A form is a reader that
gives what it has read as it is written out again. -/

namespace SqlCompose.Derive.Syntax

/-- Reads from the front of the lexemes, and fails if they do not have its form. -/
abbrev Reader := StateT (List Lexeme) Option

/-- A reader that gives the lexemes as they are written out again. -/
abbrev Form := Reader (List Lexeme)

/-- One form and then another. -/
instance : Append Form where
  append p q := do
    let written ← p
    return written ++ (← q)

/-- The phrases that contain each other. `isSum` tells whether a type may go on with a plus,
and `isOpen` whether braces behind a path belong to the value. A statement is a value that
ends with its block, if it starts with one, and statements are the inside of a block. -/
inductive Phrase where
  | type (isSum : Bool)
  | bound
  | value (isOpen : Bool)
  | operand (isOpen : Bool)
  | pattern
  | statement
  | statements
  | item
deriving DecidableEq

/-- A form for each phrase. -/
abbrev Grammar := Phrase → Form

/-! ### What comes first -/

/-- Whether the given marks come first, all joined. -/
def beginsMarks : List Char → List Lexeme → Bool
  | [c], .mark d _ :: _ => c == d
  | c :: cs, .mark d true :: rest => c == d && beginsMarks cs rest
  | _, _ => false

/-- Whether a given word or given marks come first. -/
def begins (s : String) : List Lexeme → Bool
  | .word text :: _ => text == s.toList
  | lexemes => beginsMarks s.toList lexemes

/-- Whether one of the given words or marks comes first. -/
def beginsAny (ss : List String) (lexemes : List Lexeme) : Bool :=
  ss.any (begins · lexemes)

/-- Whether a colon comes first that is not the start of two. -/
def beginsColon (lexemes : List Lexeme) : Bool :=
  begins ":" lexemes && !begins "::" lexemes

def beginsLifetime : List Lexeme → Bool
  | .lifetime _ :: _ => true
  | _ => false

def beginsWord : List Lexeme → Bool
  | .word _ :: _ => true
  | _ => false

/-- The words that are no names. -/
def keywords : List String := [
  "_", "abstract", "as", "async", "await", "become", "box", "break", "const", "continue",
  "crate", "do", "dyn", "else", "enum", "extern", "false", "final", "fn", "for", "if", "impl",
  "in", "let", "loop", "macro", "match", "mod", "move", "mut", "override", "priv", "pub", "ref",
  "return", "Self", "self", "static", "struct", "super", "trait", "true", "try", "type",
  "typeof", "unsafe", "unsized", "use", "virtual", "where", "while", "yield"]

def beginsName (lexemes : List Lexeme) : Bool :=
  beginsWord lexemes && !beginsAny keywords lexemes

/-- How many lexemes the literal takes that comes first, or zero. A sign belongs to a
number. -/
def literalLength : List Lexeme → Nat
  | .literal _ :: _ => 1
  | .mark '-' _ :: .literal (c :: _) :: _ => if c.isDigit then 2 else 0
  | lexemes => if beginsAny ["true", "false"] lexemes then 1 else 0

def beginsLiteral (lexemes : List Lexeme) : Bool :=
  literalLength lexemes != 0

/-! ### Brackets -/

def opensBracket (c : Char) : Bool :=
  c == '(' || c == '[' || c == '\x7b'

def closesBracket (c : Char) : Bool :=
  c == ')' || c == ']' || c == '\x7d'

def closingOf (opening : Char) : Char :=
  if opening = '(' then ')' else if opening = '[' then ']' else '\x7d'

/-- The lexemes up to the bracket that closes an open one, and those behind it. `depth`
brackets have to be closed first. -/
def splitClosed? : (depth : Nat) → List Lexeme → Option (List Lexeme × List Lexeme)
  | _, [] => none
  | depth, .mark c isJoined :: rest =>
    let after (depth : Nat) : Option (List Lexeme × List Lexeme) :=
      (splitClosed? depth rest).map fun (inside, rest) => (.mark c isJoined :: inside, rest)
    if opensBracket c then after (depth + 1)
    else if closesBracket c then
      match depth with
      | 0 => some ([], rest)
      | depth + 1 => after depth
    else after depth
  | depth, lexeme :: rest =>
    (splitClosed? depth rest).map fun (inside, rest) => (lexeme :: inside, rest)

/-- The lexemes behind the first one, or behind all that is in brackets. -/
def behind : List Lexeme → List Lexeme
  | [] => []
  | .mark c _ :: rest => if opensBracket c then ((splitClosed? 0 rest).map (·.2)).getD [] else rest
  | _ :: rest => rest

/-- The lexemes behind the next `n`, where brackets count as one. -/
def behindMany : (n : Nat) → List Lexeme → List Lexeme
  | 0, lexemes => lexemes
  | n + 1, lexemes => behindMany n (behind lexemes)

/-! ### Taking lexemes -/

/-- The given number of lexemes. -/
def takeMany (n : Nat) : Form :=
  modifyGet fun lexemes => (lexemes.take n, lexemes.drop n)

/-- Lexemes that satisfy a condition, of the given number. -/
def takeIf (condition : List Lexeme → Bool) (n : Nat) : Form := do
  if condition (← get) then takeMany n else failure

/-- A given word, or given marks. -/
def take (s : String) : Form := do
  takeIf (begins s) (if beginsWord (← get) then 1 else s.length)

/-- A form if a condition holds of what is ahead, and else nothing. -/
def ifAhead (condition : List Lexeme → Bool) (p : Form) : Form := do
  if condition (← get) then p else return []

/-- A given word, or given marks, or nothing. -/
def optional (s : String) : Form :=
  ifAhead (begins s) (take s)

def name : Form :=
  takeIf beginsName 1

/-- A name or a keyword. -/
def anyWord : Form :=
  takeIf beginsWord 1

def lifetime : Form :=
  takeIf beginsLifetime 1

def literal : Form := do
  takeIf beginsLiteral (literalLength (← get))

/-- A lexeme, or brackets with all that is in them. -/
def unit : Form := do
  let lexemes ← get
  takeIf (!·.isEmpty) (lexemes.length - (behind lexemes).length)

/-- Brackets with all that is in them. -/
def group : Form := do
  if beginsAny ["(", "[", "\x7b"] (← get) then unit else failure

/-- The lexemes that a reader takes, as they are. -/
def verbatim (p : Reader α) : Form := do
  let lexemes ← get
  discard p
  return lexemes.take (lexemes.length - (← get).length)

/-- What a reader gives, or the lexemes that it takes if it gives nothing. -/
def orVerbatim (p : Reader (Option (List Lexeme))) : Form := do
  let lexemes ← get
  match ← p with
  | some written => return written
  | none => return lexemes.take (lexemes.length - (← get).length)

/-- Reads all that is in brackets. -/
def inside (opening : Char) (p : Reader α) : Reader α := do
  match ← get with
  | .mark c _ :: rest =>
    if c ≠ opening then failure
    let (inner, rest) ← splitClosed? 0 rest
    let (a, left) ← p.run inner
    if !left.isEmpty then failure
    set rest
    return a
  | _ => failure

/-- Puts lexemes in brackets. -/
def enclose (opening : Char) (lexemes : List Lexeme) : List Lexeme :=
  .alone opening :: lexemes ++ [.alone (closingOf opening)]

/-- A form in brackets. -/
def within (opening : Char) (p : Form) : Form := do
  return enclose opening (← inside opening p)

/-! ### Repetition -/

/-- At most `fuel` times a form, as long as a condition holds of what is ahead. -/
def manyFrom (condition : List Lexeme → Bool) (p : Form) : (fuel : Nat) → Form
  | 0 => return []
  | fuel + 1 => ifAhead condition (p ++ manyFrom condition p fuel)

/-- A form as often as a condition holds of what is ahead. -/
def many (condition : List Lexeme → Bool) (p : Form) : Form := do
  manyFrom condition p (← get).length

/-- A form as often as lexemes are left. -/
def all (p : Form) : Form :=
  many (!·.isEmpty) p

/-- A piece of a list, with what separates it from the next one. -/
structure Piece where
  isLifetime : Bool
  lexemes : List Lexeme

/-- At most `fuel` pieces of a list. No piece starts where `ends` holds. -/
def piecesFrom (separator : String) (ends : List Lexeme → Bool) (p : Reader Piece) :
    (fuel : Nat) → Reader (List Piece)
  | 0 => return []
  | fuel + 1 => do
    if ends (← get) then return []
    let piece ← p
    if begins separator (← get) then
      let separated := { piece with lexemes := piece.lexemes ++ (← take separator) }
      return separated :: (← piecesFrom separator ends p fuel)
    else return [piece]

/-- The pieces of a list. -/
def pieces (separator : String) (ends : List Lexeme → Bool) (p : Reader Piece) :
    Reader (List Piece) := do
  piecesFrom separator ends p (← get).length

/-- A list in the order of its pieces. -/
def separated (separator : String) (ends : List Lexeme → Bool) (p : Form) : Form := do
  let pieces ← pieces separator ends (return ⟨false, ← p⟩)
  return pieces.flatMap (·.lexemes)

/-- A form as often as lexemes are left, with commas between. -/
def commaList (p : Form) : Form :=
  separated "," (·.isEmpty) p

/-- The lifetimes of a list and then its other pieces. If the last lifetime has no comma and
something follows, it gets one. -/
def lifetimesFirst (pieces : List Piece) : List Lexeme :=
  let lifetimes := (pieces.filter (·.isLifetime)).flatMap (·.lexemes)
  let others := (pieces.filter (!·.isLifetime)).flatMap (·.lexemes)
  match lifetimes.getLast?, others with
  | none, _ | some (.mark ',' _), _ | _, [] => lifetimes ++ others
  | _, _ => lifetimes ++ .alone ',' :: others

/-! ### Attributes -/

/-- The words that a path can start with, names apart. -/
def pathWords : List String :=
  ["super", "self", "Self", "crate"]

/-- A path without arguments. -/
def plainPath : Form :=
  let word : Form := takeIf (fun lexemes => beginsName lexemes || beginsAny pathWords lexemes) 1
  optional "::" ++ word ++ many (begins "::") (take "::" ++ word)

/-- What is in the brackets of an attribute. Only a value of its own is no plain text. -/
def attributeBody (g : Grammar) : Form := do
  match plainPath.run (← get) with
  | some (_, rest) =>
    if begins "=" rest then plainPath ++ take "=" ++ g (.value true) else all unit
  | none => all unit

/-- The attributes of what follows. -/
def attributes (g : Grammar) : Form :=
  many (begins "#") (take "#" ++ within '[' (attributeBody g))

/-- The attributes of what they stand in. -/
def innerAttributes (g : Grammar) : Form :=
  many (fun lexemes => begins "#" lexemes && begins "!" (behind lexemes))
    (take "#" ++ take "!" ++ within '[' (attributeBody g))

/-- The lexemes behind at most `fuel` attributes. -/
def behindAttributesFrom : (fuel : Nat) → List Lexeme → List Lexeme
  | 0, lexemes => lexemes
  | fuel + 1, lexemes =>
    if begins "#" lexemes && begins "[" (behind lexemes) then
      behindAttributesFrom fuel (behindMany 2 lexemes)
    else lexemes

/-- The lexemes behind the attributes of what follows. -/
def behindAttributes (lexemes : List Lexeme) : List Lexeme :=
  behindAttributesFrom lexemes.length lexemes

end SqlCompose.Derive.Syntax
