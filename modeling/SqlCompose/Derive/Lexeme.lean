import SqlCompose.Text.Quoted

/-! The lexemes of declarations. Blanks and comments only separate them, except that a
comment of documentation stands for an attribute with its text. -/

namespace SqlCompose.Derive

/-- A word is a name or a keyword, and a lifetime one with an apostrophe. A literal is a
number or is quoted; it includes its quotes and what is written right behind them. Any other
character is a mark, which may be joined to another mark right behind it. -/
inductive Lexeme where
  | word (text : List Char)
  | lifetime (text : List Char)
  | literal (text : List Char)
  | mark (c : Char) (isJoined : Bool)
deriving DecidableEq

namespace Lexeme

/-- The blanks between lexemes. Two marks of writing direction are among them. -/
def blankSpans : List Text.Span := [
  ⟨0x9, 0xD, 1⟩, ⟨0x20, 0x20, 1⟩, ⟨0x85, 0x85, 1⟩, ⟨0xA0, 0xA0, 1⟩, ⟨0x1680, 0x1680, 1⟩,
  ⟨0x2000, 0x200A, 1⟩, ⟨0x200E, 0x200F, 1⟩, ⟨0x2028, 0x2029, 1⟩, ⟨0x202F, 0x202F, 1⟩,
  ⟨0x205F, 0x205F, 1⟩, ⟨0x3000, 0x3000, 1⟩]

def isBlank (c : Char) : Bool :=
  Text.inSpans blankSpans c

def isWordChar (c : Char) : Bool :=
  c.isAlphanum || c == '_' || (128 ≤ c.toNat && !isBlank c)

def isWordStart (c : Char) : Bool :=
  isWordChar c && !c.isDigit

/-- The marks that others can be joined to. Brackets are not among them. -/
def joinedMarks : List Char :=
  "~!@#$%^&*-=+|;:,<.>/?'".toList

/-- A mark without another one behind it. -/
abbrev alone (c : Char) : Lexeme :=
  mark c false

/-- Whether a text goes on with a mark, rather than with a comment. -/
def joins : List Char → Bool
  | '/' :: '/' :: _ | '/' :: '*' :: _ => false
  | c :: _ => joinedMarks.contains c
  | [] => false

/-! ### Comments -/

/-- What is left of a line, and what follows it. -/
def toLineEnd : List Char → List Char × List Char
  | [] => ([], [])
  | '\n' :: rest => ([], '\n' :: rest)
  | '\r' :: '\n' :: rest => ([], '\n' :: rest)
  | c :: rest =>
    let (text, rest) := toLineEnd rest
    (c :: text, rest)

/-- The text of a comment up to the mark that closes it, and what follows. Comments in it
have to be closed first; `depth` of them are open. -/
def toCommentEnd? : (depth : Nat) → List Char → Option (List Char × List Char)
  | _, [] => none
  | depth, '/' :: '*' :: rest =>
    (toCommentEnd? (depth + 1) rest).map fun (text, rest) => ('/' :: '*' :: text, rest)
  | 0, '*' :: '/' :: rest => some ([], rest)
  | depth + 1, '*' :: '/' :: rest =>
    (toCommentEnd? depth rest).map fun (text, rest) => ('*' :: '/' :: text, rest)
  | depth, c :: rest => (toCommentEnd? depth rest).map fun (text, rest) => (c :: text, rest)

/-- A text as a literal. A null character in front of an octal digit is written by its
code, so that the digit does not seem to belong to it. -/
def quoted : List Char → List Char
  | [] => []
  | '\x00' :: c :: rest =>
    (if '0' ≤ c && c ≤ '7' then "\\x00" else "\\0").toList ++ quoted (c :: rest)
  | c :: rest => (Text.quotedChar c).toList ++ quoted rest

/-- The attribute that a comment of documentation stands for. An inner one belongs to what
it is written in, and another one to what follows it. -/
def documentation (isInner : Bool) (text : List Char) : List Lexeme :=
  alone '#' :: (if isInner then [alone '!'] else []) ++
    [alone '[', word "doc".toList, alone '=', literal ('"' :: quoted text ++ ['"']), alone ']']

/-- What the text of a comment to the end of its line stands for. -/
def ofLineComment : List Char → List Lexeme
  | '/' :: '/' :: _ => []
  | '/' :: text => documentation false text
  | '!' :: text => documentation true text
  | _ => []

/-- What the text of a comment between marks stands for. -/
def ofComment : List Char → List Lexeme
  | '*' :: c :: text => if c = '*' then [] else documentation false (c :: text)
  | '!' :: text => documentation true text
  | _ => []

/-! ### Literals -/

/-- The text up to a quote, which is included, and what follows. A character behind a
backslash is no quote. -/
def toQuote (quote : Char) : List Char → List Char × List Char
  | [] => ([], [])
  | '\\' :: c :: rest =>
    let (text, rest) := toQuote quote rest
    ('\\' :: c :: text, rest)
  | c :: rest =>
    if c = quote then ([c], rest)
    else
      let (text, rest) := toQuote quote rest
      (c :: text, rest)

/-- The text up to a quote with the given signs behind it, which are included, and what
follows. -/
def toRawQuote (signs : List Char) : List Char → List Char × List Char
  | [] => ([], [])
  | c :: rest =>
    if c = '"' && signs.isPrefixOf rest then (c :: signs, rest.drop signs.length)
    else
      let (text, rest) := toRawQuote signs rest
      (c :: text, rest)

/-- A literal with what is written right behind it, and what follows. -/
def literalAnd (start : List Char) : List Char × List Char → List Lexeme × List Char
  | (text, rest) =>
    let (suffix, rest) := rest.span isWordChar
    ([literal (start ++ text ++ suffix)], rest)

/-- The sign and the digits of an exponent, if the text before ends with its letter. -/
def exponentAnd : List Char × List Char → List Lexeme × List Char
  | (text, rest) =>
    match text.getLast?, rest with
    | some 'e', sign :: c :: _ | some 'E', sign :: c :: _ =>
      if (sign = '+' || sign = '-') && c.isDigit && !text.contains 'x' then
        literalAnd (text ++ [sign]) ([], rest.tail)
      else ([literal text], rest)
    | _, _ => ([literal text], rest)

/-- A number that starts with the given digits, and what follows it. A point belongs to it
unless another point or a name is behind it. -/
def numberAnd : List Char × List Char → List Lexeme × List Char
  | (digits, '.' :: rest) =>
    if rest.head?.any fun c => c = '.' || isWordStart c then ([literal digits], '.' :: rest)
    else
      let (decimals, rest) := rest.span isWordChar
      exponentAnd (digits ++ '.' :: decimals, rest)
  | (digits, rest) => exponentAnd (digits, rest)

/-- The words before a quote that keep backslashes from having a meaning. -/
def rawMarks : List (List Char) :=
  [['r'], ['b', 'r'], ['c', 'r']]

/-- A word and what follows it, or the raw word or literal that it introduces. -/
def wordAnd (make : List Char → Lexeme) : List Char × List Char → List Lexeme × List Char
  | (letters, rest) =>
    let (signs, after) := rest.span (· == '#')
    match after with
    | [] => ([make letters], rest)
    | c :: inside =>
      if c = '"' && letters ∈ rawMarks then
        literalAnd (letters ++ signs ++ ['"']) (toRawQuote signs inside)
      else if letters = ['r'] && signs.length = 1 && isWordStart c then
        let (name, rest) := after.span isWordChar
        ([make ('r' :: '#' :: name)], rest)
      else ([make letters], rest)

/-! ### Texts -/

/-- What the start of a text stands for, and what follows it. It takes at least one
character. -/
def next : List Char → List Lexeme × List Char
  | [] => ([], [])
  | '/' :: '/' :: rest =>
    let (text, rest) := toLineEnd rest
    (ofLineComment text, rest)
  | '/' :: '*' :: rest =>
    match toCommentEnd? 0 rest with
    | some (text, rest) => (ofComment text, rest)
    | none => ([alone '/', alone '*'], rest)
  | '"' :: rest => literalAnd ['"'] (toQuote '"' rest)
  | '\'' :: '\\' :: rest => literalAnd ['\''] (toQuote '\'' ('\\' :: rest))
  | '\'' :: c :: '\'' :: rest => literalAnd ['\''] ([c, '\''], rest)
  | '\'' :: c :: rest =>
    if isWordStart c then
      wordAnd (fun name => lifetime ('\'' :: name)) ((c :: rest).span isWordChar)
    else ([mark '\'' true], c :: rest)
  | c :: rest =>
    if isBlank c then ([], rest)
    else if isWordStart c then
      match (c :: rest).span isWordChar with
      | (['b'], '\'' :: rest) =>
        match next.byteRest rest with
        | some (text, rest) => literalAnd ['b', '\''] (text, rest)
        | none => ([word ['b']], '\'' :: rest)
      | (letters, '"' :: rest) =>
        if letters = ['b'] || letters = ['c'] then
          literalAnd (letters ++ ['"']) (toQuote '"' rest)
        else wordAnd word (letters, '"' :: rest)
      | (letters, rest) => wordAnd word (letters, rest)
    else if c.isDigit then numberAnd ((c :: rest).span isWordChar)
    else ([mark c (joinedMarks.contains c && joins rest)], rest)
where
  /-- The text of a byte behind its first quote, and what follows. -/
  byteRest : List Char → Option (List Char × List Char)
    | '\\' :: rest => some (toQuote '\'' ('\\' :: rest))
    | c :: '\'' :: rest => some ([c, '\''], rest)
    | _ => none

/-- The lexemes of a text of at most `fuel` characters. -/
def scan : (fuel : Nat) → List Char → List Lexeme
  | 0, _ => []
  | _ + 1, [] => []
  | fuel + 1, c :: rest =>
    let (lexemes, rest) := next (c :: rest)
    lexemes ++ scan fuel rest

def ofText (s : String) : List Lexeme :=
  scan s.length s.toList

def text : Lexeme → List Char
  | word text | lifetime text | literal text => text
  | mark c _ => [c]

/-- The lexemes one right after the other. Literals lose their plain blanks too. -/
def join (lexemes : List Lexeme) : String :=
  String.ofList ((lexemes.flatMap text).filter (· ≠ ' '))

end Lexeme

end SqlCompose.Derive
