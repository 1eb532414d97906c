import SqlCompose.Text.Letters

/-! The words of a name, found by its separators and by the changes of case in it, and
the ways of writing a name out of its words. -/

namespace SqlCompose.Text

/-- The case that the letters since the last word boundary have settled on. -/
inductive CaseMode where
  | neutral
  | lower
  | upper
deriving DecidableEq

/-- The mode after one more character. Characters without case do not change it. -/
def CaseMode.after (mode : CaseMode) (c : Char) : CaseMode :=
  if isLowercase c then .lower else if isUppercase c then .upper else mode

/-- The maximal runs of alphanumeric characters; the first argument holds the run being
read, last character first. -/
def piecesFrom : List Char → List Char → List (List Char)
  | [], [] => []
  | run, [] => [run.reverse]
  | run, c :: rest =>
    if isAlphanumeric c then piecesFrom (c :: run) rest
    else if run.isEmpty then piecesFrom [] rest
    else run.reverse :: piecesFrom [] rest

/-- The words of one run; `word` holds the word being read, last character first. A word
ends between lower and upper case, and before the last of several capitals that a small
letter follows. -/
def wordsFrom (mode : CaseMode) (word : List Char) : List Char → List (List Char)
  | [] => []
  | [c] => [(c :: word).reverse]
  | c :: next :: rest =>
    if mode.after c = .lower ∧ isUppercase next then
      (c :: word).reverse :: wordsFrom .neutral [] (next :: rest)
    else if mode = .upper ∧ isUppercase c ∧ isLowercase next then
      word.reverse :: wordsFrom .neutral [c] (next :: rest)
    else wordsFrom (mode.after c) (c :: word) (next :: rest)

/-- The words of a name, in order. -/
def words (s : String) : List (List Char) :=
  (piecesFrom [] s.toList).flatMap (wordsFrom .neutral [])

/-- A word in small letters. A sigma that ends it takes its final form. -/
def lowerWord : List Char → List Char
  | [] => []
  | ['Σ'] => ['ς']
  | c :: rest => lowerChar c ++ lowerWord rest

def upperWord (word : List Char) : List Char :=
  word.flatMap upperChar

/-- A word in small letters with a capital in front. -/
def capitalizeWord : List Char → List Char
  | [] => []
  | c :: rest => upperChar c ++ lowerWord rest

/-- The words each written by `write`, with `separator` between them. -/
def joinWords (separator : String) (write : List Char → List Char) (ws : List (List Char)) :
    String :=
  separator.intercalate (ws.map fun w => String.ofList (write w))

/-- The ways in which names are converted. -/
inductive CaseStyle where
  | identity
  | lowerSnake
  | upperSnake
  | lowerCamel
  | upperCamel
  | lowerKebab
  | upperKebab
  | title
  | train
deriving DecidableEq

namespace CaseStyle

/-- The name rewritten in this style. -/
def apply (style : CaseStyle) (name : String) : String :=
  match style with
  | identity => name
  | lowerSnake => joinWords "_" lowerWord (words name)
  | upperSnake => joinWords "_" upperWord (words name)
  | lowerCamel =>
    match words name with
    | [] => ""
    | w :: ws => String.ofList (lowerWord w) ++ joinWords "" capitalizeWord ws
  | upperCamel => joinWords "" capitalizeWord (words name)
  | lowerKebab => joinWords "-" lowerWord (words name)
  | upperKebab => joinWords "-" upperWord (words name)
  | title => joinWords " " capitalizeWord (words name)
  | train => joinWords "-" capitalizeWord (words name)

/-- The style that a declaration asks for by name. -/
def ofName? : String → Option CaseStyle
  | "identity" => some identity
  | "lower_snake_case" => some lowerSnake
  | "UPPER_SNAKE_CASE" => some upperSnake
  | "lowerCamelCase" => some lowerCamel
  | "UpperCamelCase" => some upperCamel
  | "lower-kebab-case" => some lowerKebab
  | "UPPER-KEBAB-CASE" => some upperKebab
  | "Title Case" => some title
  | "Train-Case" => some train
  | _ => none

end CaseStyle

end SqlCompose.Text
