import SqlCompose.Text.CaseTables
import SqlCompose.Text.LetterTables

/-! Letters and their case. Single characters map by table; lower case of a whole text
also gives the letter sigma its own form at the end of a word. -/

namespace SqlCompose.Text

/-- Whether `c` is one of the first 128 code points, which are treated without tables. -/
def isAscii (c : Char) : Bool :=
  c.toNat < 128

/-- A letter, or a number of any kind. -/
def isAlphanumeric (c : Char) : Bool :=
  if isAscii c then c.isAlphanum else inSpans alphanumericSpans c

def isUppercase (c : Char) : Bool :=
  if isAscii c then c.isUpper else inSpans uppercaseSpans c

def isLowercase (c : Char) : Bool :=
  if isAscii c then c.isLower else inSpans lowercaseSpans c

def isCased (c : Char) : Bool :=
  if isAscii c then c.isAlpha else inSpans casedSpans c

/-- A mark or sign that is passed over when looking for the neighbours of a letter. -/
def isCaseIgnorable (c : Char) : Bool :=
  inSpans caseIgnorableSpans c

/-- The image of `c` under one mapping: several characters, one, or `c` itself. -/
def mapCase (expansions : List (Nat × List Nat)) (shifts : List Shift) (c : Char) : List Char :=
  match expansions.lookup c.toNat with
  | some cs => cs.map Char.ofNat
  | none => [(shifted? shifts c).getD c]

/-- The lower case of one character, whatever stands around it. -/
def lowerChar (c : Char) : List Char :=
  if isAscii c then [c.toLower] else mapCase lowerExpansions lowerShifts c

/-- The upper case of one character. -/
def upperChar (c : Char) : List Char :=
  if isAscii c then [c.toUpper] else mapCase upperExpansions upperShifts c

/-- Whether the first character that is not ignorable is a cased one. -/
def meetsCased (cs : List Char) : Bool :=
  match cs.dropWhile isCaseIgnorable with
  | c :: _ => isCased c
  | [] => false

/-- Lower case of the second list; the first holds what precedes it, nearest first.
A capital sigma that follows a cased letter and precedes none ends a word. -/
def lowerFrom : List Char → List Char → List Char
  | _, [] => []
  | before, c :: rest =>
    let lowered :=
      if c = 'Σ' then [if meetsCased before && !meetsCased rest then 'ς' else 'σ']
      else lowerChar c
    lowered ++ lowerFrom (c :: before) rest

/-- The lower case of a text. -/
def lowercase (s : String) : String :=
  String.ofList (lowerFrom [] s.toList)

end SqlCompose.Text
