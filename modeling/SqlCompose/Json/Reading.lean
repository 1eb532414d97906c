import SqlCompose.Json
import SqlCompose.Text.Hex

/-! Reading JSON text. Numbers may be written more freely than JSON has it. -/

namespace SqlCompose.Json

def isBlank (c : Char) : Bool :=
  c == ' ' || c == '\t' || c == '\n' || c == '\r'

/-- The characters that numbers are written with. -/
def isNumeralChar (c : Char) : Bool :=
  c.isDigit || c == '+' || c == '-' || c == '.' || c == 'e' || c == 'E'

/-- The character for a letter after a backslash. -/
def unescaped? : Char → Option Char
  | 'n' => some '\n'
  | 'r' => some '\r'
  | 't' => some '\t'
  | 'b' => some '\x08'
  | 'f' => some '\x0c'
  | '"' => some '"'
  | '\\' => some '\\'
  | '/' => some '/'
  | _ => none

/-- The character that two surrogates stand for. -/
def ofSurrogates (high low : Nat) : Char :=
  Char.ofNat (0x10000 + (high - 0xD800) * 0x400 + (low - 0xDC00))

def isHighSurrogate (unit : Nat) : Bool :=
  0xD800 ≤ unit && unit < 0xDC00

/-- Reads the characters of a text up to its closing quote. A high surrogate is kept until
its low one has been read. -/
def readText? (high? : Option Nat) : List Char → Option (List Char × List Char)
  | '"' :: rest => some ([], rest)
  | '\\' :: 'u' :: a :: b :: c :: d :: rest => do
    let unit ← Text.hexNumber? [a, b, c, d]
    match high? with
    | some high =>
      let (cs, rest) ← readText? none rest
      return (ofSurrogates high unit :: cs, rest)
    | none =>
      if isHighSurrogate unit then readText? (some unit) rest
      else
        let (cs, rest) ← readText? none rest
        return (Char.ofNat unit :: cs, rest)
  | '\\' :: c :: rest => do
    let c ← unescaped? c
    let (cs, rest) ← readText? none rest
    return (c :: cs, rest)
  | c :: rest => (readText? none rest).map fun r => (c :: r.1, r.2)
  | [] => none

mutual

/-- Reads a value from the beginning of a text. -/
def readValue? : (depth : Nat) → List Char → Option (Json × List Char)
  | 0, _ => none
  | depth + 1, s =>
    match s.dropWhile isBlank with
    | 'n' :: 'u' :: 'l' :: 'l' :: rest => some (null, rest)
    | 't' :: 'r' :: 'u' :: 'e' :: rest => some (boolean true, rest)
    | 'f' :: 'a' :: 'l' :: 's' :: 'e' :: rest => some (boolean false, rest)
    | '"' :: rest => (readText? none rest).map fun r => (text (String.ofList r.1), r.2)
    | '[' :: rest =>
      match rest.dropWhile isBlank with
      | ']' :: rest => some (array [], rest)
      | rest => (readItems? depth rest).map fun r => (array r.1, r.2)
    | '\x7b' :: rest =>
      match rest.dropWhile isBlank with
      | '\x7d' :: rest => some (object [], rest)
      | rest => (readMembers? depth rest).map fun r => (object r.1, r.2)
    | s =>
      (Numeral.read? (s.takeWhile isNumeralChar)).map fun n =>
        (ofNumeral n, s.dropWhile isNumeralChar)

/-- Reads values with commas between them, up to the closing bracket. -/
def readItems? : (depth : Nat) → List Char → Option (List Json × List Char)
  | 0, _ => none
  | depth + 1, s => do
    let (item, rest) ← readValue? depth s
    match rest.dropWhile isBlank with
    | ',' :: rest => (readItems? depth rest).map fun r => (item :: r.1, r.2)
    | ']' :: rest => return ([item], rest)
    | _ => none

/-- Reads named values with commas between them, up to the closing brace. -/
def readMembers? : (depth : Nat) → List Char → Option (List (String × Json) × List Char)
  | 0, _ => none
  | depth + 1, s =>
    match s.dropWhile isBlank with
    | '"' :: rest => do
      let (name, rest) ← readText? none rest
      match rest.dropWhile isBlank with
      | ':' :: rest =>
        let (value, rest) ← readValue? depth rest
        let m := (String.ofList name, value)
        match rest.dropWhile isBlank with
        | ',' :: rest => (readMembers? depth rest).map fun r => (m :: r.1, r.2)
        | '\x7d' :: rest => return ([m], rest)
        | _ => none
      | _ => none
    | _ => none

end

/-- The value that a text as a whole stands for. Every value takes up a character, and so
does what comes between two of them. -/
def read? (s : String) : Option Json :=
  match readValue? (2 * s.length + 2) s.toList with
  | some (j, rest) => if rest.all isBlank then some j else none
  | none => none

end SqlCompose.Json
