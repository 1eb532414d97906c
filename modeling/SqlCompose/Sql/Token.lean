import SqlCompose.Fragment
import SqlCompose.Sql.Comparison

/-! SQL text as a list of tokens. Only the tokens of conditions and of the statements that
are run are read; there are no quotes and no comments among them. -/

namespace SqlCompose

inductive Token where
  | word (text : String)
  | placeholder
  | literal (v : Value)
  | comparison (c : Comparison)
  | opening
  | closing
  | comma
  | dot
deriving DecidableEq

namespace Token

/-- Characters of names, keywords and whole numbers. -/
def isWordChar (c : Char) : Bool :=
  c.isAlphanum || c == '_' || 128 ≤ c.toNat

/-- The tokens for one character outside words. A blank is none. -/
def ofChar? : Char → Option (List Token)
  | ' ' => some []
  | '?' => some [placeholder]
  | '(' => some [opening]
  | ')' => some [closing]
  | ',' => some [comma]
  | '.' => some [dot]
  | '=' => some [comparison .equal]
  | '<' => some [comparison .less]
  | '>' => some [comparison .greater]
  | _ => none

/-- The token for the letters of a word that has ended. -/
def ofLetters (letters : List Char) : List Token :=
  if letters.isEmpty then [] else [word (String.ofList letters)]

/-- The tokens of a text that follows the first letters of a word. -/
def scan (letters : List Char) : List Char → Option (List Token)
  | [] => some (ofLetters letters)
  | '<' :: '=' :: rest => after (comparison .lessOrEqual) (scan [] rest)
  | '<' :: '>' :: rest => after (comparison .notEqual) (scan [] rest)
  | '>' :: '=' :: rest => after (comparison .greaterOrEqual) (scan [] rest)
  | c :: rest =>
    if isWordChar c then scan (letters ++ [c]) rest
    else do
      let ts ← ofChar? c
      return ofLetters letters ++ ts ++ (← scan [] rest)
where
  /-- Puts the ended word and a token before the others. -/
  after (t : Token) (rest : Option (List Token)) : Option (List Token) :=
    rest.map fun ts => ofLetters letters ++ t :: ts

/-- The tokens of a text. -/
def ofText? (sql : String) : Option (List Token) :=
  scan [] sql.toList

/-- Puts values in the place of placeholders, from left to right. Placeholders beyond the
last value stand for NULL. -/
def bind : List Token → List Value → List Token
  | [], _ => []
  | placeholder :: ts, v :: vs => literal v :: bind ts vs
  | placeholder :: ts, [] => literal .null :: bind ts []
  | t :: ts, vs => t :: bind ts vs

/-- The number of placeholders. -/
def placeholders (ts : List Token) : Nat :=
  ts.count placeholder

end Token

namespace Fragment

/-- The tokens of a fragment, with its parameters in place. -/
def tokens? (f : Fragment) : Option (List Token) :=
  (Token.ofText? f.sql).map fun ts => Token.bind ts (f.params.map Value.bound)

end Fragment

end SqlCompose
