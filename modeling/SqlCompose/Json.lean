import SqlCompose.Number.Layout
import SqlCompose.Number.Numeral

/-! JSON values and their compact text. -/

namespace SqlCompose

/-- A JSON value. Numbers are integers or doubles, by the way they were written. -/
inductive Json where
  | null
  | boolean (b : Bool)
  | integer (n : Int)
  | real (x : Binary64)
  | text (s : String)
  | array (items : List Json)
  | object (members : List (String × Json))

namespace Json

/-! ### Parts of values -/

/-- The last member of an object that has the given name. -/
def member? (j : Json) (name : String) : Option Json :=
  match j with
  | object members => members.reverse.lookup name
  | _ => none

def text? : Json → Option String
  | text s => some s
  | _ => none

def items? : Json → Option (List Json)
  | array items => some items
  | _ => none

/-- Whether a value is the truth value for "yes". -/
def isTrue : Json → Bool
  | boolean b => b
  | _ => false

/-- An integer, be it written as a number or as a text. -/
def integer? : Json → Option Int
  | integer n => some n
  | text s => (Numeral.read? s.toList).map Numeral.signedDigits
  | _ => none

/-! ### Compact text -/

/-- A character inside a JSON string. Only quotes, backslashes and controls are escaped. -/
def escapedChar (c : Char) : String :=
  match c with
  | '"' => "\\\""
  | '\\' => "\\\\"
  | '\x08' => "\\b"
  | '\t' => "\\t"
  | '\n' => "\\n"
  | '\x0c' => "\\f"
  | '\r' => "\\r"
  | c =>
    if c.toNat < 0x20 then
      "\\u00" ++ (if c.toNat < 0x10 then "0" else "1") ++
        String.singleton (Nat.digitChar (c.toNat % 16))
    else String.singleton c

def quoted (s : String) : String :=
  "\"" ++ String.join (s.toList.map escapedChar) ++ "\""

/-- Puts a member at its place among members sorted by name, over one of that name. -/
def insertMember (name text : String) : List (String × String) → List (String × String)
  | [] => [(name, text)]
  | (n, t) :: rest =>
    if name < n then (name, text) :: (n, t) :: rest
    else if name = n then (name, text) :: rest
    else (n, t) :: insertMember name text rest

mutual

/-- The text without blanks, the members of objects sorted by name. Of two members with
one name the later counts. -/
def compact : Json → String
  | null => "null"
  | boolean b => if b then "true" else "false"
  | integer n => toString n
  | real x => NumberLayout.json.write x
  | text s => quoted s
  | array items => "[" ++ ",".intercalate (compactItems items) ++ "]"
  | object members =>
    let sorted := (compactMembers members).foldl (fun ms m => insertMember m.1 m.2 ms) []
    "\x7b" ++ ",".intercalate (sorted.map fun m => quoted m.1 ++ ":" ++ m.2) ++ "\x7d"

def compactItems : List Json → List String
  | [] => []
  | item :: items => compact item :: compactItems items

def compactMembers : List (String × Json) → List (String × String)
  | [] => []
  | (name, value) :: members => (name, compact value) :: compactMembers members

end

/-! ### Numbers -/

/-- The value of a number as it is written: a whole one is an integer, as long as it has at
most 64 bits. A negative zero is a double. -/
def ofNumeral (n : Numeral) : Json :=
  let z := n.signedDigits
  if n.whole ∧ Int64.minValue.toInt ≤ z ∧ z < UInt64.size ∧ ¬ (n.negative ∧ z = 0) then integer z
  else real n.scaledBinary64

end Json

end SqlCompose
