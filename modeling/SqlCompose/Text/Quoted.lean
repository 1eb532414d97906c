import SqlCompose.Text.PrintTables

/-! Texts in double quotes, as they appear in messages and inspections. What cannot be
read off the page is written as an escape. -/

namespace SqlCompose.Text

/-- Whether `c` shows as a glyph of its own. -/
def isPrintable (c : Char) : Bool :=
  !inSpans unprintableSpans c && !inSpans graphemeExtendSpans c

/-- An escape by code point, in lower-case hexadecimal without leading zeros. -/
def escapeByCode (c : Char) : String :=
  "\\u\x7b" ++ String.ofList (Nat.toDigits 16 c.toNat) ++ "\x7d"

def quotedChar (c : Char) : String :=
  match c with
  | '\x00' => "\\0"
  | '\t' => "\\t"
  | '\n' => "\\n"
  | '\r' => "\\r"
  | '"' => "\\\""
  | '\\' => "\\\\"
  | c => if isPrintable c then String.singleton c else escapeByCode c

/-- The text between double quotes, with escapes. -/
def quoted (s : String) : String :=
  "\"" ++ String.join (s.toList.map quotedChar) ++ "\""

end SqlCompose.Text
