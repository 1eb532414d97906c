/-! The LIKE operator: `%` stands for any characters, `_` for any one, and every other
character for itself, whatever its case if it is an ASCII letter. -/

namespace SqlCompose.Pattern

/-- Equality of characters up to ASCII case. -/
def sameLetter (c d : Char) : Bool :=
  c.toLower == d.toLower

/-- Whether a property holds for the text after some of its first characters. -/
def anySuffix (p : List Char → Bool) : List Char → Bool
  | [] => p []
  | c :: rest => p (c :: rest) || anySuffix p rest

/-- Whether a text as a whole fits a pattern. -/
def fits : (pattern text : List Char) → Bool
  | [], text => text.isEmpty
  | '%' :: pattern, text => anySuffix (fun rest => fits pattern rest) text
  | '_' :: _, [] => false
  | '_' :: pattern, _ :: text => fits pattern text
  | _ :: _, [] => false
  | c :: pattern, d :: text => sameLetter c d && fits pattern text

end SqlCompose.Pattern
