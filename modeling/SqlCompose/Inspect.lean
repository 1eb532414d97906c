/-! The shape of inspections: one-line texts that show the parts of a state by name. -/

namespace SqlCompose.Inspect

/-- Named parts in braces after the name of the whole. -/
def record (name : String) (parts : List (String × String)) : String :=
  name ++ " \x7b " ++ ", ".intercalate (parts.map fun p => p.1 ++ ": " ++ p.2) ++ " \x7d"

/-- Unnamed parts in parentheses after the name of the whole. -/
def tuple (name : String) (parts : List String) : String :=
  name ++ "(" ++ ", ".intercalate parts ++ ")"

def list (items : List String) : String :=
  "[" ++ ", ".intercalate items ++ "]"

def optional : Option String → String
  | none => "None"
  | some item => tuple "Some" [item]

end SqlCompose.Inspect
