import SqlCompose.Predicate
import SqlCompose.Sql.Pattern
import SqlCompose.Sql.Token

/-! SQL conditions as expressions: how they are read from tokens, and their result in the
three-valued logic of SQL. -/

namespace SqlCompose

/-- An operand: a column, possibly of a named table, or a value. -/
inductive Term where
  | column (qualifier : Option String) (name : String)
  | literal (v : Value)
deriving DecidableEq

inductive Condition where
  | compare (c : Comparison) (a b : Term)
  | between (negated : Bool) (a low high : Term)
  | isIn (negated : Bool) (a : Term) (items : List Term)
  | like (negated : Bool) (a pattern : Term)
  | isNull (negated : Bool) (a : Term)
  | not (c : Condition)
  | and (c d : Condition)
  | or (c d : Condition)
deriving DecidableEq

/-- The values of columns. What is compared with a numeric column is taken as a number if it
stands for one, as it is for row ids. -/
structure Valuation where
  value : (qualifier : Option String) → (name : String) → Value
  isNumeric : (qualifier : Option String) → (name : String) → Bool

/-! ### Results -/

namespace Term

def value (ρ : Valuation) : Term → Value
  | column qualifier name => ρ.value qualifier name
  | literal v => v

def isNumeric (ρ : Valuation) : Term → Bool
  | column qualifier name => ρ.isNumeric qualifier name
  | literal _ => false

/-- The column that an operand is, if it is one. -/
def column? : Term → Option (Option String × String)
  | column qualifier name => some (qualifier, name)
  | literal _ => none

/-- The order of the values of two operands, if neither is NULL. -/
def order? (ρ : Valuation) (a b : Term) : Option Ordering :=
  (if b.isNumeric ρ then (a.value ρ).numeric else a.value ρ).order?
    (if a.isNumeric ρ then (b.value ρ).numeric else b.value ρ)

end Term

/-! The three-valued logic: no value stands for "unknown". -/

namespace Truth

def not (a : Option Bool) : Option Bool :=
  a.map (!·)

def and : Option Bool → Option Bool → Option Bool
  | some false, _ | _, some false => some false
  | some true, some true => some true
  | _, _ => none

def or : Option Bool → Option Bool → Option Bool
  | some true, _ | _, some true => some true
  | some false, some false => some false
  | _, _ => none

/-- The opposite if `negated`. -/
def negateIf (negated : Bool) (a : Option Bool) : Option Bool :=
  if negated then not a else a

end Truth

namespace Condition

def compareTerms (ρ : Valuation) (c : Comparison) (a b : Term) : Option Bool :=
  (a.order? ρ b).map c.holds

/-- Whether a text fits a pattern. Values other than texts fit none. -/
def likeTerms (ρ : Valuation) (a pattern : Term) : Option Bool :=
  match a.value ρ, pattern.value ρ with
  | .null, _ | _, .null => none
  | .text s, .text p => some (Pattern.fits p.toList s.toList)
  | _, _ => some false

/-- The result of a condition; none if it is unknown. -/
def eval (ρ : Valuation) : Condition → Option Bool
  | compare c a b => compareTerms ρ c a b
  | between negated a low high =>
    Truth.negateIf negated
      (Truth.and (compareTerms ρ .greaterOrEqual a low) (compareTerms ρ .lessOrEqual a high))
  | isIn negated a items =>
    Truth.negateIf negated
      (items.foldr (fun b found => Truth.or (compareTerms ρ .equal a b) found) (some false))
  | like negated a pattern => Truth.negateIf negated (likeTerms ρ a pattern)
  | isNull negated a => Truth.negateIf negated (some (a.value ρ == .null))
  | not c => Truth.not (c.eval ρ)
  | and c d => Truth.and (c.eval ρ) (d.eval ρ)
  | or c d => Truth.or (c.eval ρ) (d.eval ρ)

/-! ### Reading -/

/-- Words that are not names of columns, unless they are qualified. -/
def keywords : List String :=
  ["AND", "OR", "NOT", "BETWEEN", "IN", "LIKE", "IS", "NULL"]

/-- A whole number that is written out. -/
def wholeNumber? (word : String) : Option Value :=
  if word.toList.all Char.isDigit && Numeral.ofDigits word.toList ≤ Int64.maxValue.toInt then
    some (.integer (Int64.ofNat (Numeral.ofDigits word.toList)))
  else none

/-- Reads an operand. A word before a point is always the name of a table. -/
def readTerm : List Token → Option (Term × List Token)
  | .word qualifier :: .dot :: .word name :: ts => some (.column (some qualifier) name, ts)
  | .literal v :: ts => some (.literal v, ts)
  | .word "NULL" :: ts => some (.literal .null, ts)
  | .word w :: ts =>
    match wholeNumber? w with
    | some v => some (.literal v, ts)
    | none => if w ∈ keywords then none else some (.column none w, ts)
  | _ => none

/-- Reads the values of a list and the parenthesis that closes it. -/
def readItems : List Token → Option (List Term × List Token)
  | .closing :: ts => some ([], ts)
  | .literal v :: .comma :: ts => (readItems ts).map fun r => (.literal v :: r.1, r.2)
  | .literal v :: .closing :: ts => some ([.literal v], ts)
  | _ => none

/-- Reads the rest of a test, after its first operand. BETWEEN takes the AND that follows
its lower bound. -/
def readTest (a : Term) : List Token → Option (Condition × List Token)
  | .comparison c :: ts => (readTerm ts).map fun b => (.compare c a b.1, b.2)
  | .word "IS" :: .word "NULL" :: ts => some (.isNull false a, ts)
  | .word "IS" :: .word "NOT" :: .word "NULL" :: ts => some (.isNull true a, ts)
  | .word "NOT" :: ts => readNegatable true ts
  | ts => readNegatable false ts
where
  /-- The tests that have a negated form. -/
  readNegatable (negated : Bool) : List Token → Option (Condition × List Token)
    | .word "BETWEEN" :: ts => do
      let (low, ts) ← readTerm ts
      match ts with
      | .word "AND" :: ts =>
        let (high, ts) ← readTerm ts
        return (.between negated a low high, ts)
      | _ => none
    | .word "IN" :: .opening :: ts =>
      (readItems ts).map fun r => (.isIn negated a r.1, r.2)
    | .word "LIKE" :: ts => (readTerm ts).map fun p => (.like negated a p.1, p.2)
    | _ => none

/-- The meaning of conditions in a row, where AND binds tighter than OR. -/
def chain (first : Condition) : List (Connective × Condition) → Condition
  | [] => first
  | (.and, c) :: rest => chain (.and first c) rest
  | (.or, c) :: rest => .or first (chain c rest)

mutual

/-- Reads conditions in a row, as far as they go. -/
def readChain : (depth : Nat) → List Token → Option (Condition × List Token)
  | 0, _ => none
  | depth + 1, ts => do
    let (first, ts) ← readItem depth ts
    let (rest, ts) ← readRest depth ts
    return (chain first rest, ts)

/-- Reads the conditions that follow with their connectives. -/
def readRest : (depth : Nat) → List Token → Option (List (Connective × Condition) × List Token)
  | 0, _ => none
  | depth + 1, .word "AND" :: ts => do
    let (c, ts) ← readItem depth ts
    let (rest, ts) ← readRest depth ts
    return ((.and, c) :: rest, ts)
  | depth + 1, .word "OR" :: ts => do
    let (c, ts) ← readItem depth ts
    let (rest, ts) ← readRest depth ts
    return ((.or, c) :: rest, ts)
  | _ + 1, ts => some ([], ts)

/-- Reads one condition: a negated one, one in parentheses, or a test. NOT binds tighter
than the connectives. -/
def readItem : (depth : Nat) → List Token → Option (Condition × List Token)
  | 0, _ => none
  | depth + 1, ts =>
    match ts with
    | .word w :: .dot :: rest => do
      let (a, ts) ← readTerm (.word w :: .dot :: rest)
      readTest a ts
    | .word "NOT" :: ts => (readItem depth ts).map fun r => (.not r.1, r.2)
    | .opening :: ts => do
      let (c, ts) ← readChain depth ts
      match ts with
      | .closing :: ts => return (c, ts)
      | _ => none
    | ts => do
      let (a, ts) ← readTerm ts
      readTest a ts

end

/-- The condition that all the tokens make up. Every step of reading but three uses up a
token. -/
def ofTokens? (ts : List Token) : Option Condition :=
  match readChain (3 * ts.length + 3) ts with
  | some (c, []) => some c
  | _ => none

end Condition

end SqlCompose
