/-! Counters for the numbers that tell colliding aliases apart. Every counter counts
modulo `2 ^ 64` and may be shared by any number of queries. -/

namespace SqlCompose

/-- A counter: the one shared by all queries unless they are given another, or one of the
caller's, by name. -/
inductive CounterId where
  | shared
  | named (name : String)
deriving DecidableEq

/-- The next value of every counter. One that is not listed is at 1. -/
structure Counters where
  next : List (CounterId × UInt64)

namespace Counters

/-- The value that a counter gives next. -/
def peek (cs : Counters) (id : CounterId) : UInt64 :=
  (cs.next.lookup id).getD 1

/-- Puts a counter at a value. -/
def put (cs : Counters) (id : CounterId) (n : UInt64) : Counters :=
  ⟨(id, n) :: cs.next.filter fun entry => entry.1 != id⟩

/-- Takes one value from a counter. -/
def take (cs : Counters) (id : CounterId) : UInt64 × Counters :=
  (cs.peek id, cs.put id (cs.peek id + 1))

def inspect (cs : Counters) : CounterId → String
  | .shared => "GlobalCounter"
  | .named name => "LocalCounter(" ++ toString (cs.peek (.named name)).toNat ++ ")"

end Counters

end SqlCompose
