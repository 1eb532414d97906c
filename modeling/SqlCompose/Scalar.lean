import SqlCompose.Calendar
import SqlCompose.Error
import SqlCompose.Json
import SqlCompose.Text.Hex
import SqlCompose.Value

/-! Typed values before they are bound, their types, and how they become storable. -/

namespace SqlCompose

/-- A fixed-width integer type. -/
inductive IntegerType where
  | int8
  | uint8
  | int16
  | uint16
  | int32
  | uint32
  | int64
  | uint64
deriving DecidableEq

namespace IntegerType

def isSigned : IntegerType → Bool
  | int8 | int16 | int32 | int64 => true
  | uint8 | uint16 | uint32 | uint64 => false

def bits : IntegerType → Nat
  | int8 | uint8 => 8
  | int16 | uint16 => 16
  | int32 | uint32 => 32
  | int64 | uint64 => 64

def least (t : IntegerType) : Int :=
  if t.isSigned then -(1 <<< (t.bits - 1) : Nat) else 0

def greatest (t : IntegerType) : Int :=
  if t.isSigned then (1 <<< (t.bits - 1) : Nat) - 1 else (1 <<< t.bits : Nat) - 1

/-- Refuses an integer that the type does not have. -/
def check (t : IntegerType) (n : Int) : Except Error Int :=
  if t.greatest < n then .error .integerTooLarge
  else if n < t.least then .error .integerTooSmall
  else .ok n

end IntegerType

/-- A typed value. Integers are kept at their widest; `behind` is a value reached through
a pointer of any sort. -/
inductive Scalar where
  | absent
  | present (s : Scalar)
  | behind (s : Scalar)
  | signed (n : Int64)
  | unsigned (n : UInt64)
  | single (x : Binary32)
  | double (x : Binary64)
  | boolean (b : Bool)
  | text (s : String)
  | bytes (bs : List UInt8)
  | stored (v : Value)
  | json (j : Json)
  | uuid (n : BitVec 128)
  | date (d : Date)
  | dateTime (t : DateTime)
  | zoned (t : ZonedDateTime)

/-- The types of fields, whose kind does not depend on the value. -/
inductive ScalarType where
  | integer (t : IntegerType)
  | nonZero (t : IntegerType)
  | single
  | double
  | boolean
  | text
  | bytes
  | json
  | uuid
  | date
  | dateTime
  | zoned
  | optional (t : ScalarType)
deriving DecidableEq

/-- The kind of the values of a type, absent ones apart. -/
def ScalarType.kind : ScalarType → Kind
  | integer _ | nonZero _ | single | double => .number
  | boolean => .boolean
  | text | uuid => .string
  | bytes | json => .object
  | date | dateTime | zoned => .date
  | optional t => t.kind

/-- The canonical text of a 128-bit identifier: 32 digits in groups of 8, 4, 4, 4, 12. -/
def uuidText (n : BitVec 128) : String :=
  let digits := Text.hexDigits 32 n.toNat
  let group (start size : Nat) := String.ofList ((digits.drop start).take size)
  "-".intercalate [group 0 8, group 8 4, group 12 4, group 16 4, group 20 12]

namespace Scalar

def kind : Scalar → Kind
  | absent => .null
  | present s | behind s => s.kind
  | signed _ | unsigned _ | single _ | double _ => .number
  | boolean _ => .boolean
  | text _ | uuid _ => .string
  | bytes _ | json _ => .object
  | stored v => v.kind
  | date _ | dateTime _ | zoned _ => .date

/-- The value that is stored for a scalar. Objects are stored as text, dates as epoch
milliseconds; only integers beyond 63 bits have none. -/
def toValue : Scalar → Except Error Value
  | absent => .ok .null
  | present s | behind s => s.toValue
  | signed n => .ok (.integer n)
  | unsigned n =>
    if n.toNat ≤ Int64.maxValue.toInt then .ok (.integer (Int64.ofNat n.toNat))
    else .error .integerTooLarge
  | single x => .ok (.real x.widen)
  | double x => .ok (.real x)
  | boolean b => .ok (.integer (if b then 1 else 0))
  | text s => .ok (.text s)
  | bytes bs => .ok (.blob bs)
  | stored v => .ok v
  | json j => .ok (.text j.compact)
  | uuid n => .ok (.text (uuidText n))
  | date d => .ok (.integer (Int64.ofInt d.epochMillis))
  | dateTime t => .ok (.integer (Int64.ofInt t.epochMillis))
  | zoned t => .ok (.integer (Int64.ofInt t.epochMillis))

end Scalar

namespace IntegerType

/-- An integer of the type as a scalar. -/
def toScalar (t : IntegerType) (n : Int) : Scalar :=
  if t.isSigned then .signed (Int64.ofInt n) else .unsigned (UInt64.ofInt n)

end IntegerType

/-- A generated key as a value of the type of the key field. Only integer types, possibly
optional, can take one. -/
def ScalarType.ofKey (t : ScalarType) (key : Int64) : Except Error Scalar :=
  match t with
  | integer i => (i.check key.toInt).map i.toScalar
  | optional t => (t.ofKey key).map .present
  | _ => .error (.custom "the key field does not hold an integer")

end SqlCompose
