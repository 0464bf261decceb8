import QueryEngine.Binary64.Decimal
import QueryEngine.Calendar
import QueryEngine.DataType

namespace QueryEngine

inductive Value where
  | null
  | boolean (b : Bool)
  | integer (i : Int64)
  | float (x : Binary64)
  | string (s : String)
  | date (d : Date)
  | datetime (t : DateTime)
  | time (t : Time)
  | list (vs : List Value)
  | record (fields : List (String × Value))
deriving Inhabited

abbrev Row := List Value

namespace Value

def isNull : Value → Bool
  | null => true
  | _ => false

def isTrue : Value → Bool
  | boolean true => true
  | _ => false

@[simp] theorem isTrue_boolean (b : Bool) : (boolean b).isTrue = b := by
  cases b <;> rfl

def toFloat? : Value → Option Binary64
  | integer i => some (Binary64.ofInt i.toInt)
  | float x => some x
  | _ => none

def toString? : Value → Option String
  | string s => some s
  | _ => none

def type : Value → DataType
  | null => .null
  | boolean _ => .boolean
  | integer _ => .integer
  | float _ => .float
  | string _ => .string
  | date _ => .date
  | datetime _ => .datetime
  | time _ => .time
  | list [] => .null
  | list (v :: _) => v.type
  | record _ => .record

def fieldOrNull (name : String) (fields : List (String × Value)) : Value :=
  ((fields.find? (·.1 = name)).map (·.2)).getD null

def inlineSize : Nat := 32

mutual

/-- The bytes that a value takes. A string counts with its text; the capacity that it may have to
spare is not modelled. -/
def size : Value → Nat
  | string s => inlineSize + s.utf8ByteSize
  | list vs => inlineSize + sizeList vs
  | record fields => inlineSize + sizeFields fields
  | _ => inlineSize

def sizeList : List Value → Nat
  | [] => 0
  | v :: vs => v.size + sizeList vs

def sizeFields : List (String × Value) → Nat
  | [] => 0
  | (name, v) :: fields => name.utf8ByteSize + 24 + v.size + sizeFields fields

end

end Value

def Row.size (row : Row) : Nat :=
  24 + Value.sizeList row

end QueryEngine
