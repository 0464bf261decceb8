namespace QueryEngine

/-- The type of a field. `null` is the type of a NULL literal, or of a value known only when a
query runs. -/
inductive DataType where
  | integer | float | string | boolean | date | datetime | time | record | binary | null
deriving DecidableEq, Repr, Inhabited

namespace DataType

def name : DataType → String
  | integer => "INTEGER"
  | float => "FLOAT"
  | string => "STRING"
  | boolean => "BOOLEAN"
  | date => "DATE"
  | datetime => "DATETIME"
  | time => "TIME"
  | record => "RECORD"
  | binary => "BINARY"
  | null => "NULL"

def all : List DataType :=
  [integer, float, string, boolean, date, datetime, time, record, binary, null]

def ofName? (s : String) : Option DataType :=
  all.find? (·.name = s)

def isNumeric : DataType → Bool
  | integer | float => true
  | _ => false

/-- Whether a value of one type may stand where the other is expected: equal types, NULL with
everything, and integers with floats. -/
def isCompatible (a b : DataType) : Bool :=
  a = b || a = null || b = null || (a.isNumeric && b.isNumeric)

end DataType

end QueryEngine
