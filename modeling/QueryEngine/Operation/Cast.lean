import QueryEngine.Calendar.Reading
import QueryEngine.Error
import QueryEngine.Operation.Basic

namespace QueryEngine.Operation

open Text

def readInteger? (cs : List Char) : Option Int64 :=
  let (negative, ds) := Binary64.splitSign cs
  if ds.isEmpty || !ds.all isDigit then none
  else checked? (if negative then -(digitsValue ds : Int) else digitsValue ds)

def readBoolean? (cs : List Char) : Option Bool :=
  match String.ofList (cs.map Char.toLower) with
  | "true" | "t" | "1" => some true
  | "false" | "f" | "0" => some false
  | _ => none

def toInteger? : Value → Option Value
  | .integer i => some (.integer i)
  | .float x => (x.truncate?.bind checked?).map .integer
  | .boolean b => some (.integer (if b then 1 else 0))
  | .string s => (readInteger? (trim s)).map .integer
  | _ => none

def toFloat? : Value → Option Value
  | .float x => some (.float x)
  | .integer i => some (.float (Binary64.ofInt i.toInt))
  | .string s => (Binary64.read? (trim s)).map .float
  | _ => none

def toText? : Value → Option Value
  | .string s => some (.string s)
  | .list _ | .record _ => none
  | v => some (.string v.display)

def toBoolean? : Value → Option Value
  | .boolean b => some (.boolean b)
  | .integer i => some (.boolean (i != 0))
  | .string s => (readBoolean? (trim s)).map .boolean
  | _ => none

def toDate? : Value → Option Value
  | .date d => some (.date d)
  | .datetime t => some (.date t.date)
  | .string s => (Calendar.readDate? (trim s)).map .date
  | _ => none

def toDateTime? : Value → Option Value
  | .datetime t => some (.datetime t)
  | .date d => some (.datetime ⟨d, Time.midnight⟩)
  | .string s => (Calendar.readDateTime? (trim s)).map .datetime
  | _ => none

def toTime? : Value → Option Value
  | .time t => some (.time t)
  | .datetime t => some (.time t.time)
  | .string s => (Calendar.readTime? (trim s)).map .time
  | _ => none

/-- The value as one of another type, if it has one; nothing converts to records or binaries. -/
def convert? : DataType → Value → Option Value
  | .integer => toInteger?
  | .float => toFloat?
  | .string => toText?
  | .boolean => toBoolean?
  | .date => toDate?
  | .datetime => toDateTime?
  | .time => toTime?
  | .record | .binary | .null => fun _ => none

/-- NULL stays NULL, and a cast to NULL changes nothing. -/
def cast (v : Value) (type : DataType) : Except Error Value :=
  if v.isNull || type = .null then .ok v
  else
    match convert? type v with
    | some v' => .ok v'
    | none => .error (.execution (.cannotCast v type))

end QueryEngine.Operation
