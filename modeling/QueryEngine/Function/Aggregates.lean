import QueryEngine.Function.Basic
import QueryEngine.Operation.Basic

namespace QueryEngine.Aggregate

def firstArg (args : List Value) : Value :=
  args.headD .null

/-- Fold the arguments that are not NULL; the first of them seeds the state. -/
def skipNulls (f : Value → Value → Except Error Value) (state : Value) (args : List Value) :
    Except Error Value :=
  match state, firstArg args with
  | state, .null => .ok state
  | .null, arg => .ok arg
  | state, arg => f state arg

/-- Without arguments the rows are counted, with one those where it is not NULL. -/
def count : Aggregate where
  name := "count"
  returns := .fixed { name := "count", type := .integer }
  initial := .integer 0
  combine state args :=
    if args.head?.any Value.isNull then .ok state
    else Operation.binary .plus state (.integer 1)

def sum : Aggregate where
  name := "sum"
  returns := .firstArgument "sum"
  initial := .null
  combine := skipNulls fun state arg => Operation.binary .plus state arg

def min : Aggregate where
  name := "min"
  returns := .firstArgument "min"
  initial := .null
  combine := skipNulls fun state arg => .ok (if arg.cmp state == .lt then arg else state)

def max : Aggregate where
  name := "max"
  returns := .firstArgument "max"
  initial := .null
  combine := skipNulls fun state arg => .ok (if arg.cmp state == .gt then arg else state)

def averageState (state : Value) : Except Error (Int64 × Value) :=
  match state with
  | .list [.integer count, sum] => .ok (count, sum)
  | .list [count, _] => .error (.internal (.averageCount count))
  | state => .error (.internal (.averageState state))

def average : Aggregate where
  name := "avg"
  returns := .fixed { name := "avg", type := .float }
  initial := .list [.integer 0, .float Binary64.zero]
  combine state args :=
    let arg := firstArg args
    if arg.isNull then .ok state
    else do
      let (count, sum) ← averageState state
      let sum ← Operation.binary .plus sum arg
      return .list [.integer (count + 1), sum]
  finalize state := do
    let (count, sum) ← averageState state
    if count = 0 then return .null
    Operation.binary .divide (.float (sum.toFloat?.getD Binary64.zero))
      (.float (Binary64.ofInt count.toInt))

def builtins : List Aggregate :=
  [count, sum, min, max, average]

end QueryEngine.Aggregate
