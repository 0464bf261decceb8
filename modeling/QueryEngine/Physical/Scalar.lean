import QueryEngine.Config
import QueryEngine.Expr.Basic
import QueryEngine.Function.Registry
import QueryEngine.Operation.Cast

namespace QueryEngine

structure Context where
  params : List Value := []
  config : Config := {}

def Context.param (ctx : Context) (i : Nat) : Except Error Value :=
  match ctx.params[i]? with
  | some v => .ok v
  | none => .error (.execution (.missingParameter i ctx.params.length))

inductive Scalar where
  | column (i : Nat)
  | literal (v : Value)
  | param (i : Nat)
  | unary (op : UnaryOp) (e : Scalar)
  | binary (op : BinaryOp) (left right : Scalar)
  | pattern (op : BinaryOp) (e : Scalar) (r : Regex)
  | between (e low high : Scalar)
  | tuple (es : List Scalar)
  | call (f : ScalarFunction) (args : List Scalar)
  | caseWhen (branches : List (Scalar × Scalar)) (default : Option Scalar)
  | cast (e : Scalar) (type : DataType)
  | item (e : Scalar) (key : Value)

namespace Scalar

def constantPattern? (op : BinaryOp) (right : Expr) : Option String :=
  match right with
  | .const (.string text) => if op.isPatternMatch then some text else none
  | _ => none

variable (schema : Schema) (functions : FunctionRegistry)

mutual

/-- Bind an expression to the columns of a schema. Aggregate calls and `*` have no place here. -/
def plan : Expr → Except Error Scalar
  | .var path => do return column (← schema.position path)
  | .const v => .ok (literal v)
  | .param i => .ok (param i)
  | .unary op e => do return unary op (← plan e)
  | .binary op l r => do
    let left ← plan l
    match constantPattern? op r with
    | some text => return pattern op left (← Operation.compilePattern op text)
    | none => return binary op left (← plan r)
  | .between e low high => do return between (← plan e) (← plan low) (← plan high)
  | .tuple es => do return tuple (← planList es)
  | .call name args => do
    if functions.isAggregate name then .error (.execution (.aggregateInScalar name))
    let f ← functions.scalar name
    return call f (← planList args)
  | .rename _ e => plan e
  | .star _ => .error (.internal .starPlanned)
  | .caseWhen branches default => do
    let bs ← planBranches branches
    return caseWhen bs (← planDefault default)
  | .cast e type => do return cast (← plan e) type
  | .item e key => do return item (← plan e) key

def planList : List Expr → Except Error (List Scalar)
  | [] => .ok []
  | e :: es => do
    let s ← plan e
    return s :: (← planList es)

def planBranches : List (Expr × Expr) → Except Error (List (Scalar × Scalar))
  | [] => .ok []
  | (c, r) :: rest => do
    let cond ← plan c
    let result ← plan r
    return (cond, result) :: (← planBranches rest)

def planDefault : Option Expr → Except Error (Option Scalar)
  | none => .ok none
  | some e => do return some (← plan e)

end

def columnValue (row : Row) (i : Nat) : Except Error Value :=
  match row[i]? with
  | some v => .ok v
  | none => .error (.internal (.columnOutOfBounds i row.length))

variable (ctx : Context) (row : Row)

mutual

def eval : Scalar → Except Error Value
  | column i => columnValue row i
  | literal v => .ok v
  | param i => ctx.param i
  | unary op e => do Operation.unary op (← eval e)
  | binary op l r => do
    let a ← eval l
    let b ← eval r
    Operation.binary op a b
  | pattern op e r => do Operation.matchPattern op (← eval e) r
  | between e low high => do
    let v ← eval e
    let above ← Operation.binary .ge v (← eval low)
    let below ← Operation.binary .le v (← eval high)
    Operation.binary .and above below
  | tuple es => do return .list (← evalList es)
  | call f args => do f.invoke (← evalList args)
  | caseWhen branches default => do
    match ← evalBranches branches with
    | some v => return v
    | none => evalDefault default
  | cast e type => do Operation.cast (← eval e) type
  | item e key => do Operation.itemGet (← eval e) key

def evalList : List Scalar → Except Error (List Value)
  | [] => .ok []
  | e :: es => do
    let v ← eval e
    return v :: (← evalList es)

def evalBranches : List (Scalar × Scalar) → Except Error (Option Value)
  | [] => .ok none
  | (c, r) :: rest => do
    if (← eval c).isTrue then return some (← eval r)
    evalBranches rest

def evalDefault : Option Scalar → Except Error Value
  | none => .ok .null
  | some e => eval e

end

def passes (e : Scalar) : Except Error Bool := do
  return (← eval ctx row e).isTrue

end Scalar

end QueryEngine
