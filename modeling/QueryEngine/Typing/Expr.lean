import QueryEngine.Expr.Basic
import QueryEngine.Function.Registry

namespace QueryEngine

def anonymousColumn : String := "?column?"

def Field.anonymous (type : DataType) : Field :=
  { name := anonymousColumn, type }

namespace Typing

def isChecked (op : BinaryOp) : Bool :=
  op.isArithmetic || (op.isComparison && !op.isPatternMatch && op != .mem)

def arithmeticType (left right : DataType) : DataType :=
  if left = .null then right
  else if right = .null then left
  else if left = .integer ∧ right = .integer then .integer
  else if left.isNumeric && right.isNumeric then .float
  else left

def binaryType (op : BinaryOp) (left right : DataType) : Except Error DataType :=
  if isChecked op && !left.isCompatible right then .error (.typeMismatch left right)
  else if op.isArithmetic then .ok (arithmeticType left right)
  else .ok .boolean

def unaryField (op : UnaryOp) (inner : Field) : Except Error Field :=
  match op with
  | .asc | .desc => .error (.invalidPlan (.sortDirection op))
  | .neg => .ok { inner with name := "neg(" ++ inner.name ++ ")", schemaName := none }
  | .not => .ok { name := "not(" ++ inner.name ++ ")", type := .boolean }

def itemField (inner : Field) (key : Value) : Except Error Field :=
  if inner.mode = .repeated then
    .ok { inner with mode := .nullable, name := anonymousColumn, schemaName := none }
  else
    match inner.type, key with
    | .record, .string name =>
      match inner.nested? name with
      | some nested => .ok nested
      | none =>
        .error (.missingField (inner.name ++ "." ++ name) (inner.fields.map (·.name)))
    | _, _ => .ok (.anonymous .null)

def firstKnown (types : List DataType) : DataType :=
  (types.find? (· ≠ .null)).getD .null

variable (schema : Schema) (functions : FunctionRegistry)

def callField (name : String) (args : List Field) : Except Error Field := do
  if functions.isAggregate name then
    (← functions.aggregate name).returns.resolve args
  else
    (← functions.scalar name).returns args

mutual

def fieldOf : Expr → Except Error Field
  | .var path => do
    let (_, field) ← schema.resolve path
    return schema.owned field
  | .const v => .ok (.anonymous v.type)
  | .param _ => .ok (.anonymous .null)
  | .unary op e => do unaryField op (← fieldOf e)
  | .item e key => do itemField (← fieldOf e) key
  | .binary op l r => do
    let left ← fieldOf l
    let right ← fieldOf r
    return .anonymous (← binaryType op left.type right.type)
  | .between e low high => do
    let input ← fieldOf e
    let _ ← binaryType .ge input.type (← fieldOf low).type
    let _ ← binaryType .ge input.type (← fieldOf high).type
    return .anonymous .boolean
  | .tuple es => do return { Field.anonymous (← firstType es) with mode := .repeated }
  | .call name args => do callField functions name (← fieldsOf args)
  | .rename name e => do return { ← fieldOf e with name, schemaName := none }
  | .star q => .error (.invalidPlan (.star q))
  | .caseWhen branches default => do
    let results ← resultTypes branches
    let other ← defaultTypes default
    return .anonymous (firstKnown (results ++ other))
  | .cast e type => do return { ← fieldOf e with type, fields := [] }

def fieldsOf : List Expr → Except Error (List Field)
  | [] => .ok []
  | e :: es => do
    let f ← fieldOf e
    return f :: (← fieldsOf es)

/-- The type of the first element of a tuple; the others are not looked at. -/
def firstType : List Expr → Except Error DataType
  | [] => .ok .null
  | e :: _ => do return (← fieldOf e).type

/-- The types of the results of a CASE, whose conditions must have types as well. -/
def resultTypes : List (Expr × Expr) → Except Error (List DataType)
  | [] => .ok []
  | (c, r) :: rest => do
    let _ ← fieldOf c
    let result ← fieldOf r
    return result.type :: (← resultTypes rest)

def defaultTypes : Option Expr → Except Error (List DataType)
  | none => .ok []
  | some e => do return [(← fieldOf e).type]

end

end Typing

end QueryEngine
