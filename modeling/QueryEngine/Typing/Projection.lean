import QueryEngine.Plan.Basic
import QueryEngine.Typing.Expr

namespace QueryEngine.Typing

variable (schema : Schema) (functions : FunctionRegistry)

def projectedFields : Expr → Except Error (List Field)
  | .star q => do
    let positions ← schema.selectAll q
    return positions.map fun i => schema.owned (schema.fields.getD i default)
  | e => do return [← fieldOf schema functions e]

def projectionFields : List Expr → Except Error (List Field)
  | [] => .ok []
  | e :: es => do
    let fields ← projectedFields schema functions e
    return fields ++ (← projectionFields es)

def projectedWidth : Expr → Except Error Nat
  | .star q => do return (← schema.selectAll q).length
  | _ => .ok 1

/-- The projected expression that fills an output position, counted from `offset`, under its
renames. -/
def projectedAt (position : Nat) : Nat → List Expr → Except Error Expr
  | _, [] => .error (.internal (.projectionPosition position))
  | offset, e :: es => do
    let width ← projectedWidth schema e
    if position < offset + width then return e.unaliased
    projectedAt position (offset + width) es

def isAggregateCall (e : Expr) : Bool :=
  match e.unaliased with
  | .call name _ => functions.isAggregate name
  | _ => false

def hasAggregates (es : List Expr) : Bool :=
  es.any (isAggregateCall functions)

def aggregateBindingsFrom : Nat → List Expr → Except Error (List AggregateBinding)
  | _, [] => .ok []
  | position, e :: es =>
    match e.unaliased with
    | .star q => do
      let positions ← schema.selectAll q
      aggregateBindingsFrom (position + positions.length) es
    | .call name args => do
      let rest ← aggregateBindingsFrom (position + 1) es
      return if functions.isAggregate name then ⟨position, name, args⟩ :: rest else rest
    | _ => aggregateBindingsFrom (position + 1) es

def aggregateBindings (es : List Expr) : Except Error (List AggregateBinding) :=
  aggregateBindingsFrom schema functions 0 es

end QueryEngine.Typing
