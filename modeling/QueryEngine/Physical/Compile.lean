import QueryEngine.Adapter.Basic
import QueryEngine.Typing.Plan

namespace QueryEngine.Physical

open Typing

variable (relation : String → Except Error Relation) (functions : FunctionRegistry)
  (config : Config)

def planProjection (schema : Schema) : List Expr → Except Error (List Scalar)
  | [] => .ok []
  | .star q :: es => do
    let positions ← schema.selectAll q
    return positions.map .column ++ (← planProjection schema es)
  | e :: es => do
    let s ← Scalar.plan schema functions e
    return s :: (← planProjection schema es)

def planPredicate (schema : Schema) : Option Expr → Except Error (Option Scalar)
  | none => .ok none
  | some e => do return some (← Scalar.plan schema functions e)

def groupOutput (schema : Schema) (bindings : List AggregateBinding) (position : Nat) (e : Expr) :
    Except Error GroupOutput := do
  match bindings.find? (·.position = position) with
  | some b =>
    let a ← functions.aggregate b.function
    return .aggregate a (← Scalar.planList schema functions b.args)
  | none => return .scalar (← Scalar.plan schema functions e)

def groupOutputs (schema : Schema) (bindings : List AggregateBinding) :
    Nat → List Expr → Except Error (List GroupOutput)
  | _, [] => .ok []
  | position, .star q :: es => do
    let positions ← schema.selectAll q
    return positions.map (.scalar <| .column ·) ++
      (← groupOutputs schema bindings (position + positions.length) es)
  | position, e :: es => do
    let output ← groupOutput functions schema bindings position e
    return output :: (← groupOutputs schema bindings (position + 1) es)

/-- A projection; with aggregates but no grouping, its whole input is one group. -/
def project? (input : Physical) (schema : Schema) (exprs : List Expr) : Except Error Physical := do
  if hasAggregates functions exprs then
    let bindings ← aggregateBindings schema functions exprs
    return .group input [] (← groupOutputs functions schema bindings 0 exprs)
  return .project input (← planProjection functions schema exprs)

def sortKeys (schema : Schema) : List Expr → Except Error (List SortKey)
  | [] => .ok []
  | e :: es => do
    let s ← Scalar.plan schema functions (sortKey e).1
    return ⟨s, (sortKey e).2⟩ :: (← sortKeys schema es)

/-- Input sorted so that equal keys stand next to each other. -/
def sortedBy (input : Physical) (keys : List Scalar) : Physical :=
  if keys.isEmpty then input else .sort input (keys.map fun e => ⟨e, false⟩)

def join? (left right : Physical) (schema : Schema) (leftSize rightSize : Nat)
    (predicate : Option Expr) (type : JoinType) : Except Error Physical :=
  match JoinStrategy.select schema leftSize config predicate with
  | .hash keys => .ok (.hashJoin left right keys type rightSize)
  | .nestedBlock => do
    return .nestedJoin left right (← planPredicate functions schema predicate) type rightSize

mutual

def compile : Plan → Except Error Physical
  | .load name _ =>
    if name = "" then .ok .empty else do return .scan (← relation name).source
  | .aliased _ input _ => compile input
  | .project input exprs _ => do
    let schema ← input.outputSchema
    project? functions (← compile input) schema exprs
  | .select input none _ => do return .filter (← compile input) none
  | .select input (some e) _ => do
    let predicate ← Scalar.plan (← input.outputSchema) functions e
    return .filter (← compile input) (some predicate)
  | .join left right predicate type own => do
    let schema ← (Plan.join left right predicate type own).outputSchema
    let leftSize := (← left.outputSchema).size
    let rightSize := (← right.outputSchema).size
    let l ← compile left
    let r ← compile right
    join? functions config l r schema leftSize rightSize predicate type
  | .unionAll left right _ => do
    let l ← compile left
    return .union l (← compile right)
  | .orderBy input keys _ => do
    let sort ← sortKeys functions (← input.outputSchema) keys
    return .sort (← compile input) sort
  | .groupBy (.project inner exprs own) keys bindings _ => do
    let schema ← inner.outputSchema
    let groupKeys ← Typing.groupKeys functions (.project inner exprs own) keys
    let planned ← Scalar.planList schema functions groupKeys
    let input ← compile inner
    let outputs ← groupOutputs functions schema bindings 0 exprs
    return .group (sortedBy input planned) planned outputs
  | .groupBy input _ _ _ => .error (.internal (.groupedInput input.kind))
  | .slice input start stop _ => do return .limit (← compile input) start stop
  | .tableFunction name args _ => do
    let f ← functions.table name
    return .tableFunction f (← compileArgs args)
  | .placeholder => .error (.internal .placeholderCompiled)

def compileArgs : List (TableArg Plan) → Except Error (List (TableArg (Schema × Physical)))
  | [] => .ok []
  | .constant v :: args => do return .constant v :: (← compileArgs args)
  | .relation p :: args => do
    let schema ← p.outputSchema
    let compiled ← compile p
    return .relation (schema, compiled) :: (← compileArgs args)

end

end QueryEngine.Physical
