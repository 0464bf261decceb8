import QueryEngine.Plan.Walk
import QueryEngine.Typing.Projection

namespace QueryEngine

def sortKey : Expr → Expr × Bool
  | .unary .desc e => (e, true)
  | .unary .asc e => (e, false)
  | e => (e, false)

namespace Plan

/-- The input and expressions of the projection that a grouping groups. -/
def groupedProjection (input : Plan) : Except Error (Plan × List Expr) :=
  match input with
  | project i es _ => .ok (i, es)
  | p => .error (.internal (.groupedInput p.kind))

end Plan

namespace Typing

open Plan

variable (functions : FunctionRegistry)

def checkAll (schema : Schema) : List Expr → Except Error Unit
  | [] => .ok ()
  | e :: es => do
    let _ ← fieldOf schema functions e
    checkAll schema es

def checkPredicate (schema : Schema) : Option Expr → Except Error Unit
  | none => .ok ()
  | some e => do
    let _ ← fieldOf schema functions e
    return ()

/-- A grouping key over the input of the projection. A bare name that only the projection's
output has stands for the projected expression, which may not be an aggregate. -/
def groupKey (input output : Schema) (projected : List Expr) (key : Expr) : Except Error Expr :=
  match key with
  | .var path => do
    if (← input.resolve? path).isSome then return key
    match ← output.resolve? path with
    | none => return key
    | some (position, _) =>
      let e ← projectedAt input position 0 projected
      if isAggregateCall functions e then .error (.invalidPlan (.groupByAggregate path))
      return e
  | key => .ok key

def groupKeysOver (input output : Schema) (projected : List Expr) :
    List Expr → Except Error (List Expr)
  | [] => .ok []
  | key :: keys => do
    let e ← groupKey functions input output projected key
    return e :: (← groupKeysOver input output projected keys)

def groupKeys (input : Plan) (keys : List Expr) : Except Error (List Expr) := do
  let (inner, projected) ← groupedProjection input
  groupKeysOver functions (← inner.outputSchema) (← input.outputSchema) projected keys

def padded (f : Field) : Field :=
  if f.mode = .required then { f with mode := .nullable } else f

def joinSchema (type : JoinType) (left right : Schema) : Schema :=
  match type with
  | .inner => Schema.merge left right
  | .left =>
    ⟨none, left.fields.map left.owned ++ (right.fields.map right.owned).map padded⟩

def checkUnion : List Field → List Field → Except Error Unit
  | l :: ls, r :: rs =>
    if l.type.isCompatible r.type then checkUnion ls rs
    else .error (.typeMismatch l.type r.type)
  | _, _ => .ok ()

def unionSchema (left right : Schema) : Except Error Schema := do
  if left.size ≠ right.size then
    .error (.invalidPlan (.unionArity left.size right.size))
  checkUnion left.fields right.fields
  return left

def argSchemas : List (TableArg Plan) → Except Error (List (TableArg Schema))
  | [] => .ok []
  | .constant v :: args => do return .constant v :: (← argSchemas args)
  | .relation p :: args => do
    let s ← p.outputSchema
    return .relation s :: (← argSchemas args)

/-- The schema of a node whose children have theirs. `relation` knows the schemas of names; a load
that carries a schema keeps it, and a nameless schema takes the name of the load. -/
def nodeSchema (relation : String → Except Error Schema) : Plan → Except Error Schema
  | load name schema =>
    if name = "" then .ok Schema.empty
    else
      match schema with
      | some s => .ok s
      | none => do
        let s ← relation name
        return s.withName (s.name <|> some name)
  | aliased name input _ => do return (← input.outputSchema).qualified name
  | project input es _ => do
    let s ← input.outputSchema
    return ⟨none, ← projectionFields s functions es⟩
  | select input predicate _ => do
    let s ← input.outputSchema
    checkPredicate functions s predicate
    return s
  | join left right predicate type _ => do
    let l ← left.outputSchema
    let r ← right.outputSchema
    let s := joinSchema type l r
    checkPredicate functions s predicate
    return s
  | unionAll left right _ => do unionSchema (← left.outputSchema) (← right.outputSchema)
  | orderBy input keys _ => do
    let s ← input.outputSchema
    checkAll functions s (keys.map fun k => (sortKey k).1)
    return s
  | groupBy input keys _ _ => do
    let (inner, _) ← groupedProjection input
    let s ← inner.outputSchema
    checkAll functions s (← groupKeys functions input keys)
    input.outputSchema
  | slice input _ _ _ => input.outputSchema
  | tableFunction name args _ => do
    let f ← functions.table name
    f.schema (← argSchemas args)
  | placeholder => .error (.internal .placeholderResolved)

def bindAggregates : Plan → Except Error Plan
  | groupBy input keys _ schema => do
    let (inner, projected) ← groupedProjection input
    let s ← inner.outputSchema
    return groupBy input keys (← aggregateBindings s functions projected) schema
  | p => .ok p

def resolveNode (relation : String → Except Error Schema) (p : Plan) : Except Error Plan := do
  let s ← nodeSchema functions relation p
  return (← bindAggregates functions p).withSchema s

/-- The rule that resolves every node but holes. -/
def rule {m : Type → Type} [Monad m] [MonadExceptOf Error m]
    (relation : String → Except Error Schema) : Rule m where
  applies c :=
    match c.node with
    | .placeholder => false
    | _ => true
  transform c := do return c.replace (← Walk.lift (resolveNode functions relation c.node))

end Typing

end QueryEngine
