import QueryEngine.Join.Hash
import QueryEngine.Join.Nested
import QueryEngine.Physical.Group
import QueryEngine.Physical.Sort

namespace QueryEngine

structure RecordSource where
  records : Except Error Rows

inductive Physical where
  | empty
  | scan (source : RecordSource)
  | filter (input : Physical) (predicate : Option Scalar)
  | project (input : Physical) (exprs : List Scalar)
  | limit (input : Physical) (start stop : Option Nat)
  | union (left right : Physical)
  | sort (input : Physical) (keys : List SortKey)
  | hashJoin (left right : Physical) (keys : JoinKeys) (type : JoinType) (rightArity : Nat)
  | nestedJoin (left right : Physical) (predicate : Option Scalar) (type : JoinType)
      (rightArity : Nat)
  | group (input : Physical) (keys : List Scalar) (outputs : List GroupOutput)
  | tableFunction (function : TableFunction) (args : List (TableArg (Schema × Physical)))

namespace Rows

/-- The rows between two positions; errors met before the first are kept. -/
def limit (start stop : Option Nat) (rows : Rows) : Rows :=
  let rest := rows.skip (start.getD 0)
  match stop with
  | some stop => rest.take (stop - start.getD 0)
  | none => rest

end Rows

namespace Physical

def test (ctx : Context) : Option Scalar → Row → Except Error Bool
  | none, _ => .ok true
  | some e, row => e.passes ctx row

variable (ctx : Context)

mutual

def execute : Physical → Except Error Rows
  | empty => .ok (.single [])
  | scan source => source.records
  | filter input none => execute input
  | filter input (some e) => do
    let rows ← execute input
    return rows.filter (e.passes ctx)
  | project input exprs => do
    let rows ← execute input
    return rows.mapRows fun row => Scalar.evalList ctx row exprs
  | limit input start stop => do
    let rows ← execute input
    return rows.limit start stop
  | union left right => do
    let rows ← execute left
    return rows.append fun _ => .ofStart (execute right)
  | sort input keys => .ok (.delay fun _ => .ofStart ((execute input).map (·.sortOnto ctx keys [])))
  | hashJoin left right keys type arity => do
    let rows ← execute right
    return rows.hashJoin ⟨type, fun _ => execute left, arity, ctx.config.sideBudget⟩ keys
  | nestedJoin left right predicate type arity => do
    let rows ← execute right
    return rows.nestedJoin ⟨type, fun _ => execute left, arity, ctx.config.sideBudget⟩
      (test ctx predicate)
  | group input keys outputs => do
    let rows ← execute input
    return rows.group ctx keys outputs none
  | tableFunction f args => f.invoke (inputs args)

/-- The arguments of a table function, which starts its relations itself. -/
def inputs : List (TableArg (Schema × Physical)) → List (TableArg InputRelation)
  | [] => []
  | .constant v :: args => .constant v :: inputs args
  | .relation (schema, p) :: args => .relation ⟨schema, fun _ => execute p⟩ :: inputs args

end

end Physical

end QueryEngine
