import QueryEngine.Config
import QueryEngine.Expr.Basic
import QueryEngine.Schema.Basic

namespace QueryEngine

abbrev JoinKeys := List (Nat × Nat)

inductive JoinStrategy where
  | hash (keys : JoinKeys)
  | nestedBlock
deriving DecidableEq, Repr

namespace JoinStrategy

def conjuncts : Expr → List Expr
  | .binary .and l r => conjuncts l ++ conjuncts r
  | e => [e]

variable (schema : Schema) (leftSize : Nat)

def varPosition? : Expr → Option Nat
  | .var path => (schema.position path).toOption
  | _ => none

def equiKey? : Expr → Option (Nat × Nat)
  | .binary .eq l r => do
    let a ← varPosition? schema l
    let b ← varPosition? schema r
    if a < leftSize ∧ leftSize ≤ b then some (a, b - leftSize)
    else if b < leftSize ∧ leftSize ≤ a then some (b, a - leftSize)
    else none
  | _ => none

def equiKeysOf : List Expr → Option JoinKeys
  | [] => some []
  | e :: es => do
    let key ← equiKey? schema leftSize e
    return key :: (← equiKeysOf es)

/-- The keys of a predicate over the joined schema, if it is all equalities between the sides. -/
def equiKeys? (predicate : Expr) : Option JoinKeys :=
  equiKeysOf schema leftSize (conjuncts predicate)

def select (config : Config) (predicate : Option Expr) : JoinStrategy :=
  if config.forceNestedBlockJoin then nestedBlock
  else
    match predicate.bind (equiKeys? schema leftSize) with
    | some keys => hash keys
    | none => nestedBlock

end JoinStrategy

end QueryEngine
