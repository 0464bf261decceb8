import QueryEngine.Expr.Basic
import QueryEngine.Function.Basic
import QueryEngine.Schema.Basic

namespace QueryEngine

inductive JoinType where
  | inner
  /-- Rows of the left side without a match are padded with NULLs. -/
  | left
deriving DecidableEq, Repr

def JoinType.name : JoinType → String
  | inner => "INNER"
  | left => "LEFT"

/-- An aggregate at a position of the rows of a grouped projection. -/
structure AggregateBinding where
  position : Nat
  function : String
  args : List Expr

inductive Plan where
  /-- A relation or view; the empty name stands for one row without fields. -/
  | load (name : String) (schema : Option Schema)
  | aliased (name : String) (input : Plan) (schema : Option Schema)
  | project (input : Plan) (exprs : List Expr) (schema : Option Schema)
  | select (input : Plan) (predicate : Option Expr) (schema : Option Schema)
  | join (left right : Plan) (predicate : Option Expr) (type : JoinType) (schema : Option Schema)
  | unionAll (left right : Plan) (schema : Option Schema)
  | orderBy (input : Plan) (keys : List Expr) (schema : Option Schema)
  /-- The input is the grouped projection; the aggregates are found when schemas are. -/
  | groupBy (input : Plan) (keys : List Expr) (aggregates : List AggregateBinding)
      (schema : Option Schema)
  | slice (input : Plan) (start stop : Option Nat) (schema : Option Schema)
  | tableFunction (name : String) (args : List (TableArg Plan)) (schema : Option Schema)
  /-- A hole, where a subtree has been taken out. -/
  | placeholder
deriving Inhabited

namespace Plan

def kind : Plan → String
  | load .. => "Load"
  | aliased .. => "Alias"
  | project .. => "Projection"
  | select .. => "Selection"
  | join .. => "Join"
  | unionAll .. => "UnionAll"
  | orderBy .. => "OrderBy"
  | groupBy .. => "GroupBy"
  | slice .. => "Slice"
  | tableFunction .. => "TableFunction"
  | placeholder => "Placeholder"

def schema? : Plan → Option Schema
  | load _ s | aliased _ _ s | project _ _ s | select _ _ s | join _ _ _ _ s | unionAll _ _ s
  | orderBy _ _ s | groupBy _ _ _ s | slice _ _ _ s | tableFunction _ _ s => s
  | placeholder => none

def outputSchema (p : Plan) : Except Error Schema :=
  match p.schema? with
  | some s => .ok s
  | none => .error (.internal (.unresolved p.kind))

def withSchema (s : Schema) : Plan → Plan
  | load n _ => load n (some s)
  | aliased n i _ => aliased n i (some s)
  | project i es _ => project i es (some s)
  | select i e _ => select i e (some s)
  | join l r e t _ => join l r e t (some s)
  | unionAll l r _ => unionAll l r (some s)
  | orderBy i ks _ => orderBy i ks (some s)
  | groupBy i ks as _ => groupBy i ks as (some s)
  | slice i a b _ => slice i a b (some s)
  | tableFunction n as _ => tableFunction n as (some s)
  | placeholder => placeholder

def relationArgs : List (TableArg Plan) → List Plan
  | [] => []
  | .constant _ :: args => relationArgs args
  | .relation p :: args => p :: relationArgs args

def refillArgs : List (TableArg Plan) → List Plan → List (TableArg Plan)
  | [], _ => []
  | .constant v :: args, ps => .constant v :: refillArgs args ps
  | .relation _ :: args, p :: ps => .relation p :: refillArgs args ps
  | .relation p :: args, [] => .relation p :: refillArgs args []

def children : Plan → List Plan
  | load .. | placeholder => []
  | aliased _ i _ | project i _ _ | select i _ _ | orderBy i _ _ | groupBy i _ _ _
  | slice i _ _ _ => [i]
  | join l r _ _ _ | unionAll l r _ => [l, r]
  | tableFunction _ args _ => relationArgs args

/-- The node with its children replaced in order, as far as there are new ones. -/
def refill : Plan → List Plan → Plan
  | aliased n _ s, i :: _ => aliased n i s
  | project _ es s, i :: _ => project i es s
  | select _ e s, i :: _ => select i e s
  | orderBy _ ks s, i :: _ => orderBy i ks s
  | groupBy _ ks as s, i :: _ => groupBy i ks as s
  | slice _ a b s, i :: _ => slice i a b s
  | join _ _ e t s, l :: r :: _ => join l r e t s
  | unionAll _ _ s, l :: r :: _ => unionAll l r s
  | tableFunction n args s, ps => tableFunction n (refillArgs args ps) s
  | p, _ => p

def withChildren (p : Plan) (ps : List Plan) : Except Error Plan :=
  if ps.length = p.children.length then .ok (p.refill ps)
  else .error (.internal (.childCount p.kind p.children.length ps.length))

def shell (p : Plan) : Plan :=
  p.refill (p.children.map fun _ => placeholder)

mutual

def size : Plan → Nat
  | load .. | placeholder => 1
  | aliased _ i _ | project i _ _ | select i _ _ | orderBy i _ _ | groupBy i _ _ _
  | slice i _ _ _ => i.size + 1
  | join l r _ _ _ | unionAll l r _ => l.size + r.size + 1
  | tableFunction _ args _ => sizeArgs args + 1

def sizeArgs : List (TableArg Plan) → Nat
  | [] => 0
  | .constant _ :: args => sizeArgs args
  | .relation p :: args => p.size + sizeArgs args

end

def sameBinding (a b : AggregateBinding) : Bool :=
  a.position = b.position && a.function = b.function && Expr.sameList a.args b.args

def sameBindings : List AggregateBinding → List AggregateBinding → Bool
  | [], [] => true
  | a :: as, b :: bs => sameBinding a b && sameBindings as bs
  | _, _ => false

mutual

def same : Plan → Plan → Bool
  | load n _, load n' _ => n = n'
  | aliased n i _, aliased n' i' _ => n = n' && i.same i'
  | project i es _, project i' es' _ => i.same i' && Expr.sameList es es'
  | select i e _, select i' e' _ => i.same i' && Expr.sameDefault e e'
  | join l r e t _, join l' r' e' t' _ =>
    l.same l' && r.same r' && Expr.sameDefault e e' && t = t'
  | unionAll l r _, unionAll l' r' _ => l.same l' && r.same r'
  | orderBy i ks _, orderBy i' ks' _ => i.same i' && Expr.sameList ks ks'
  | groupBy i ks as _, groupBy i' ks' as' _ =>
    i.same i' && Expr.sameList ks ks' && sameBindings as as'
  | slice i a b _, slice i' a' b' _ => i.same i' && a = a' && b = b'
  | tableFunction n as _, tableFunction n' as' _ => n = n' && sameArgs as as'
  | placeholder, placeholder => true
  | _, _ => false

def sameArgs : List (TableArg Plan) → List (TableArg Plan) → Bool
  | [], [] => true
  | .constant v :: as, .constant w :: bs => v.same w && sameArgs as bs
  | .relation p :: as, .relation q :: bs => p.same q && sameArgs as bs
  | _, _ => false

end

end Plan

end QueryEngine
