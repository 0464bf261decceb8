import QueryEngine.Expr.Operator
import QueryEngine.Value.Display
import QueryEngine.Value.Order

namespace QueryEngine

inductive Expr where
  | var (path : String)
  | const (v : Value)
  | param (index : Nat)
  | unary (op : UnaryOp) (e : Expr)
  | item (e : Expr) (key : Value)
  | binary (op : BinaryOp) (left right : Expr)
  | between (e low high : Expr)
  | tuple (es : List Expr)
  | call (name : String) (args : List Expr)
  | rename (name : String) (e : Expr)
  | star (qualifier : Option String)
  | caseWhen (branches : List (Expr × Expr)) (default : Option Expr)
  | cast (e : Expr) (type : DataType)
deriving Inhabited

namespace Expr

def asc (e : Expr) : Expr := unary .asc e

def desc (e : Expr) : Expr := unary .desc e

def not (e : Expr) : Expr := unary .not e

def neg (e : Expr) : Expr := unary .neg e

def and (a b : Expr) : Expr := binary .and a b

def inList (e : Expr) (es : List Expr) : Expr := binary .mem e (tuple es)

/-- The conjunction of the expressions, associated to the left; `none` of none. -/
def andAll : List Expr → Option Expr
  | [] => none
  | e :: es => some (es.foldl and e)

def branchChildren : List (Expr × Expr) → List Expr
  | [] => []
  | (c, r) :: rest => c :: r :: branchChildren rest

def children : Expr → List Expr
  | var _ | const _ | param _ | star _ => []
  | unary _ e | item e _ | rename _ e | cast e _ => [e]
  | binary _ l r => [l, r]
  | between e low high => [e, low, high]
  | tuple es | call _ es => es
  | caseWhen branches default => branchChildren branches ++ default.toList

mutual

def any (p : Expr → Bool) (e : Expr) : Bool :=
  p e || match e with
    | var _ | const _ | param _ | star _ => false
    | unary _ e | item e _ | rename _ e | cast e _ => e.any p
    | binary _ l r => l.any p || r.any p
    | between e low high => e.any p || low.any p || high.any p
    | tuple es | call _ es => anyList p es
    | caseWhen branches default => anyBranches p branches || anyDefault p default

def anyList (p : Expr → Bool) : List Expr → Bool
  | [] => false
  | e :: es => e.any p || anyList p es

def anyBranches (p : Expr → Bool) : List (Expr × Expr) → Bool
  | [] => false
  | (c, r) :: rest => c.any p || r.any p || anyBranches p rest

def anyDefault (p : Expr → Bool) : Option Expr → Bool
  | none => false
  | some e => e.any p

end

def unaliased : Expr → Expr
  | rename _ e => e.unaliased
  | e => e

mutual

def mapVars (f : String → String) : Expr → Expr
  | var path => var (f path)
  | const v => const v
  | param i => param i
  | unary op e => unary op (e.mapVars f)
  | item e key => item (e.mapVars f) key
  | binary op l r => binary op (l.mapVars f) (r.mapVars f)
  | between e low high => between (e.mapVars f) (low.mapVars f) (high.mapVars f)
  | tuple es => tuple (mapVarsList f es)
  | call name args => call name (mapVarsList f args)
  | rename a e => rename a (e.mapVars f)
  | star q => star q
  | caseWhen branches default =>
    caseWhen (mapVarsBranches f branches) (mapVarsDefault f default)
  | cast e type => cast (e.mapVars f) type

def mapVarsList (f : String → String) : List Expr → List Expr
  | [] => []
  | e :: es => e.mapVars f :: mapVarsList f es

def mapVarsBranches (f : String → String) : List (Expr × Expr) → List (Expr × Expr)
  | [] => []
  | (c, r) :: rest => (c.mapVars f, r.mapVars f) :: mapVarsBranches f rest

def mapVarsDefault (f : String → String) : Option Expr → Option Expr
  | none => none
  | some e => some (e.mapVars f)

end

mutual

/-- The same tree, with literals compared as values. -/
def same : Expr → Expr → Bool
  | var p, var q => p = q
  | const v, const w => v.same w
  | param i, param j => i = j
  | unary o e, unary o' e' => o = o' && e.same e'
  | item e k, item e' k' => e.same e' && k.same k'
  | binary o l r, binary o' l' r' => o = o' && l.same l' && r.same r'
  | between e l h, between e' l' h' => e.same e' && l.same l' && h.same h'
  | tuple es, tuple es' => sameList es es'
  | call n es, call n' es' => n = n' && sameList es es'
  | rename a e, rename a' e' => a = a' && e.same e'
  | star q, star q' => q = q'
  | caseWhen bs d, caseWhen bs' d' => sameBranches bs bs' && sameDefault d d'
  | cast e t, cast e' t' => e.same e' && t = t'
  | _, _ => false

def sameList : List Expr → List Expr → Bool
  | [], [] => true
  | e :: es, e' :: es' => e.same e' && sameList es es'
  | _, _ => false

def sameBranches : List (Expr × Expr) → List (Expr × Expr) → Bool
  | [], [] => true
  | (c, r) :: rest, (c', r') :: rest' => c.same c' && r.same r' && sameBranches rest rest'
  | _, _ => false

def sameDefault : Option Expr → Option Expr → Bool
  | none, none => true
  | some e, some e' => e.same e'
  | _, _ => false

end

open Text

mutual

def display : Expr → String
  | var path => path
  | const v => v.display
  | param i => "?" ++ toString i
  | unary .neg e => "-" ++ e.display
  | unary .not e => "NOT " ++ e.display
  | unary op e => e.display ++ " " ++ op.symbol
  | item e key => e.display ++ "[" ++ key.display ++ "]"
  | binary op l r => "(" ++ l.display ++ " " ++ op.symbol ++ " " ++ r.display ++ ")"
  | between e low high =>
    e.display ++ " BETWEEN " ++ low.display ++ " AND " ++ high.display
  | tuple es => "(" ++ commaSeparated (displayList es) ++ ")"
  | call name args => name ++ "(" ++ commaSeparated (displayList args) ++ ")"
  | rename a e => e.display ++ " AS " ++ a
  | star q => qualify q "*"
  | caseWhen branches default =>
    "CASE" ++ displayBranches branches ++ displayDefault default ++ " END"
  | cast e type => "CAST(" ++ e.display ++ " AS " ++ type.name ++ ")"

def displayList : List Expr → List String
  | [] => []
  | e :: es => e.display :: displayList es

def displayBranches : List (Expr × Expr) → String
  | [] => ""
  | (c, r) :: rest =>
    " WHEN " ++ c.display ++ " THEN " ++ r.display ++ displayBranches rest

def displayDefault : Option Expr → String
  | none => ""
  | some e => " ELSE " ++ e.display

end

end Expr

end QueryEngine
