import QueryEngine.Plan.Cursor

namespace QueryEngine

/-- The fields of a key, and the qualifiers that may stand before their names. -/
structure KeyFields where
  fields : List String
  qualifiers : List String

namespace KeyFields

def ofRelation (relation : String) (fields : List String) : KeyFields :=
  ⟨fields, [relation]⟩

def addQualifier (k : KeyFields) (q : String) : KeyFields :=
  { k with qualifiers := k.qualifiers ++ [q] }

/-- A path without its qualifier, `none` if that is a foreign one. -/
def unqualified? (k : KeyFields) (path : String) : Option String :=
  match Text.splitOnce '.' path with
  | some (q, name) => if k.qualifiers.contains q then some name else none
  | none => some path

def contains (k : KeyFields) (path : String) : Bool :=
  (k.unqualified? path).any k.fields.contains

def strip (k : KeyFields) (e : Expr) : Expr :=
  e.mapVars fun path => (k.unqualified? path).getD path

def needsRecord (k : KeyFields) (e : Expr) : Bool :=
  e.any fun
    | .var path => !k.contains path
    | .star _ => true
    | _ => false

def isPartitionable (k : KeyFields) (e : Expr) : Bool :=
  !k.needsRecord e

def andParts (a b : Option Expr) : Option Expr :=
  Expr.andAll (a.toList ++ b.toList)

/-- A predicate as a part over records and a part over keys; a part that is absent is true.
Conjunctions are split, a disjunction moves only as a whole. -/
def split (k : KeyFields) : Expr → Option Expr × Option Expr
  | .binary .and l r =>
    let (lr, lk) := split k l
    let (rr, rk) := split k r
    (andParts lr rr, andParts lk rk)
  | e@(.binary .or l r) =>
    if (split k l).1.isNone && (split k r).1.isNone then (none, some e) else (some e, none)
  | e => if k.isPartitionable e then (none, some e) else (some e, none)

end KeyFields

namespace Cursor

/-- Where a climb has come to: the nodes passed that stay, the key predicates taken along from
bottom to top, and the cursor. -/
structure Climb where
  levels : Nat := 0
  taken : List Expr := []
  cursor : Cursor

/-- Climb through selections, sorts and aliases, taking the key parts of selections along. A
selection that has nothing else is removed. Any other node is left again by the way it was
entered. -/
def climb : Nat → KeyFields → Climb → Except Error Climb
  | 0, _, k => .ok k
  | n + 1, keys, k =>
    match k.cursor.position? with
    | none => .ok k
    | some position => do
      match ← k.cursor.up with
      | none => return k
      | some c =>
        match c.node with
        | .select input (some predicate) schema =>
          match keys.split predicate with
          | (_, none) => climb n keys { k with levels := k.levels + 1, cursor := c }
          | (some record, some key) =>
            climb n keys ⟨k.levels + 1, k.taken ++ [keys.strip key],
              c.replace (.select input (some record) schema)⟩
          | (none, some key) =>
            climb n keys ⟨k.levels, k.taken ++ [keys.strip key], c.replace input⟩
        | .select _ none _ | .orderBy .. =>
          climb n keys { k with levels := k.levels + 1, cursor := c }
        | .aliased name _ _ =>
          climb n (keys.addQualifier name) { k with levels := k.levels + 1, cursor := c }
        | _ => return { k with cursor := (c.down position).getD c }

/-- Move the key predicates of the selections above the focus onto the focus. The cursor ends up
on the new selection, or on the focus itself when nothing was moved. -/
def pushKeyPredicates (keys : KeyFields) (c : Cursor) : Except Error Cursor := do
  let k ← climb c.depth keys { cursor := c }
  let c' := downFirst k.levels k.cursor
  match Expr.andAll k.taken with
  | some predicate => return c'.replace (.select c'.node (some predicate) none)
  | none => return c'

end Cursor

end QueryEngine
