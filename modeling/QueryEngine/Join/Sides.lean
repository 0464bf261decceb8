import QueryEngine.Join.Tracker
import QueryEngine.Plan.Basic
import QueryEngine.Rows.Basic

namespace QueryEngine

structure JoinSides where
  type : JoinType
  left : Unit → Except Error Rows
  rightArity : Nat
  budget : Nat

namespace Rows

/-- The left rows, counted from `i`, that found no match, each with NULLs for the right side. -/
def unmatched (arity : Nat) (t : MatchTracker) : Nat → Rows → Rows
  | _, done => done
  | _, item (.error e) _ => fail e
  | i, item (.ok row) tail =>
    if t.isMatch i then step 0 fun _ => (tail ()).unmatched arity t (i + 1)
    else
      item (.ok (row ++ List.replicate arity .null)) fun _ => (tail ()).unmatched arity t (i + 1)
  | i, step n tail => step n fun _ => (tail ()).unmatched arity t i

end Rows

def JoinSides.finish (j : JoinSides) (t : MatchTracker) : Rows :=
  match j.type with
  | .inner => .done
  | .left =>
    match j.left () with
    | .ok rows => rows.unmatched j.rightArity t 0
    | .error e => .fail e

end QueryEngine
