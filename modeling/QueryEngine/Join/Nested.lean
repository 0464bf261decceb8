import QueryEngine.Join.Block
import QueryEngine.Join.Sides

namespace QueryEngine.Rows

/-- Pair a left row with the rows of a right block, and go on with `next`. -/
def pairRow (test : Row → Except Error Bool) (ordinal : Nat) (row : Row)
    (next : MatchTracker → Rows) : MatchTracker → List Row → Rows
  | t, [] => step 0 fun _ => next t
  | t, right :: rights =>
    match test (row ++ right) with
    | .error e => fail e
    | .ok true =>
      item (.ok (row ++ right)) fun _ =>
        pairRow test ordinal row next (t.setMatch ordinal) rights
    | .ok false => pairRow test ordinal row next t rights

def pairBlocks (test : Row → Except Error Bool) (rights : List Row)
    (next : MatchTracker → Rows) : Nat → MatchTracker → List Row → Rows
  | _, t, [] => next t
  | ordinal, t, row :: rows =>
    pairRow test ordinal row (fun t' => pairBlocks test rights next (ordinal + 1) t' rows) t rights

def pairLeft (test : Row → Except Error Bool) (rights : List Row) (next : MatchTracker → Rows) :
    Nat → MatchTracker → Blocks → Rows
  | _, t, .done => step 0 fun _ => next t
  | _, _, .fail e => fail e
  | offset, t, .step n tail => step n fun _ => pairLeft test rights next offset t (tail ())
  | offset, t, .block rows tail =>
    pairBlocks test rights
      (fun t' => pairLeft test rights next (offset + rows.length) t' (tail ())) offset t rows

def nestedJoinBlocks (j : JoinSides) (test : Row → Except Error Bool) :
    MatchTracker → Blocks → Rows
  | t, .done => j.finish t
  | _, .fail e => fail e
  | t, .step n tail => step n fun _ => nestedJoinBlocks j test t (tail ())
  | t, .block rows tail =>
    match j.left () with
    | .error e => fail e
    | .ok left =>
      pairLeft test rows (fun t' => nestedJoinBlocks j test t' (tail ())) 0 t
        (Blocks.ofRows j.budget left)

def nestedJoin (j : JoinSides) (test : Row → Except Error Bool) (right : Rows) : Rows :=
  delay fun _ => nestedJoinBlocks j test {} (Blocks.ofRows j.budget right)

end QueryEngine.Rows
