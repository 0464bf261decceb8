import QueryEngine.Join.Block
import QueryEngine.Join.Sides
import QueryEngine.Join.Strategy
import QueryEngine.Value.Hash
import Std.Data.HashMap

namespace QueryEngine

/-- Rows by their keys. Equal keys hash alike, so they share a bucket. -/
structure JoinTable where
  buckets : Std.HashMap UInt64 (List (List Value × List Row)) := {}

namespace JoinTable

def putFirst (key : List Value) (row : Row) :
    List (List Value × List Row) → List (List Value × List Row)
  | [] => [(key, [row])]
  | (k, rows) :: entries =>
    if Value.sameList k key then (k, row :: rows) :: entries
    else (k, rows) :: putFirst key row entries

def insert (t : JoinTable) (key : List Value) (row : Row) : JoinTable :=
  let h := Value.keyHash key
  ⟨t.buckets.insert h (putFirst key row (t.buckets.getD h []))⟩

def find (t : JoinTable) (key : List Value) : List Row :=
  match (t.buckets.getD (Value.keyHash key) []).find? fun entry => Value.sameList entry.1 key with
  | some (_, rows) => rows
  | none => []

def keyValues (row : Row) : List Nat → Except Error (List Value)
  | [] => .ok []
  | i :: is => do
    match row[i]? with
    | some v => return v :: (← keyValues row is)
    | none => .error (.internal (.joinKeyOutOfBounds i row.length))

def keyRows (positions : List Nat) : List Row → Except Error (List (List Value × Row))
  | [] => .ok []
  | row :: rows => do
    let key ← keyValues row positions
    return (key, row) :: (← keyRows positions rows)

def ofBlock (positions : List Nat) (block : List Row) : Except Error JoinTable := do
  let keyed ← keyRows positions block
  return keyed.foldr (fun (key, row) t => t.insert key row) {}

end JoinTable

namespace Rows

/-- Look up the left rows, counted from `i`, and go on with `next` after the last of them. -/
def probe (positions : List Nat) (table : JoinTable) (next : MatchTracker → Rows) :
    Nat → MatchTracker → Rows → Rows
  | _, t, done => step 0 fun _ => next t
  | _, _, item (.error e) _ => fail e
  | i, t, item (.ok row) tail =>
    match JoinTable.keyValues row positions with
    | .error e => fail e
    | .ok key =>
      match table.find key with
      | [] => step 0 fun _ => (tail ()).probe positions table next (i + 1) t
      | matches_ =>
        (ofRows (matches_.map (row ++ ·))).append fun _ =>
          (tail ()).probe positions table next (i + 1) (t.setMatch i)
  | i, t, step n tail => step n fun _ => (tail ()).probe positions table next i t

def hashJoinBlocks (j : JoinSides) (keys : JoinKeys) : MatchTracker → Blocks → Rows
  | t, .done => j.finish t
  | _, .fail e => fail e
  | t, .step n tail => step n fun _ => hashJoinBlocks j keys t (tail ())
  | t, .block rows tail =>
    match JoinTable.ofBlock (keys.map (·.2)) rows with
    | .error e => fail e
    | .ok table =>
      match j.left () with
      | .error e => fail e
      | .ok left =>
        left.probe (keys.map (·.1)) table (fun t' => hashJoinBlocks j keys t' (tail ())) 0 t

def hashJoin (j : JoinSides) (keys : JoinKeys) (right : Rows) : Rows :=
  delay fun _ => hashJoinBlocks j keys {} (Blocks.ofRows j.budget right)

end Rows

end QueryEngine
