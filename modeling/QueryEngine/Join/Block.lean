import QueryEngine.Rows.Basic

namespace QueryEngine

/-- The blocks of an input, produced on demand. An error ends them. -/
inductive Blocks where
  | done
  | fail (e : Error)
  | block (rows : List Row) (tail : Unit → Blocks)
  | step (decoded : Nat) (tail : Unit → Blocks)

namespace Blocks

/-- Read rows onto those of the open block, last first. The block closes as soon as the size of
its rows reaches the budget; an error discards it. -/
def readOnto (budget : Nat) : List Row → Nat → Rows → Blocks
  | [], _, .done => done
  | row :: readRev, _, .done => block (row :: readRev).reverse fun _ => done
  | _, _, .item (.error e) _ => fail e
  | readRev, size, .item (.ok row) tail =>
    if budget ≤ size + row.size then
      block (row :: readRev).reverse fun _ => readOnto budget [] 0 (tail ())
    else step 0 fun _ => readOnto budget (row :: readRev) (size + row.size) (tail ())
  | readRev, size, .step n tail => step n fun _ => readOnto budget readRev size (tail ())

/-- The blocks of an input. Every block holds a row, even one that exceeds the budget alone;
without any budget there are no blocks. -/
def ofRows (budget : Nat) (rows : Rows) : Blocks :=
  if budget = 0 then done else readOnto budget [] 0 rows

def next : Blocks → Except Error (Option (List Row)) × Blocks
  | done => (.ok none, done)
  | fail e => (.error e, done)
  | block rows tail => (.ok (some rows), tail ())
  | step _ tail => (tail ()).next

def nexts : Nat → Blocks → List (Except Error (Option (List Row)))
  | 0, _ => []
  | n + 1, blocks => blocks.next.1 :: nexts n blocks.next.2

end Blocks

end QueryEngine
