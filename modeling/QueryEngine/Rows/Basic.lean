import QueryEngine.Error

namespace QueryEngine

/-- A finite sequence of rows and errors. A `step` yields no item; during it some documents may
have been decoded. -/
inductive Rows where
  | done
  | item (head : Except Error Row) (tail : Unit → Rows)
  | step (decoded : Nat) (tail : Unit → Rows)

namespace Rows

def toList : Rows → List (Except Error Row)
  | done => []
  | item head tail => head :: (tail ()).toList
  | step _ tail => (tail ()).toList

def ofList : List (Except Error Row) → Rows
  | [] => done
  | x :: xs => item x fun _ => ofList xs

def ofRows (rows : List Row) : Rows :=
  ofList (rows.map .ok)

def single (row : Row) : Rows :=
  item (.ok row) fun _ => done

def fail (e : Error) : Rows :=
  item (.error e) fun _ => done

def ofStart : Except Error Rows → Rows
  | .ok rows => rows
  | .error e => fail e

def delay (rows : Unit → Rows) : Rows :=
  step 0 rows

def mapRows (f : Row → Except Error Row) : Rows → Rows
  | done => done
  | item head tail => item (head.bind f) fun _ => (tail ()).mapRows f
  | step n tail => step n fun _ => (tail ()).mapRows f

/-- The rows on which `p` holds. A failing test becomes an error item. -/
def filter (p : Row → Except Error Bool) : Rows → Rows
  | done => done
  | item (.error e) tail => item (.error e) fun _ => (tail ()).filter p
  | item (.ok row) tail =>
    match p row with
    | .ok true => item (.ok row) fun _ => (tail ()).filter p
    | .ok false => step 0 fun _ => (tail ()).filter p
    | .error e => item (.error e) fun _ => (tail ()).filter p
  | step n tail => step n fun _ => (tail ()).filter p

def append : Rows → (Unit → Rows) → Rows
  | done, after => step 0 after
  | item head tail, after => item head fun _ => (tail ()).append after
  | step n tail, after => step n fun _ => (tail ()).append after

def flatMap (f : Row → List Row) : Rows → Rows
  | done => done
  | item (.error e) tail => item (.error e) fun _ => (tail ()).flatMap f
  | item (.ok row) tail => (ofRows (f row)).append fun _ => (tail ()).flatMap f
  | step n tail => step n fun _ => (tail ()).flatMap f

def numbered (f : Nat → Row → Row) : Nat → Rows → Rows
  | _, done => done
  | i, item head tail => item (head.map (f i)) fun _ => (tail ()).numbered f (i + 1)
  | i, step n tail => step n fun _ => (tail ()).numbered f i

/-- Each row through `f`, where a row that `f` accepts takes the decoding of one document. -/
def decodeRows (f : Row → Except Error Row) : Rows → Rows
  | done => done
  | item (.error e) tail => item (.error e) fun _ => (tail ()).decodeRows f
  | item (.ok row) tail =>
    match f row with
    | .ok row' => step 1 fun _ => item (.ok row') fun _ => (tail ()).decodeRows f
    | .error e => item (.error e) fun _ => (tail ()).decodeRows f
  | step n tail => step n fun _ => (tail ()).decodeRows f

/-- Drop the first `n` rows. Errors met on the way are kept and not counted. -/
def skip : Nat → Rows → Rows
  | _, done => done
  | 0, rows => rows
  | n + 1, item (.ok _) tail => step 0 fun _ => (tail ()).skip n
  | n + 1, item (.error e) tail => item (.error e) fun _ => (tail ()).skip (n + 1)
  | n + 1, step k tail => step k fun _ => (tail ()).skip (n + 1)

/-- The first `n` items, errors included. Nothing is asked for after the last of them. -/
def take : Nat → Rows → Rows
  | 0, _ => done
  | _, done => done
  | 1, item head _ => item head fun _ => done
  | n + 1, item head tail => item head fun _ => (tail ()).take n
  | n + 1, step k tail => step k fun _ => (tail ()).take (n + 1)

def collect : Rows → Except Error (List Row)
  | done => .ok []
  | item (.error e) _ => .error e
  | item (.ok row) tail => (tail ()).collect.map (row :: ·)
  | step _ tail => (tail ()).collect

def untilError : Rows → Rows
  | done => done
  | item (.error e) _ => fail e
  | item (.ok row) tail => item (.ok row) fun _ => (tail ()).untilError
  | step n tail => step n fun _ => (tail ()).untilError

def drainOnto : Rows → List (Except Error Row) → Nat → List (Except Error Row) × Nat
  | done, items, decoded => (items, decoded)
  | item head tail, items, decoded => (tail ()).drainOnto (head :: items) decoded
  | step n tail, items, decoded => (tail ()).drainOnto items (decoded + n)

def drain (rows : Rows) : List (Except Error Row) × Nat :=
  let (items, decoded) := rows.drainOnto [] 0
  (items.reverse, decoded)

end Rows

end QueryEngine
