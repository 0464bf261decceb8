import QueryEngine.Value.Order

namespace QueryEngine

inductive HashWrite where
  | rank (n : Nat)
  | length (n : Nat)
  | boolean (b : Bool)
  | integer (i : Int64)
  | float (bits : UInt64)
  | text (s : String)
  | date (d : Date)
  | time (t : Time)
deriving DecidableEq

namespace HashWrite

def hashDate (d : Date) : UInt64 :=
  mixHash (hash d.year) (mixHash (hash d.month) (hash d.day))

def hashTime (t : Time) : UInt64 :=
  mixHash (mixHash (hash t.hour) (hash t.minute)) (mixHash (hash t.second) (hash t.nanosecond))

def toHash : HashWrite → UInt64
  | rank n => hash n
  | length n => hash n
  | boolean b => hash b
  | integer i => i.toUInt64
  | float bits => bits
  | text s => hash s
  | date d => hashDate d
  | time t => hashTime t

def combine (ws : List HashWrite) : UInt64 :=
  ws.foldl (fun h w => mixHash h w.toHash) 7

end HashWrite

def Number.hashWrites : Number → List HashWrite
  | integer i => [.integer i]
  | float x => [.float x.bits]

namespace Value

mutual

/-- The rank of a value, then its contents; lists and records write their length first. -/
def hashWrites : Value → List HashWrite
  | null => [.rank 0]
  | boolean b => [.rank 1, .boolean b]
  | integer i => .rank 2 :: (Number.integer i).hashWrites
  | float x => .rank 2 :: (Number.ofFloat x).hashWrites
  | string s => [.rank 3, .text s]
  | date d => [.rank 4, .date d]
  | datetime t => [.rank 5, .date t.date, .time t.time]
  | time t => [.rank 6, .time t]
  | list vs => .rank 7 :: .length vs.length :: hashWritesList vs
  | record fields => .rank 8 :: .length fields.length :: hashWritesFields fields

def hashWritesList : List Value → List HashWrite
  | [] => []
  | v :: vs => v.hashWrites ++ hashWritesList vs

def hashWritesFields : List (String × Value) → List HashWrite
  | [] => []
  | (name, v) :: fields => .text name :: v.hashWrites ++ hashWritesFields fields

end

def keyHashWrites (key : List Value) : List HashWrite :=
  .length key.length :: hashWritesList key

def keyHash (key : List Value) : UInt64 :=
  HashWrite.combine (keyHashWrites key)

end Value

end QueryEngine
