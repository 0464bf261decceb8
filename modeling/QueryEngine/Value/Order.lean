import QueryEngine.Value.Basic

namespace QueryEngine

/-- A number in canonical form: every integral float in the range of integers is an integer. -/
inductive Number where
  | integer (i : Int64)
  | float (x : Binary64)

namespace Number

def inInt64 (n : Int) : Bool :=
  Int64.minValue.toInt ≤ n && n ≤ Int64.maxValue.toInt

def ofFloat (x : Binary64) : Number :=
  match x.toInt? with
  | some n => if inInt64 n then integer (Int64.ofInt n) else float x
  | none => float x

/-- A float that is not an integer in range never ties with an integer, whatever the rounding. -/
def cmp : Number → Number → Ordering
  | integer a, integer b => compare a.toInt b.toInt
  | float x, float y => x.totalCompare y
  | integer a, float y => ((Binary64.ofInt a.toInt).totalCompare y).then .lt
  | float x, integer b => (x.totalCompare (Binary64.ofInt b.toInt)).then .gt

end Number

namespace Value

def rank : Value → Nat
  | null => 0
  | boolean _ => 1
  | integer _ | float _ => 2
  | string _ => 3
  | date _ => 4
  | datetime _ => 5
  | time _ => 6
  | list _ => 7
  | record _ => 8

def number? : Value → Option Number
  | integer i => some (.integer i)
  | float x => some (.ofFloat x)
  | _ => none

def cmpMixed (a b : Value) : Ordering :=
  match a.number?, b.number? with
  | some x, some y => x.cmp y
  | _, _ => compare a.rank b.rank

mutual

def cmp : Value → Value → Ordering
  | null, null => .eq
  | boolean a, boolean b => compare a b
  | string a, string b => compare a b
  | date a, date b => a.cmp b
  | datetime a, datetime b => a.cmp b
  | time a, time b => a.cmp b
  | list a, list b => cmpList a b
  | record a, record b => cmpFields a b
  | a, b => cmpMixed a b

def cmpList : List Value → List Value → Ordering
  | [], [] => .eq
  | [], _ :: _ => .lt
  | _ :: _, [] => .gt
  | a :: as, b :: bs => (a.cmp b).then (cmpList as bs)

def cmpFields : List (String × Value) → List (String × Value) → Ordering
  | [], [] => .eq
  | [], _ :: _ => .lt
  | _ :: _, [] => .gt
  | (m, a) :: as, (n, b) :: bs => ((compare m n).then (a.cmp b)).then (cmpFields as bs)

end

/-- Equality of values: `1` and `1.0` are the same number. -/
def same (a b : Value) : Bool :=
  a.cmp b == .eq

def sameList (a b : List Value) : Bool :=
  cmpList a b == .eq

end Value

end QueryEngine
