namespace QueryEngine

/-- The code points with an odd number of changes up to them. The changes increase. -/
structure CharSet where
  changes : Array Nat := #[]
deriving DecidableEq, Inhabited

namespace CharSet

def empty : CharSet := {}

def full : CharSet := ⟨#[0, 0xD800, 0xE000, 0x110000]⟩

/-- How many of the changes from position `lo` to before `hi` are at most `n`, plus `lo`. -/
def countUpTo (changes : Array Nat) (n : Nat) : Nat → Nat → Nat → Nat
  | 0, lo, _ => lo
  | fuel + 1, lo, hi =>
    if lo < hi then
      let mid := (lo + hi) / 2
      if changes.getD mid 0 ≤ n then countUpTo changes n fuel (mid + 1) hi
      else countUpTo changes n fuel lo mid
    else lo

def contains (s : CharSet) (c : Char) : Bool :=
  countUpTo s.changes c.toNat (s.changes.size + 1) 0 s.changes.size % 2 == 1

def pairs : List Nat → List (Nat × Nat)
  | lo :: next :: rest => (lo, next - 1) :: pairs rest
  | _ => []

def ranges (s : CharSet) : List (Nat × Nat) :=
  pairs s.changes.toList

def isEmpty (s : CharSet) : Bool :=
  s.changes.isEmpty

def single? (s : CharSet) : Option Char :=
  match s.ranges with
  | [(lo, hi)] => if lo = hi then some (Char.ofNat lo) else none
  | _ => none

def isAscii (s : CharSet) : Bool :=
  (s.changes.back?.getD 0) ≤ 128

def pushRange (changes : Array Nat) (lo hi : Nat) : Array Nat :=
  match changes.back? with
  | none => #[lo, hi + 1]
  | some last =>
    if last = lo then changes.pop.push (hi + 1)
    else if last < lo then (changes.push lo).push (hi + 1)
    else changes

def single (c : Char) : CharSet :=
  ⟨#[c.toNat, c.toNat + 1]⟩

def ascii (lo hi : Char) : CharSet :=
  ⟨#[lo.toNat, hi.toNat + 1]⟩

def ofCodePoints (ns : List Nat) : CharSet :=
  ⟨(ns.mergeSort).foldl (fun changes n => pushRange changes n n) #[]⟩

def ofChars (cs : List Char) : CharSet :=
  ofCodePoints (cs.map Char.toNat)

def pushChange (changes : Array Nat) (before after : Bool) (x : Nat) : Array Nat :=
  if before == after then changes else changes.push x

def sweep (f : Bool → Bool → Bool) (acc : Array Nat) (p q : Bool) :
    List Nat → List Nat → Array Nat
  | [], [] => acc
  | x :: xs, [] => sweep f (pushChange acc (f p q) (f (!p) q) x) (!p) q xs []
  | [], y :: ys => sweep f (pushChange acc (f p q) (f p (!q)) y) p (!q) [] ys
  | x :: xs, y :: ys =>
    if x < y then sweep f (pushChange acc (f p q) (f (!p) q) x) (!p) q xs (y :: ys)
    else if y < x then sweep f (pushChange acc (f p q) (f p (!q)) y) p (!q) (x :: xs) ys
    else sweep f (pushChange acc (f p q) (f (!p) (!q)) x) (!p) (!q) xs ys
termination_by xs ys => xs.length + ys.length

def combine (f : Bool → Bool → Bool) (s t : CharSet) : CharSet :=
  ⟨sweep f #[] false false s.changes.toList t.changes.toList⟩

def union : CharSet → CharSet → CharSet := combine (· || ·)

def inter : CharSet → CharSet → CharSet := combine (· && ·)

def diff : CharSet → CharSet → CharSet := combine fun p q => p && !q

def symmDiff : CharSet → CharSet → CharSet := combine (· != ·)

def compl (s : CharSet) : CharSet := full.diff s

def unions (sets : List CharSet) : CharSet := sets.foldl union empty

def range (lo hi : Char) : CharSet :=
  inter ⟨#[lo.toNat, hi.toNat + 1]⟩ full

/-- A table of ranges as far as it has been read: the number being read, if its digits have begun,
and the low end before a dash. -/
structure TableScan where
  changes : Array Nat := #[]
  low : Option Nat := none
  number : Option Nat := none

def TableScan.close (t : TableScan) : TableScan :=
  match t.number with
  | some n => { changes := pushRange t.changes (t.low.getD n) n }
  | none => t

def hexDigitValue (c : Char) : Nat :=
  if c.isDigit then c.toNat - '0'.toNat else c.toNat - 'a'.toNat + 10

def TableScan.read (t : TableScan) (c : Char) : TableScan :=
  if c = '-' then { t with low := t.number, number := none }
  else if c.isWhitespace then t.close
  else { t with number := some (16 * t.number.getD 0 + hexDigitValue c) }

/-- The set that a table writes: code points and ranges `lo-hi` in hexadecimal, in order. -/
def ofTable (text : String) : CharSet :=
  ⟨(text.foldl TableScan.read {}).close.changes⟩

end CharSet

end QueryEngine
