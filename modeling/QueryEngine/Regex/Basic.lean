import QueryEngine.Unicode.Core

namespace QueryEngine

inductive WordEdge where
  | boundary
  | noBoundary
  | start
  | stop
  | noWordBefore
  | noWordAfter
deriving DecidableEq

inductive Look where
  | textStart
  | textEnd
  | lineStart (crlf : Bool)
  | lineEnd (crlf : Bool)
  | word (edge : WordEdge) (unicode : Bool)
deriving DecidableEq

inductive Regex where
  | empty
  | text (cs : List Char)
  | oneOf (set : CharSet)
  | look (l : Look)
  | repeat (r : Regex) (least : Nat) (most : Option Nat) (greedy : Bool)
  | capture (r : Regex)
  | seq (rs : List Regex)
  | alt (rs : List Regex)
deriving Inhabited

def asciiWordCharacters : CharSet := .ofTable "30-39 41-5a 5f 61-7a"

def WordEdge.holds (before after : Bool) : WordEdge → Bool
  | boundary => before != after
  | noBoundary => before == after
  | start => !before && after
  | stop => before && !after
  | noWordBefore => !before
  | noWordAfter => !after

def Look.holds (before after : Option Char) : Look → Bool
  | textStart => before.isNone
  | textEnd => after.isNone
  | lineStart false => before.isNone || before == some '\n'
  | lineStart true =>
    before.isNone || before == some '\n' || (before == some '\r' && after != some '\n')
  | lineEnd false => after.isNone || after == some '\n'
  | lineEnd true =>
    after.isNone || after == some '\r' || (after == some '\n' && before != some '\r')
  | word edge unicode =>
    let set := if unicode then Unicode.wordCharacters else asciiWordCharacters
    edge.holds (before.any set.contains) (after.any set.contains)

/-- A text, and the positions where each of its characters stands; equal ones are gathered. -/
structure Subject where
  chars : List Char
  places : List (Char × Nat)

namespace Subject

def addPlace (p : Char × Nat) : List (Char × Nat) → List (Char × Nat)
  | [] => [(p.1, 1 <<< p.2)]
  | (c, positions) :: rest =>
    if p.1 = c then (c, positions ||| 1 <<< p.2) :: rest
    else (p.1, 1 <<< p.2) :: (c, positions) :: rest

def ofString (s : String) : Subject :=
  let cs := s.toList
  ⟨cs, (cs.zipIdx.mergeSort fun p q => p.1 ≤ q.1).foldr addPlace []⟩

def startsOf (subject : Subject) (p : Char → Bool) : Nat :=
  subject.places.foldl
    (fun starts (c, positions) => if p c then starts ||| positions else starts) 0

def lookMask (p : Option Char → Option Char → Bool) : Nat → Option Char → List Char → Nat
  | i, before, [] => if p before none then 1 <<< i else 0
  | i, before, c :: cs =>
    (if p before (some c) then 1 <<< i else 0) ||| lookMask p (i + 1) (some c) cs

def positionsOf (subject : Subject) (l : Look) : Nat :=
  lookMask l.holds 0 none subject.chars

def allPositions (subject : Subject) : Nat :=
  (1 <<< (subject.chars.length + 1)) - 1

end Subject

namespace Regex

/-- An expression against one text: which positions a step leads on from, and which it keeps. Sets
of positions are the bits of a natural number. -/
inductive Stepper where
  | advance (starts : Nat)
  | keep (positions : Nat)
  | repeat (a : Stepper) (least : Nat) (most : Option Nat)
  | seq (as : List Stepper)
  | alt (as : List Stepper)

variable (subject : Subject)

mutual

def stepper : Regex → Stepper
  | empty => .seq []
  | text cs => .seq (cs.map fun c => .advance (subject.startsOf (· == c)))
  | oneOf set => .advance (subject.startsOf set.contains)
  | look l => .keep (subject.positionsOf l)
  | .repeat r least most _ => .repeat r.stepper least most
  | capture r => r.stepper
  | seq rs => .seq (steppersOnto [] rs).reverse
  | alt rs => .alt (steppersOnto [] rs).reverse

def steppersOnto (acc : List Stepper) : List Regex → List Stepper
  | [] => acc
  | r :: rs => steppersOnto (r.stepper :: acc) rs

end

def iterate (step : Nat → Nat) : Nat → Nat → Nat
  | 0, s => s
  | k + 1, s =>
    let s' := step s
    if s' = s then s else iterate step k s'

def closure (step : Nat → Nat) : Nat → Nat → Nat
  | 0, s => s
  | k + 1, s =>
    let s' := s ||| step s
    if s' = s then s else closure step k s'

namespace Stepper

mutual

/-- The positions where a match may end that starts at one of `s`. -/
def ends : Stepper → Nat → Nat
  | advance starts, s => (s &&& starts) <<< 1
  | keep positions, s => s &&& positions
  | .repeat a least most, s =>
    closure a.ends (most.elim (subject.chars.length + 1) (· - least)) (iterate a.ends least s)
  | seq as, s => endsSeq as s
  | alt as, s => endsAlt as s 0

def endsSeq : List Stepper → Nat → Nat
  | [], s => s
  | a :: as, s => endsSeq as (a.ends s)

def endsAlt : List Stepper → Nat → Nat → Nat
  | [], _, acc => acc
  | a :: as, s, acc => endsAlt as s (acc ||| a.ends s)

end

end Stepper

def isMatch (r : Regex) (s : String) : Bool :=
  let subject := Subject.ofString s
  (r.stepper subject).ends subject subject.allPositions != 0

end Regex

end QueryEngine
