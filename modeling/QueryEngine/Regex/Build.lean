import QueryEngine.Regex.Basic

namespace QueryEngine.Regex

mutual

def same : Regex → Regex → Bool
  | empty, empty => true
  | text cs, text ds => cs == ds
  | oneOf s, oneOf t => s == t
  | look l, look m => l == m
  | .repeat r a b g, .repeat r' a' b' g' => a == a' && b == b' && g == g' && same r r'
  | seq rs, seq rs' => sameList rs rs'
  | alt rs, alt rs' => sameList rs rs'
  | _, _ => false

def sameList : List Regex → List Regex → Bool
  | [], [] => true
  | r :: rs, r' :: rs' => same r r' && sameList rs rs'
  | _, _ => false

end

mutual

def widthless : Regex → Bool
  | empty | look _ => true
  | text _ | oneOf _ => false
  | .repeat r _ most _ => most.isSome && r.widthless
  | capture r => r.widthless
  | seq rs | alt rs => allWidthless rs

def allWidthless : List Regex → Bool
  | [] => true
  | r :: rs => r.widthless && allWidthless rs

end

mutual

/-- A lower bound for the number of characters in a match, `none` if some part cannot match. -/
def leastLength : Regex → Option Nat
  | empty | look _ => some 0
  | text cs => some cs.length
  | oneOf set => if set.isEmpty then none else some 1
  | .repeat r least _ _ => r.leastLength.map (· * least)
  | capture r => r.leastLength
  | seq rs => leastLengthSeq 0 rs
  | alt rs => leastLengthAlt none rs

def leastLengthSeq (sum : Nat) : List Regex → Option Nat
  | [] => some sum
  | r :: rs =>
    match r.leastLength with
    | some n => leastLengthSeq (sum + n) rs
    | none => none

def leastLengthAlt (least : Option Nat) : List Regex → Option Nat
  | [] => least
  | r :: rs =>
    match r.leastLength with
    | some n => leastLengthAlt (some (least.elim n (min n))) rs
    | none => none

end

def consumes (r : Regex) : Bool :=
  r.leastLength.any (0 < ·)

def chars (set : CharSet) : Regex :=
  match set.single? with
  | some c => text [c]
  | none => oneOf set

/-- A repetition. Repeating what has no width once is enough. -/
def repeated (r : Regex) (least : Nat) (most : Option Nat) (greedy : Bool) : Regex :=
  let (least, most) :=
    if r.widthless then (min least 1, some (most.elim 1 (min 1))) else (least, most)
  if least = 0 ∧ most = some 0 then empty
  else if least = 1 ∧ most = some 1 then r
  else .repeat r least most greedy

def items : Regex → List Regex
  | empty => []
  | seq rs => rs
  | r => [r]

/-- The parts of a sequence read so far, last first, and the text at its end, last character
first. -/
structure Joining where
  parts : List Regex := []
  tail : List Char := []

def Joining.close (j : Joining) : List Regex :=
  if j.tail.isEmpty then j.parts else text j.tail.reverse :: j.parts

def Joining.add (j : Joining) : Regex → Joining
  | text cs => { j with tail := cs.reverseAux j.tail }
  | r => { parts := r :: j.close }

def joinTexts (rs : List Regex) : List Regex :=
  (rs.foldl Joining.add {}).close.reverse

def concat (rs : List Regex) : Regex :=
  match joinTexts (rs.flatMap items) with
  | [] => empty
  | [r] => r
  | rs => seq rs

def branches : Regex → List Regex
  | alt rs => rs
  | r => [r]

def char? : Regex → Option Char
  | text [c] => some c
  | _ => none

def set? : Regex → Option CharSet
  | oneOf set => some set
  | _ => none

def asSet? (rs : List Regex) : Option CharSet :=
  match rs.mapM char? with
  | some cs => some (.ofChars cs)
  | none => (rs.mapM set?).map .unions

def commonLength : List Regex → List Regex → Nat
  | r :: rs, r' :: rs' => if same r r' then commonLength rs rs' + 1 else 0
  | _, _ => 0

def sequence? : Regex → Option (List Regex)
  | seq rs => some rs
  | _ => none

def commonStart? (rs : List Regex) : Option (List Regex × List Regex) := do
  match ← rs.mapM sequence? with
  | [] => none
  | first :: others =>
    let n := others.foldl (fun n items => min n (commonLength first items)) first.length
    if n = 0 then none
    else return (first.take n, (first :: others).map fun items => concat (items.drop n))

def alternationFrom : Nat → List Regex → Regex
  | 0, rs => alt rs
  | fuel + 1, rs =>
    match rs.flatMap branches with
    | [] => oneOf .empty
    | [r] => r
    | rs =>
      match asSet? rs with
      | some set => chars set
      | none =>
        match commonStart? rs with
        | some (start, rest) => concat (start ++ [alternationFrom fuel rest])
        | none => alt rs

/-- Every branch that is a sequence gets shorter each time, so their items bound the number. -/
def alternation (rs : List Regex) : Regex :=
  alternationFrom ((rs.flatMap branches).foldl (fun n r => n + r.items.length) 1) rs

end QueryEngine.Regex
