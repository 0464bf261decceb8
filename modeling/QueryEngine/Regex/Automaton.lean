import QueryEngine.Regex.Build
import QueryEngine.Unicode.Encoding
import Std.Data.HashMap

namespace QueryEngine.Regex

open Unicode

inductive Direction where
  | forward
  | backward
deriving DecidableEq

/-- An automaton over bytes as far as it has been built. Only its size is worked out: the number of
states, the bytes that they take up, and whether the part built last ends in a branching state,
which grows when it is led on. -/
structure Automaton where
  states : Nat := 0
  bytes : Nat := 0
  branching : Bool := false

namespace Automaton

def limit : Nat := 10485760

/-- With further states, transitions of states that have several, and links of branching states. -/
def add? (a : Automaton) (states transitions links : Nat) : Option Automaton :=
  let bytes := a.bytes + 32 * states + 8 * transitions + 4 * links
  if limit < bytes then none else some { states := a.states + states, bytes }

/-- The automaton with the end of the part built last led on. -/
def lead? (a : Automaton) : Option Automaton :=
  a.add? 0 0 (if a.branching then 1 else 0)

def times? (part : Automaton → Option Automaton) : Nat → Automaton → Option Automaton
  | 0, a => some a
  | n + 1, a =>
    match a.lead? >>= part with
    | some a => times? part n a
    | none => none

/-- Texts that begin alike, by what follows. A text that ends here ends the group of branches open
until then, so that what comes later is tried later. -/
inductive Trie where
  | node (closed : List (List (Nat × Trie))) (active : List (Nat × Trie))

namespace Trie

def empty : Trie := node [] []

def insertAt (b : Nat) (t : Trie) : List (Nat × Trie) → List (Nat × Trie)
  | [] => [(b, t)]
  | (b', t') :: rest => if b = b' then (b, t) :: rest else (b', t') :: insertAt b t rest

def isLeaf : Trie → Bool
  | node closed active => active.isEmpty && closed.all List.isEmpty

def insert : List Nat → Trie → Trie
  | [], node closed active =>
    if !closed.isEmpty && isLeaf (node closed active) then node closed active
    else node (active :: closed) []
  | b :: bs, node closed active =>
    node closed (insertAt b (insert bs ((active.lookup b).getD empty)) active)

mutual

/-- A branching state for every text that goes on, and a state for each group of branches. -/
def add? : Trie → Automaton → Option Automaton
  | node closed active, a => do
    if isLeaf (node closed active) then return a
    let groups := (active :: closed).filter fun group => !group.isEmpty
    let transitions := groups.map fun group => if group.length = 1 then 0 else group.length
    let a ← a.add? (groups.length + 1) transitions.sum (groups.length + closed.length)
    addGroups? closed (← addBranches? active a)

def addGroups? : List (List (Nat × Trie)) → Automaton → Option Automaton
  | [], a => some a
  | group :: groups, a =>
    match addBranches? group a with
    | some a => addGroups? groups a
    | none => none

def addBranches? : List (Nat × Trie) → Automaton → Option Automaton
  | [], a => some a
  | (_, t) :: rest, a =>
    match t.add? a with
    | some a => addBranches? rest a
    | none => none

end

end Trie

def addTexts? (d : Direction) (texts : List (List Char)) (a : Automaton) : Option Automaton :=
  let inOrder (bytes : List Nat) := if d = .forward then bytes else bytes.reverse
  let trie := texts.foldl (fun t cs => t.insert (inOrder (utf8 cs))) Trie.empty
  a.add? 1 0 0 >>= trie.add?

/-- States known by what they do. A state is found again as long as no other one that falls into
the same of `slots` places has been added. -/
structure Known where
  slots : Nat
  places : Std.HashMap Nat (List Nat × Nat) := {}

namespace Known

def place (k : Known) (description : List Nat) : Nat :=
  let hash := description.foldl (fun (h : UInt64) n => (h ^^^ n.toUInt64) * 1099511628211)
    14695981039346656037
  hash.toNat % k.slots

def find? (k : Known) (description : List Nat) : Option Nat :=
  match k.places[k.place description]? with
  | some (found, state) => if found = description then some state else none
  | none => none

def insert (k : Known) (description : List Nat) (state : Nat) : Known :=
  { k with places := k.places.insert (k.place description) (description, state) }

end Known

structure SetPart where
  state : Nat
  known : Known
  automaton : Automaton

def state? (description : List Nat) (transitions : Nat) (known : Known) (a : Automaton) :
    Option SetPart :=
  match known.find? description with
  | some state => some ⟨state, known, a⟩
  | none => (a.add? 1 transitions 0).map (⟨a.states, known.insert description a.states, ·⟩)

def byHead : List (List ByteRange) → List (ByteRange × List (List ByteRange)) :=
  List.foldr (fun rs groups =>
    match rs, groups with
    | [], groups => groups
    | r :: rs, (r', tails) :: groups =>
      if r = r' then (r, rs :: tails) :: groups else (r, [rs]) :: (r', tails) :: groups
    | r :: rs, [] => [(r, [rs])]) []

/-- The state from which the sequences lead to `target`. Sequences that end alike share states.
Encodings have at most four bytes. -/
def shared? (target : Nat) :
    Nat → List (List ByteRange) → Known → Automaton → Option SetPart
  | 0, _, known, a => some ⟨target, known, a⟩
  | depth + 1, seqs, known, a =>
    match byHead seqs with
    | [] => some ⟨target, known, a⟩
    | groups => do
      let (description, known, a) ← groups.foldlM (fun (description, known, a) (r, tails) => do
        let next ← shared? target depth tails known a
        return (next.state :: r.hi :: r.lo :: description, next.known, next.automaton))
        (([] : List Nat), known, a)
      state? description.reverse groups.length known a

def chain? (rs : List ByteRange) (p : SetPart) : Option SetPart :=
  rs.foldlM (fun p r => state? [p.state, r.lo, r.hi] 0 p.known p.automaton) p

def chains? (target : Nat) : List (List ByteRange) → Known → Automaton → Option Automaton
  | [], _, a => some a
  | rs :: seqs, known, a =>
    match chain? rs ⟨target, known, a⟩ with
    | some p =>
      match p.automaton.add? 0 0 1 with
      | some a => chains? target seqs p.known a
      | none => none
    | none => none

def addSet? (d : Direction) (set : CharSet) (a : Automaton) : Option Automaton :=
  if set.isAscii then a.add? 2 set.ranges.length 0
  else
    let seqs := set.ranges.flatMap fun (lo, hi) => byteRanges lo hi
    match d with
    | .forward => do
      let p ← shared? a.states 4 seqs ⟨10000, {}⟩ (← a.add? 1 0 0)
      return p.automaton
    | .backward => do chains? (a.states + 1) seqs ⟨1000, {}⟩ (← a.add? 2 0 0)

/-- Up to `n` parts more, each of which may be left out with those behind it. -/
def optional? (part : Automaton → Option Automaton) : Nat → Automaton → Option Automaton
  | 0, a => a.lead?
  | n + 1, a =>
    match a.lead? >>= (·.add? 1 0 2) >>= part with
    | some a => optional? part n a
    | none => none

def exactly? (part : Automaton → Option Automaton) (n : Nat) (a : Automaton) :
    Option Automaton :=
  if n = 0 then a.add? 1 0 0 else times? part n a

/-- `least` parts and any number more. Parts that may be empty need a loop of their own. -/
def atLeast? (part : Automaton → Option Automaton) (consumes : Bool) (least : Nat)
    (a : Automaton) : Option Automaton :=
  if least = 0 then
    if consumes then do
      let a ← (← part (← a.add? 1 0 1)).lead?
      return { a with branching := true }
    else do (← (← part a).lead?).add? 3 0 4
  else do
    let a ← (← (← times? part least a).lead?).add? 1 0 1
    return { a with branching := true }

def addRepeat? (part : Automaton → Option Automaton) (consumes : Bool) (least : Nat)
    (most : Option Nat) (a : Automaton) : Option Automaton :=
  match most with
  | none => atLeast? part consumes least a
  | some most =>
    if least = most then exactly? part most a
    else if least = 0 ∧ most = 1 then do
      (← (← part (← a.add? 1 0 2)).lead?).add? 1 0 0
    else do
      optional? part (most - least) (← (← (← exactly? part least a).lead?).add? 1 0 0)

end Automaton

mutual

def backward : Regex → Regex
  | .repeat r least most greedy => .repeat r.backward least most greedy
  | capture r => capture r.backward
  | seq rs => seq (backwardOnto [] rs)
  | alt rs => alt (backwardAll rs)
  | r => r

def backwardOnto (acc : List Regex) : List Regex → List Regex
  | [] => acc
  | r :: rs => backwardOnto (r.backward :: acc) rs

def backwardAll : List Regex → List Regex
  | [] => []
  | r :: rs => r.backward :: backwardAll rs

end

mutual

def beginsWith (l : Look) : Regex → Bool
  | look m => m == l
  | .repeat r least _ _ => 0 < least && beginsWith l r
  | capture r => beginsWith l r
  | seq rs => beginsWithSeq l rs
  | alt rs => beginsWithAll l rs
  | _ => false

def beginsWithSeq (l : Look) : List Regex → Bool
  | [] => false
  | r :: rs => beginsWith l r || (r.widthless && beginsWithSeq l rs)

def beginsWithAll (l : Look) : List Regex → Bool
  | [] => true
  | r :: rs => beginsWith l r && beginsWithAll l rs

end

def textOf? : Regex → Option (List Char)
  | text cs => some cs
  | _ => none

open Automaton

mutual

def addTo? (d : Direction) : Regex → Automaton → Option Automaton
  | empty, a | look _, a => a.add? 1 0 0
  | text cs, a => a.add? (utf8 cs).length 0 0
  | oneOf set, a => addSet? d set a
  | .repeat r least most _, a => addRepeat? (addTo? d r) r.consumes least most a
  | capture r, a =>
    match d with
    | .forward => do (← (← addTo? .forward r (← a.add? 1 0 0)).lead?).add? 1 0 0
    | .backward => addTo? .backward r a
  | seq rs, a => addSeq? d rs a
  | alt rs, a =>
    match rs.mapM textOf? with
    | some texts => addTexts? d texts a
    | none => addBranches? d 0 rs a

def addSeq? (d : Direction) : List Regex → Automaton → Option Automaton
  | [], a => some a
  | r :: rs, a =>
    match a.lead? >>= addTo? d r with
    | some a => addSeq? d rs a
    | none => none

/-- Branches with links to them from a branching state. That state and the one behind all branches
are added after the second. -/
def addBranches? (d : Direction) (before : Nat) : List Regex → Automaton → Option Automaton
  | [], a => some a
  | r :: rs, a =>
    match addTo? d r a >>= lead? >>= (·.add? (if before = 1 then 2 else 0) 0 1) with
    | some a => addBranches? d (before + 1) rs a
    | none => none

end

/-- The automaton that looks for a match. Unless a match has to stand at the side of the text where
the search starts, it first passes over any number of bytes. -/
def search? (d : Direction) (atSide : Bool) (r : Regex) : Option Automaton := do
  let a : Automaton := {}
  let start ← if atSide then a.add? 1 0 0 else do (← a.add? 3 1 1).add? 0 0 1
  (← (← addTo? d r start).lead?).add? 1 0 0

/-- An expression is accepted if both of its automata stay below the limit, the one that reads a
text forward and the one that reads it backward. The whole match is a capture. -/
def fits (r : Regex) : Bool :=
  (search? .forward (beginsWith .textStart r) (capture r)).isSome &&
    (search? .backward (beginsWith .textEnd r.backward) (capture r.backward)).isSome

end QueryEngine.Regex
