import QueryEngine.Regex.Escape

namespace QueryEngine.Regex

/-- A part of a class and how deep its own parts are nested. -/
structure ClassPart where
  set : CharSet
  depth : Nat := 0

inductive ClassOp where
  | inter
  | diff
  | symmDiff

def ClassOp.apply : ClassOp → CharSet → CharSet → CharSet
  | inter => CharSet.inter
  | diff => CharSet.diff
  | symmDiff => CharSet.symmDiff

/-- A class read so far: the left side of a pending operation, and the parts since. -/
structure OpenClass where
  left : Option (ClassPart × ClassOp) := none
  parts : List ClassPart := []

namespace OpenClass

def add (k : OpenClass) (p : ClassPart) : OpenClass :=
  { k with parts := p :: k.parts }

def addChar (k : OpenClass) (c : Char) : OpenClass :=
  k.add { set := .single c }

def unionPart (k : OpenClass) : ClassPart :=
  match k.parts with
  | [] => { set := .empty }
  | [p] => p
  | ps => ⟨.unions (ps.reverse.map (·.set)), ps.foldl (fun n p => max n p.depth) 0 + 1⟩

/-- All that has been read. Operations associate to the left, with both sides under the flag for
case. -/
def value (f : Flags) (k : OpenClass) : ClassPart :=
  let right := k.unionPart
  match k.left with
  | some (p, op) => ⟨op.apply (f.fold p.set) (f.fold right.set), max p.depth right.depth + 1⟩
  | none => right

def operate (f : Flags) (k : OpenClass) (op : ClassOp) : OpenClass :=
  ⟨some (k.value f, op), []⟩

def close? (f : Flags) (negated : Bool) (k : OpenClass) : Option ClassPart :=
  let p := k.value f
  (f.close? negated p.set).map (⟨·, p.depth + 1⟩)

end OpenClass

def readAsciiName? (cs : List Char) : Option (CharSet × Bool × List Char) :=
  match cs with
  | ':' :: rest =>
    let (negated, rest) := match rest with
      | '^' :: rest => (true, rest)
      | rest => (false, rest)
    match rest.span (· != ':') with
    | (name, ':' :: ']' :: rest) => (asciiClasses.lookup (.ofList name)).map (·, negated, rest)
    | _ => none
  | _ => none

def readClassAtom? (f : Flags) (cs : List Char) : Option (Atom × List Char) := do
  let (atom, rest) ← match cs with
    | '\\' :: cs => readEscape? f cs
    | c :: cs => some (.literal c, cs)
    | [] => none
  match atom with
  | .literal c => if f.unicode || c.toNat < 128 then return (atom, rest) else none
  | atom => return (atom, rest)

/-- The text behind white space, looked at from a dash. The first `#` is passed over, but not its
line. -/
def afterDash (f : Flags) (cs : List Char) : List Char :=
  if f.extended then
    match Text.trimStart cs with
    | '#' :: rest => Text.trimStart rest
    | rest => rest
  else cs

def startsRange (f : Flags) : List Char → Bool
  | '-' :: cs =>
    match afterDash f cs with
    | ']' :: _ | '-' :: _ => false
    | _ => true
  | _ => false

def readClassItem? (f : Flags) (cs : List Char) : Option (CharSet × List Char) := do
  let (first, cs) ← readClassAtom? f cs
  let cs := skip f cs
  if startsRange f cs then
    let (last, cs) ← readClassAtom? f (skip f (cs.drop 1))
    match first, last with
    | .literal lo, .literal hi => if lo ≤ hi then some (.range lo hi, cs) else none
    | _, _ => none
  else
    match first with
    | .literal c => some (.single c, cs)
    | .oneOf s => some (s, cs)
    | .condition _ => none

def classStart (f : Flags) : Nat → OpenClass → Bool → List Char → OpenClass × List Char
  | 0, k, _, cs => (k, cs)
  | fuel + 1, k, bare, cs =>
    match skip f cs with
    | '-' :: rest => classStart f fuel (k.addChar '-') false rest
    | ']' :: rest => if bare then (k.addChar ']', rest) else (k, ']' :: rest)
    | rest => (k, rest)

def openBracket (f : Flags) (cs : List Char) : Bool × OpenClass × List Char :=
  let (negated, cs) := match skip f cs with
    | '^' :: rest => (true, rest)
    | rest => (false, rest)
  (negated, classStart f (cs.length + 1) {} true cs)

def depthLimit : Nat := 250

def readClassRest? (f : Flags) (negated : Bool) (level : Nat) :
    Nat → OpenClass → List Char → Option (ClassPart × List Char)
  | 0, _, _ => none
  | fuel + 1, k, cs =>
    match skip f cs with
    | [] => none
    | ']' :: rest => (k.close? f negated).map (·, rest)
    | '[' :: rest =>
      match readAsciiName? rest with
      | some (set, negated', rest) => do
        let set ← f.close? negated' set
        readClassRest? f negated level fuel (k.add { set }) rest
      | none =>
        if level < depthLimit then do
          let (negated', k', rest) := openBracket f rest
          let (p, rest) ← readClassRest? f negated' (level + 1) fuel k' rest
          readClassRest? f negated level fuel (k.add p) rest
        else none
    | '&' :: '&' :: rest => readClassRest? f negated level fuel (k.operate f .inter) rest
    | '-' :: '-' :: rest => readClassRest? f negated level fuel (k.operate f .diff) rest
    | '~' :: '~' :: rest => readClassRest? f negated level fuel (k.operate f .symmDiff) rest
    | rest => do
      let (set, rest) ← readClassItem? f rest
      readClassRest? f negated level fuel (k.add { set }) rest

def readClass? (f : Flags) (cs : List Char) : Option (ClassPart × List Char) :=
  let (negated, k, rest) := openBracket f cs
  readClassRest? f negated 1 (cs.length + 1) k rest

end QueryEngine.Regex
