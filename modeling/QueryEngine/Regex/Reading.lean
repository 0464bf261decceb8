import QueryEngine.Regex.Automaton
import QueryEngine.Regex.Bracket

namespace QueryEngine.Regex

open Text

/-- A count, with white space around it; `none` without digits or from `2 ^ 32` on. -/
def readCount? (f : Flags) (cs : List Char) : Option (Nat × List Char) :=
  let (digits, rest) := span f isDigit (trimStart (skip f cs))
  let n := digitsValue digits
  if digits.isEmpty ∨ 0x100000000 ≤ n then none
  else some (n, skip f (trimStart rest))

def readBounds? (f : Flags) (cs : List Char) : Option (Nat × Option Nat × List Char) := do
  let (least, cs) ← readCount? f cs
  match cs with
  | '}' :: rest => return (least, some least, rest)
  | ',' :: rest =>
    match skip f rest with
    | '}' :: rest => return (least, none, rest)
    | rest => do
      let (most, rest) ← readCount? f rest
      match rest with
      | '}' :: rest => if least ≤ most then return (least, some most, rest) else none
      | _ => none
  | _ => none

def setFlag? (f : Flags) (on : Bool) : Char → Option Flags
  | 'i' => some { f with ignoreCase := on }
  | 'm' => some { f with multiLine := on }
  | 's' => some { f with dotAll := on }
  | 'u' => some { f with unicode := on }
  | 'x' => some { f with extended := on }
  | 'R' => some { f with crlf := on }
  | 'U' => some { f with swapGreed := on }
  | _ => none

/-- Flags up to `:` or `)`. No flag may be repeated, at most one `-` may stand among them, and it
may not be the last. -/
def readFlags? (f : Flags) (seen : List Char) (on : Bool) : List Char → Option (Flags × List Char)
  | ':' :: cs => if seen.head? = some '-' then none else some (f, ':' :: cs)
  | ')' :: cs => if seen.head? = some '-' then none else some (f, ')' :: cs)
  | '-' :: cs => if on then readFlags? f ('-' :: seen) false cs else none
  | c :: cs =>
    if seen.contains c then none
    else
      match setFlag? f on c with
      | some f' => readFlags? f' (c :: seen) on cs
      | none => none
  | [] => none

def isNameStart (c : Char) : Bool :=
  c == '_' || Unicode.alphabetic.contains c

def isNameRest (c : Char) : Bool :=
  c == '_' || c == '.' || c == '[' || c == ']' || Unicode.alphanumeric.contains c

def readGroupName? (names : List String) (cs : List Char) : Option (String × List Char) :=
  match cs.span (· != '>') with
  | (c :: name, _ :: rest) =>
    let text := String.ofList (c :: name)
    if isNameStart c && name.all isNameRest && !names.contains text then some (text, rest)
    else none
  | _ => none

/-- The beginning of a group after its parenthesis: a setting of flags that ends here, or the
flags inside the group. -/
inductive GroupStart where
  | setFlags (f : Flags)
  | group (f : Flags) (capturing : Bool)

def readGroupStart? (f : Flags) (names : List String) (cs : List Char) :
    Option (GroupStart × List String × List Char) :=
  match skip f cs with
  | '?' :: '=' :: _ | '?' :: '!' :: _ | '?' :: '<' :: '=' :: _ | '?' :: '<' :: '!' :: _ => none
  | '?' :: 'P' :: '<' :: rest | '?' :: '<' :: rest =>
    (readGroupName? names rest).map fun (name, rest) => (.group f true, name :: names, rest)
  | '?' :: rest =>
    match readFlags? f [] true rest with
    | some (f', ':' :: after) => some (.group f' false, names, after)
    | some (f', _ :: after) =>
      if rest.head? = some ')' then none else some (.setFlags f', names, after)
    | _ => none
  | rest => some (.group f true, names, rest)

/-- A part of an expression and how deep its own parts are nested. A setting of flags is a part
that cannot be repeated. -/
structure Part where
  regex : Regex
  depth : Nat := 0
  repeatable : Bool := true

def joined (build : List Regex → Regex) : List Part → Part
  | [] => { regex := empty }
  | [p] => p
  | ps => { regex := build (ps.map (·.regex)), depth := ps.foldl (fun n p => max n p.depth) 0 + 1 }

/-- A group read so far, inside `level` others. Alternatives and parts stand last first. -/
structure OpenGroup where
  flags : Flags := {}
  names : List String := []
  level : Nat := 0
  alternatives : List Part := []
  parts : List Part := []

namespace OpenGroup

def push (g : OpenGroup) (p : Part) : OpenGroup :=
  { g with parts := p :: g.parts }

def sequence (g : OpenGroup) : Part :=
  joined concat g.parts.reverse

def value (g : OpenGroup) : Part :=
  joined alternation (g.sequence :: g.alternatives).reverse

def nextAlternative (g : OpenGroup) : OpenGroup :=
  { g with alternatives := g.sequence :: g.alternatives, parts := [] }

def setFlags (g : OpenGroup) (f : Flags) : OpenGroup :=
  { g.push { regex := empty, repeatable := false } with flags := f }

def pushGroup (g inner : OpenGroup) (capturing : Bool) : OpenGroup :=
  let p := inner.value
  let regex := if capturing then capture p.regex else p.regex
  { g.push { regex, depth := p.depth + 1 } with names := inner.names }

def repeatLast? (g : OpenGroup) (least : Nat) (most : Option Nat) (marked : Bool) :
    Option OpenGroup :=
  match g.parts with
  | p :: ps =>
    if p.repeatable then
      let regex := repeated p.regex least most (marked == g.flags.swapGreed)
      some { g with parts := { regex, depth := p.depth + 1 } :: ps }
    else none
  | [] => none

def pushAtom (g : OpenGroup) : Atom → OpenGroup
  | .literal c => g.push { regex := g.flags.char c }
  | .oneOf set => g.push { regex := chars set }
  | .condition r => g.push { regex := r }

end OpenGroup

def readGroup? : Nat → OpenGroup → List Char → Option (OpenGroup × List Char)
  | 0, _, _ => none
  | fuel + 1, g, cs =>
    let f := g.flags
    let repeated (least : Nat) (most : Option Nat) (rest : List Char) :=
      let (marked, rest) := match rest with
        | '?' :: rest => (true, rest)
        | rest => (false, rest)
      match g.repeatLast? least most marked with
      | some g' => readGroup? fuel g' rest
      | none => none
    match skip f cs with
    | [] => some (g, [])
    | ')' :: rest => some (g, ')' :: rest)
    | '|' :: rest => readGroup? fuel g.nextAlternative rest
    | '*' :: rest => repeated 0 none rest
    | '+' :: rest => repeated 1 none rest
    | '?' :: rest => repeated 0 (some 1) rest
    | '{' :: rest =>
      match readBounds? f rest with
      | some (least, most, rest) => repeated least most (skip f rest)
      | none => none
    | '(' :: rest =>
      match readGroupStart? f g.names rest with
      | some (.setFlags f', _, rest) => readGroup? fuel (g.setFlags f') rest
      | some (.group f' capturing, names, rest) =>
        if g.level < depthLimit then
          match readGroup? fuel { flags := f', names, level := g.level + 1 } rest with
          | some (inner, ')' :: rest) => readGroup? fuel (g.pushGroup inner capturing) rest
          | _ => none
        else none
      | none => none
    | '[' :: rest =>
      match readClass? f rest with
      | some (p, rest) =>
        readGroup? fuel (g.push { regex := chars p.set, depth := p.depth }) rest
      | none => none
    | '\\' :: rest =>
      match readEscape? f rest with
      | some (atom, rest) => readGroup? fuel (g.pushAtom atom) rest
      | none => none
    | '.' :: rest =>
      match f.dot? with
      | some set => readGroup? fuel (g.push { regex := oneOf set }) rest
      | none => none
    | '^' :: rest => readGroup? fuel (g.push { regex := f.caret }) rest
    | '$' :: rest => readGroup? fuel (g.push { regex := f.dollar }) rest
    | c :: rest => readGroup? fuel (g.pushAtom (.literal c)) rest

def read? (text : String) : Option Regex :=
  let cs := text.toList
  match readGroup? (cs.length + 1) {} cs with
  | some (g, []) =>
    let p := g.value
    if p.depth ≤ depthLimit && p.regex.fits then some p.regex else none
  | _ => none

end QueryEngine.Regex
