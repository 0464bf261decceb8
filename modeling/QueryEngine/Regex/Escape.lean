import QueryEngine.Regex.CharClass
import QueryEngine.Text
import QueryEngine.Unicode.Name

namespace QueryEngine.Regex

open Text

def dropLine (cs : List Char) : List Char :=
  (cs.dropWhile (· != '\n')).drop 1

def skipSpace : Nat → List Char → List Char
  | 0, cs => cs
  | fuel + 1, cs =>
    match trimStart cs with
    | '#' :: rest => skipSpace fuel (dropLine rest)
    | rest => rest

def skip (f : Flags) (cs : List Char) : List Char :=
  if f.extended then skipSpace (cs.length + 1) cs else cs

def spanFrom (f : Flags) (p : Char → Bool) : Nat → List Char → List Char × List Char
  | 0, cs => ([], cs)
  | fuel + 1, cs =>
    match skip f cs with
    | c :: rest =>
      if p c then
        let (read, rest) := spanFrom f p fuel rest
        (c :: read, rest)
      else ([], c :: rest)
    | [] => ([], [])

def span (f : Flags) (p : Char → Bool) (cs : List Char) : List Char × List Char :=
  spanFrom f p (cs.length + 1) cs

def readBraced? (f : Flags) (cs : List Char) : Option (List Char × List Char) :=
  match span f (· != '}') cs with
  | (read, _ :: rest) => some (read, rest)
  | _ => none

def isHexDigit (c : Char) : Bool :=
  isDigit c || ('a' ≤ c.toLower && c.toLower ≤ 'f')

def hexValue? (ds : List Char) : Option Nat :=
  if !ds.isEmpty && ds.all isHexDigit then
    some (ds.foldl (fun n d => 16 * n + CharSet.hexDigitValue d.toLower) 0)
  else none

def charOfNat? (n : Nat) : Option Char :=
  if n.isValidChar then some (Char.ofNat n) else none

def take? (f : Flags) : Nat → List Char → Option (List Char × List Char)
  | 0, cs => some ([], cs)
  | n + 1, cs =>
    match skip f cs with
    | [] => none
    | c :: rest => (take? f n rest).map fun (read, rest) => (c :: read, rest)

def readHex? (f : Flags) (width : Nat) (cs : List Char) : Option (Char × List Char) := do
  let (ds, rest) ← match skip f cs with
    | '{' :: rest => readBraced? f rest
    | cs => take? f width cs
  return (← charOfNat? (← hexValue? ds), rest)

/-- The two digits of `\x`. Without Unicode they name a byte, which has to be ASCII. -/
def readByte? (f : Flags) (cs : List Char) : Option (Char × List Char) := do
  let (c, rest) ← readHex? f 2 cs
  if f.unicode || c.toNat < 128 || (skip f cs).head? == some '{' then return (c, rest)
  none

def splitAt? (sep : List Char) : List Char → Option (List Char × List Char)
  | [] => none
  | c :: cs =>
    if sep.isPrefixOf (c :: cs) then some ([], (c :: cs).drop sep.length)
    else (splitAt? sep cs).map fun (before, after) => (c :: before, after)

def describedSet? (cs : List Char) : Option (CharSet × Bool) := do
  match splitAt? ['!', '='] cs with
  | some (property, value) =>
    return (← Unicode.withValue? (.ofList property) (.ofList value), true)
  | none =>
    match splitAt? [':'] cs <|> splitAt? ['='] cs with
    | some (property, value) =>
      return (← Unicode.withValue? (.ofList property) (.ofList value), false)
    | none => return (← Unicode.named? (.ofList cs), false)

def readProperty? (f : Flags) (negated : Bool) (cs : List Char) : Option (CharSet × List Char) := do
  let (description, rest) ← match skip f cs with
    | '{' :: rest => readBraced? f rest
    | c :: rest => some ([c], rest)
    | [] => none
  let (set, otherwise) ← describedSet? description
  if f.unicode then return (← f.close? (negated != otherwise) set, rest)
  none

inductive Atom where
  | literal (c : Char)
  | oneOf (set : CharSet)
  | condition (r : Regex)

def isMeta (c : Char) : Bool :=
  "\\.+*?()|[]\x7b\x7d^$#&-~".contains c

def isEscapable (c : Char) : Bool :=
  isMeta c || (c.toNat < 128 && !c.isAlphanum && c != '<' && c != '>')

def isEdgeName (c : Char) : Bool :=
  c.isAlpha || c == '-'

/-- The condition after `\b`, which may have a name in braces. A brace that holds no name belongs
to a repetition. -/
def readEdge? (f : Flags) (cs : List Char) : Option (Regex × List Char) :=
  let plain := some (f.wordEdge .boundary, cs)
  match cs with
  | '{' :: rest =>
    match span f isEdgeName rest with
    | ([], _) => plain
    | (name, '}' :: rest) => (f.namedEdge? (.ofList name)).map (·, rest)
    | _ => none
  | _ => plain

def readEscape? (f : Flags) : List Char → Option (Atom × List Char)
  | [] => none
  | 'x' :: cs => (readByte? f cs).map fun (c, rest) => (.literal c, rest)
  | 'u' :: cs => (readHex? f 4 cs).map fun (c, rest) => (.literal c, rest)
  | 'U' :: cs => (readHex? f 8 cs).map fun (c, rest) => (.literal c, rest)
  | 'p' :: cs => (readProperty? f false cs).map fun (s, rest) => (.oneOf s, rest)
  | 'P' :: cs => (readProperty? f true cs).map fun (s, rest) => (.oneOf s, rest)
  | 'a' :: cs => some (.literal (Char.ofNat 7), cs)
  | 'f' :: cs => some (.literal (Char.ofNat 12), cs)
  | 't' :: cs => some (.literal '\t', cs)
  | 'n' :: cs => some (.literal '\n', cs)
  | 'r' :: cs => some (.literal '\r', cs)
  | 'v' :: cs => some (.literal (Char.ofNat 11), cs)
  | 'A' :: cs => some (.condition (look .textStart), cs)
  | 'z' :: cs => some (.condition (look .textEnd), cs)
  | 'b' :: cs => (readEdge? f cs).map fun (r, rest) => (.condition r, rest)
  | 'B' :: cs => some (.condition (f.wordEdge .noBoundary), cs)
  | '<' :: cs => some (.condition (f.wordEdge .start), cs)
  | '>' :: cs => some (.condition (f.wordEdge .stop), cs)
  | c :: cs =>
    match f.shorthandClass? c.toLower with
    | some s => (f.close? c.isUpper s).map fun s => (.oneOf s, cs)
    | none => if isEscapable c then some (.literal c, cs) else none

end QueryEngine.Regex
