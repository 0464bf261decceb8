import QueryEngine.Regex.Build
import QueryEngine.Unicode.Case

namespace QueryEngine.Regex

structure Flags where
  ignoreCase : Bool := false
  multiLine : Bool := false
  dotAll : Bool := false
  swapGreed : Bool := false
  unicode : Bool := true
  extended : Bool := false
  crlf : Bool := false

def asciiDigits : CharSet := .ofTable "30-39"

def asciiSpaces : CharSet := .ofTable "9-d 20"

def asciiClasses : List (String × CharSet) :=
  [("alnum", .ofTable "30-39 41-5a 61-7a"),
   ("alpha", .ofTable "41-5a 61-7a"),
   ("ascii", .ofTable "0-7f"),
   ("blank", .ofTable "9 20"),
   ("cntrl", .ofTable "0-1f 7f"),
   ("digit", asciiDigits),
   ("graph", .ofTable "21-7e"),
   ("lower", .ofTable "61-7a"),
   ("print", .ofTable "20-7e"),
   ("punct", .ofTable "21-2f 3a-40 5b-60 7b-7e"),
   ("space", asciiSpaces),
   ("upper", .ofTable "41-5a"),
   ("word", asciiWordCharacters),
   ("xdigit", .ofTable "30-39 41-46 61-66")]

def asciiLetters : List Char :=
  (List.range 128).map Char.ofNat |>.filter Char.isAlpha

def foldAsciiCase (s : CharSet) : CharSet :=
  s.union <| .ofChars <| asciiLetters.filter fun c => s.contains c.toLower || s.contains c.toUpper

namespace Flags

def fold (f : Flags) (s : CharSet) : CharSet :=
  if f.ignoreCase then (if f.unicode then Unicode.foldCase s else foldAsciiCase s) else s

/-- A class under the flag for case, and then negated if that is asked for. Without Unicode the
negation has bytes that are no characters, and is refused. -/
def close? (f : Flags) (negated : Bool) (s : CharSet) : Option CharSet :=
  if !negated then some (f.fold s)
  else if f.unicode then some (f.fold s).compl
  else none

def char (f : Flags) (c : Char) : Regex :=
  if !f.ignoreCase then text [c]
  else if f.unicode then chars (Unicode.caseVariants c)
  else chars (foldAsciiCase (.single c))

def shorthandClass? (f : Flags) : Char → Option CharSet
  | 'd' => some (if f.unicode then Unicode.decimalNumbers else asciiDigits)
  | 's' => some (if f.unicode then Unicode.whiteSpace else asciiSpaces)
  | 'w' => some (if f.unicode then Unicode.wordCharacters else asciiWordCharacters)
  | _ => none

def dot? (f : Flags) : Option CharSet :=
  if !f.unicode then none
  else if f.dotAll then some .full
  else if f.crlf then some (CharSet.ofChars ['\n', '\r']).compl
  else some (CharSet.single '\n').compl

def caret (f : Flags) : Regex :=
  look (if f.multiLine then .lineStart f.crlf else .textStart)

def dollar (f : Flags) : Regex :=
  look (if f.multiLine then .lineEnd f.crlf else .textEnd)

def wordEdge (f : Flags) (edge : WordEdge) : Regex :=
  look (.word edge f.unicode)

def namedEdge? (f : Flags) : String → Option Regex
  | "start" => some (f.wordEdge .start)
  | "end" => some (f.wordEdge .stop)
  | "start-half" => some (f.wordEdge .noWordBefore)
  | "end-half" => some (f.wordEdge .noWordAfter)
  | _ => none

end Flags

end QueryEngine.Regex
