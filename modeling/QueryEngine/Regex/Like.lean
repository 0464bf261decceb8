import QueryEngine.Regex.Reading

namespace QueryEngine.Regex

def escaped (c : Char) : List Char :=
  if isMeta c then ['\\', c] else [c]

def likePiece (c : Char) : List Char :=
  if c = '%' then ['.', '*']
  else if c = '_' then ['.']
  else escaped c

/-- The regular expression of a LIKE pattern, anchored at both ends. Its dots stand for line breaks
too. -/
def likeText (pattern : String) : String :=
  "(?s)^" ++ String.ofList (pattern.toList.flatMap likePiece) ++ "$"

/-- The expression of a LIKE pattern, unless it needs too large an automaton. -/
def like? (pattern : String) : Option Regex :=
  read? (likeText pattern)

end QueryEngine.Regex
