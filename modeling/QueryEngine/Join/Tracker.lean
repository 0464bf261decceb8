namespace QueryEngine

structure MatchTracker where
  marks : Array Bool := #[]

namespace MatchTracker

def isMatch (t : MatchTracker) (i : Nat) : Bool :=
  t.marks.getD i false

def setMatch (t : MatchTracker) (i : Nat) : MatchTracker :=
  if i < t.marks.size then ⟨t.marks.setIfInBounds i true⟩
  else ⟨(t.marks ++ Array.replicate (i - t.marks.size) false).push true⟩

end MatchTracker

end QueryEngine
