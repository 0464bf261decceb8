import QueryEngine.Binary64

namespace QueryEngine.Text

def markFirst? (c : Char) (low high : Nat) : Nat → List (Char × Bool) →
    Option (List (Char × Bool))
  | _, [] => none
  | i, (d, taken) :: rest =>
    if high ≤ i then none
    else if low ≤ i ∧ c = d ∧ !taken then some ((d, true) :: rest)
    else (markFirst? c low high (i + 1) rest).map ((d, taken) :: ·)

/-- Match each character with the first free equal one at most `range` positions away. Gives the
matched characters of the first text and the marks on the second. -/
def matchCharacters (range : Nat) :
    Nat → List Char → List (Char × Bool) → List Char × List (Char × Bool)
  | _, [], marks => ([], marks)
  | i, c :: cs, marks =>
    match markFirst? c (i - range) (i + range + 1) 0 marks with
    | some marks' =>
      let (matched, final) := matchCharacters range (i + 1) cs marks'
      (c :: matched, final)
    | none => matchCharacters range (i + 1) cs marks

def quotient (a b : Nat) : Binary64 :=
  Binary64.ofInt a / Binary64.ofInt b

def jaro (a b : List Char) : Binary64 :=
  if a.isEmpty && b.isEmpty then Binary64.ofInt 1
  else if a.isEmpty || b.isEmpty then Binary64.zero
  else
    let range := max a.length b.length / 2 - 1
    let (matched, marks) := matchCharacters range 0 a (b.map fun c => (c, false))
    let others := (marks.filter (·.2)).map (·.1)
    let moved := ((matched.zip others).filter fun p => p.1 != p.2).length / 2
    let n := matched.length
    if n = 0 then Binary64.zero
    else
      (quotient n a.length + quotient n b.length + quotient (n - moved) n) / Binary64.ofInt 3

/-- Jaro similarity, with a bonus for up to four common leading characters when it is above
seven tenths. -/
def jaroWinkler (a b : List Char) : Binary64 :=
  let sim := jaro a b
  let one := Binary64.ofInt 1
  let ten := Binary64.ofInt 10
  if sim.totalCompare (Binary64.ofInt 7 / ten) = .gt then
    let common := (((a.take 4).zip b).takeWhile fun p => p.1 = p.2).length
    sim + one / ten * Binary64.ofInt common * (one - sim)
  else sim

/-- The candidate most similar to `text` among those above four fifths, the last one of equals. -/
def closest? (text : String) (candidates : List String) : Option String :=
  let threshold := Binary64.ofInt 4 / Binary64.ofInt 5
  let scored := candidates.map fun c => (jaroWinkler text.toList c.toList, c)
  let eligible := scored.filter fun p => p.1.totalCompare threshold = .gt
  (eligible.foldl (fun best p =>
    match best with
    | some b => if p.1.totalCompare b.1 = .lt then some b else some p
    | none => some p) none).map (·.2)

end QueryEngine.Text
