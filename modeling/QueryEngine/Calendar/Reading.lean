import QueryEngine.Calendar

namespace QueryEngine.Calendar

open Text

/-- A number of one up to `width` digits (any number of digits without `width`), after white
space. Numbers of 64 bits and more are refused. -/
def readNumber? (width : Option Nat) (cs : List Char) : Option (Nat × List Char) :=
  let run := cs.takeWhile isDigit
  let digits := match width with
    | some w => run.take w
    | none => run
  let n := digitsValue digits
  if digits.isEmpty ∨ 0x8000000000000000 ≤ n then none
  else some (n, cs.drop digits.length)

def readField? (most : Nat) (cs : List Char) : Option (Nat × List Char) :=
  match readNumber? (some 2) (trimStart cs) with
  | some (n, rest) => if n ≤ most then some (n, rest) else none
  | none => none

/-- A year: up to four digits, or a sign and any number of digits. -/
def readYear? (cs : List Char) : Option (Int × List Char) :=
  match trimStart cs with
  | '-' :: rest => (readNumber? none rest).map fun (n, rest) => (-(n : Int), rest)
  | '+' :: rest => (readNumber? none rest).map fun (n, rest) => ((n : Int), rest)
  | rest => (readNumber? (some 4) rest).map fun (n, rest) => ((n : Int), rest)

def expect? (c : Char) : List Char → Option (List Char)
  | d :: rest => if c = d then some rest else none
  | [] => none

def readDatePart? (cs : List Char) : Option (Date × List Char) := do
  let (year, cs) ← readYear? cs
  let cs ← expect? '-' cs
  let (month, cs) ← readField? 12 cs
  let cs ← expect? '-' cs
  let (day, cs) ← readField? 31 cs
  let date ← Date.of? year month day
  return (date, cs)

def readFraction? (cs : List Char) : Option (Nat × List Char) :=
  match cs with
  | '.' :: rest =>
    let digits := (rest.takeWhile isDigit).take 9
    if digits.isEmpty then none
    else some (digitsValue digits * Nat.pow 10 (9 - digits.length), rest.dropWhile isDigit)
  | _ => some (0, cs)

/-- `hour:minute:second` at the start of the text, with an optional fraction if `fractional`.
Second 60 is the leap second after 59. -/
def readTimePart? (fractional : Bool) (cs : List Char) : Option (Time × List Char) := do
  let (hour, cs) ← readField? 23 cs
  let cs ← expect? ':' cs
  let (minute, cs) ← readField? 59 cs
  let cs ← expect? ':' cs
  let (second, cs) ← readField? 60 cs
  let (nanosecond, cs) ← if fractional then readFraction? cs else some (0, cs)
  let time ← if second = 60 then Time.of? hour minute 59 (1000000000 + nanosecond)
    else Time.of? hour minute second nanosecond
  return (time, cs)

def atEnd? {α : Type} : Option (α × List Char) → Option α
  | some (a, []) => some a
  | _ => none

def readDate? (cs : List Char) : Option Date :=
  atEnd? (readDatePart? cs)

def readTime? (cs : List Char) : Option Time :=
  atEnd? (readTimePart? false cs)

def readDateTimeWith? (separator : List Char → Option (List Char)) (fractional : Bool)
    (cs : List Char) : Option DateTime := do
  let (date, cs) ← readDatePart? cs
  let cs ← separator cs
  let time ← atEnd? (readTimePart? fractional cs)
  return ⟨date, time⟩

/-- A date and a time, apart by white space or by a `T`; only the first form has fractions. -/
def readDateTime? (cs : List Char) : Option DateTime :=
  readDateTimeWith? (fun cs => some (trimStart cs)) false cs
    <|> readDateTimeWith? (expect? 'T') false cs
    <|> readDateTimeWith? (fun cs => some (trimStart cs)) true cs

end QueryEngine.Calendar
