import QueryEngine.Text

namespace QueryEngine

open Text

def isLeapYear (year : Int) : Bool :=
  year % 4 = 0 && (year % 100 != 0 || year % 400 = 0)

def daysInMonth (year : Int) (month : Nat) : Nat :=
  match month with
  | 2 => if isLeapYear year then 29 else 28
  | 4 | 6 | 9 | 11 => 30
  | _ => 31

def isCalendarDay (year : Int) (month day : Nat) : Bool :=
  -262143 ≤ year && year ≤ 262142 && 1 ≤ month && month ≤ 12 && 1 ≤ day &&
    day ≤ daysInMonth year month

structure Date where
  year : Int
  month : Nat
  day : Nat
  valid : isCalendarDay year month day
deriving DecidableEq, Repr

namespace Date

def of? (year : Int) (month day : Nat) : Option Date :=
  if h : isCalendarDay year month day then some ⟨year, month, day, h⟩ else none

def cmp (a b : Date) : Ordering :=
  ((compare a.year b.year).then (compare a.month b.month)).then (compare a.day b.day)

/-- Years of other than four digits carry a sign. -/
def yearText (year : Int) : String :=
  if 0 ≤ year ∧ year ≤ 9999 then padded 4 year.toNat
  else if year < 0 then "-" ++ padded 4 year.natAbs
  else "+" ++ padded 4 year.natAbs

def display (d : Date) : String :=
  yearText d.year ++ "-" ++ padded 2 d.month ++ "-" ++ padded 2 d.day

end Date

/-- Whether the parts name a time of day. Nanoseconds from `10 ^ 9` on are those of a leap second,
which may follow any second. -/
def isClockTime (hour minute second nanosecond : Nat) : Bool :=
  hour < 24 && minute < 60 && second < 60 && nanosecond < 2000000000

structure Time where
  hour : Nat
  minute : Nat
  second : Nat
  nanosecond : Nat
  valid : isClockTime hour minute second nanosecond
deriving DecidableEq, Repr

namespace Time

/-- A time made from parts, where a leap second only follows second 59. -/
def of? (hour minute second nanosecond : Nat) : Option Time :=
  if h : isClockTime hour minute second nanosecond then
    if nanosecond < 1000000000 ∨ second = 59 then some ⟨hour, minute, second, nanosecond, h⟩
    else none
  else none

def midnight : Time := ⟨0, 0, 0, 0, by decide⟩

def cmp (a b : Time) : Ordering :=
  (((compare a.hour b.hour).then (compare a.minute b.minute)).then
    (compare a.second b.second)).then (compare a.nanosecond b.nanosecond)

/-- A fraction of a second in three, six or nine places, whichever is exact first. -/
def fractionText (nanosecond : Nat) : String :=
  if nanosecond = 0 then ""
  else if nanosecond % 1000000 = 0 then "." ++ padded 3 (nanosecond / 1000000)
  else if nanosecond % 1000 = 0 then "." ++ padded 6 (nanosecond / 1000)
  else "." ++ padded 9 nanosecond

def display (t : Time) : String :=
  let leap := 1000000000 ≤ t.nanosecond
  let second := if leap then t.second + 1 else t.second
  padded 2 t.hour ++ ":" ++ padded 2 t.minute ++ ":" ++ padded 2 second ++
    fractionText (t.nanosecond % 1000000000)

end Time

structure DateTime where
  date : Date
  time : Time
deriving DecidableEq, Repr

namespace DateTime

def cmp (a b : DateTime) : Ordering :=
  (a.date.cmp b.date).then (a.time.cmp b.time)

def display (t : DateTime) : String :=
  t.date.display ++ " " ++ t.time.display

end DateTime

end QueryEngine
