import QueryEngine.Binary64
import QueryEngine.Text

namespace QueryEngine.Binary64

open Text

/-- A positive number `value / scale` inside the interval of reals that round to it, which
reaches `below / scale` down and `above / scale` up and holds its ends when `closed`. -/
structure RoundingInterval where
  value : Nat
  below : Nat
  above : Nat
  scale : Nat
  closed : Bool

namespace RoundingInterval

/-- The interval of a finite non-zero number. A power of two has a narrower gap below. -/
def of (x : Binary64) : RoundingInterval :=
  let m := x.significand
  let narrow := m = hiddenBit
  let (up, down) := if 0 ≤ x.exponent then (1 <<< x.exponent.toNat, 1)
    else (1, 1 <<< (-x.exponent).toNat)
  if narrow then ⟨4 * m * up, up, 2 * up, 4 * down, m % 2 = 0⟩
  else ⟨2 * m * up, up, up, 2 * down, m % 2 = 0⟩

def shrink (r : RoundingInterval) (k : Int) : RoundingInterval :=
  if 0 ≤ k then { r with scale := r.scale * Nat.pow 10 k.toNat }
  else
    let f := Nat.pow 10 (-k).toNat
    { r with value := r.value * f, below := r.below * f, above := r.above * f }

def reachesOne (r : RoundingInterval) : Bool :=
  if r.closed then r.scale ≤ r.value + r.above else r.scale < r.value + r.above

def reachesZero (r : RoundingInterval) : Bool :=
  if r.closed then r.value ≤ r.below else r.value < r.below

def dropDigit (r : RoundingInterval) : Nat × RoundingInterval :=
  let v := 10 * r.value
  (v / r.scale,
    { r with value := v % r.scale, below := 10 * r.below, above := 10 * r.above })

/-- Digits of a number below `1`, last first, until the rest of it lies in the interval. -/
def digitsRev (r : RoundingInterval) : Nat → List Nat → List Nat × Bool
  | 0, acc => (acc, false)
  | fuel + 1, acc =>
    let (d, rest) := r.dropDigit
    if rest.reachesZero || rest.reachesOne then
      (d :: acc, rest.reachesOne && (!rest.reachesZero || rest.scale ≤ 2 * rest.value))
    else rest.digitsRev fuel (d :: acc)

end RoundingInterval

/-- Add one in the last place, the digits given last first. The flag tells of a carry out. -/
def incrementRev : List Nat → List Nat × Bool
  | [] => ([], true)
  | d :: ds =>
    if d = 9 then
      let (ds', carry) := incrementRev ds
      (0 :: ds', carry)
    else ((d + 1) :: ds, false)

/-- A positive decimal `0.d₁d₂… * 10 ^ point`. -/
structure Digits where
  digits : List Nat
  point : Int

def scalePoint (r : RoundingInterval) : Nat → Int → Int
  | 0, k => k
  | fuel + 1, k => if (r.shrink k).reachesOne then scalePoint r fuel (k + 1) else k

/-- A decimal exponent at most two below the one of a finite non-zero number. -/
def pointEstimate (x : Binary64) : Int :=
  (((x.significand.log2 : Int) + x.exponent) * 1233) / 4096 - 1

/-- The shortest decimal in the interval of a finite non-zero number, nearest to it. -/
def shortest (x : Binary64) : Digits :=
  let r := RoundingInterval.of x
  let k := scalePoint r 8 x.pointEstimate
  let (rev, up) := (r.shrink k).digitsRev 20 []
  if up then
    let (rev', carry) := incrementRev rev
    if carry then ⟨[1], k + 1⟩ else ⟨(rev'.dropWhile (· = 0)).reverse, k⟩
  else ⟨rev.reverse, k⟩

def digitText (ds : List Nat) : String :=
  String.ofList (ds.map Nat.digitChar)

def zeros (n : Nat) : String :=
  String.ofList (List.replicate n '0')

def Digits.positional (d : Digits) (whole : String) : String :=
  let n := d.digits.length
  if d.point ≤ 0 then "0." ++ zeros (-d.point).toNat ++ digitText d.digits
  else if (n : Int) ≤ d.point then
    digitText d.digits ++ zeros (d.point.toNat - n) ++ whole
  else
    digitText (d.digits.take d.point.toNat) ++ "." ++ digitText (d.digits.drop d.point.toNat)

def Digits.scientific (d : Digits) : String :=
  let mantissa :=
    match d.digits with
    | [] => "0"
    | [a] => digitText [a]
    | a :: rest => digitText [a] ++ "." ++ digitText rest
  mantissa ++ "e" ++ toString (d.point - 1)

def withSign (x : Binary64) (text : String) : String :=
  if x.isNegative then "-" ++ text else text

/-- The plain text of a number: shortest digits, never an exponent, `0`, `inf` and `NaN`. -/
def display (x : Binary64) : String :=
  if x.isNaN then "NaN"
  else if x.isInfinite then x.withSign "inf"
  else if x.isZero then x.withSign "0"
  else x.withSign (x.shortest.positional "")

/-- The diagnostic text of a number: integers keep a `.0`, and numbers from `10 ^ 16` on or
below `10 ^ -4` have an exponent. -/
def inspect (x : Binary64) : String :=
  if x.isNaN then "NaN"
  else if x.isInfinite then x.withSign "inf"
  else if x.isZero then x.withSign "0.0"
  else
    let d := x.shortest
    if -3 ≤ d.point ∧ d.point ≤ 16 then x.withSign (d.positional ".0")
    else x.withSign d.scientific

def splitSign : List Char → Bool × List Char
  | '-' :: cs => (true, cs)
  | '+' :: cs => (false, cs)
  | cs => (false, cs)

def readExponent? (cs : List Char) : Option Int :=
  let (negative, ds) := splitSign cs
  if ds.isEmpty || !ds.all isDigit then none
  else some (if negative then -(digitsValue ds) else digitsValue ds)

/-- The number nearest to `mantissa * 10 ^ exponent`. Exponents far outside the range of finite
numbers are cut short, which changes no result. -/
def ofDecimal (negative : Bool) (mantissa : Nat) (exponent : Int) : Binary64 :=
  if mantissa = 0 then ofParts negative 0
  else
    let point := exponent + (toString mantissa).length
    if 400 < point then infinity negative
    else if point < -400 then ofParts negative 0
    else if 0 ≤ exponent then ofRatio negative (mantissa * Nat.pow 10 exponent.toNat) 1
    else ofRatio negative mantissa (Nat.pow 10 (-exponent).toNat)

def readUnsigned? (negative : Bool) (cs : List Char) : Option Binary64 :=
  let (whole, rest) := cs.span isDigit
  let (fraction, rest) := match rest with
    | '.' :: cs => cs.span isDigit
    | cs => ([], cs)
  if whole.isEmpty && fraction.isEmpty then none
  else
    let mantissa := digitsValue (whole ++ fraction)
    let finish (e : Int) := ofDecimal negative mantissa (e - fraction.length)
    match rest with
    | [] => some (finish 0)
    | e :: cs => if e = 'e' ∨ e = 'E' then (readExponent? cs).map finish else none

def read? (cs : List Char) : Option Binary64 :=
  let (negative, body) := splitSign cs
  match String.ofList (body.map Char.toLower) with
  | "inf" | "infinity" => some (infinity negative)
  | "nan" => some (nan negative)
  | _ => readUnsigned? negative body

end QueryEngine.Binary64
