namespace QueryEngine

structure Binary64 where
  bits : UInt64
deriving DecidableEq, Repr, Inhabited, Hashable

namespace Binary64

def signBit : Nat := 0x8000000000000000

def hiddenBit : Nat := 0x10000000000000

def infinityBits : Nat := 0x7FF0000000000000

def isNegative (x : Binary64) : Bool :=
  signBit ≤ x.bits.toNat

def magnitude (x : Binary64) : Nat :=
  x.bits.toNat % signBit

def ofParts (negative : Bool) (magnitude : Nat) : Binary64 :=
  ⟨UInt64.ofNat (if negative then signBit + magnitude else magnitude)⟩

def zero : Binary64 := ⟨0⟩

def infinity (negative : Bool) : Binary64 :=
  ofParts negative infinityBits

def nan (negative : Bool) : Binary64 :=
  ofParts negative 0x7FF8000000000000

def isNaN (x : Binary64) : Bool :=
  infinityBits < x.magnitude

def isInfinite (x : Binary64) : Bool :=
  x.magnitude == infinityBits

def isFinite (x : Binary64) : Bool :=
  x.magnitude < infinityBits

def isZero (x : Binary64) : Bool :=
  x.magnitude == 0

/-- Negative numbers count down from `-1`, so that the order of keys is the IEEE total order. -/
def orderKey (x : Binary64) : Int :=
  if x.isNegative then -(x.magnitude : Int) - 1 else x.magnitude

def totalCompare (x y : Binary64) : Ordering :=
  compare x.orderKey y.orderKey

/-- The significand `m` of a finite magnitude `m * 2 ^ exponent`. -/
def significand (x : Binary64) : Nat :=
  if x.magnitude / hiddenBit = 0 then x.magnitude % hiddenBit
  else x.magnitude % hiddenBit + hiddenBit

def exponent (x : Binary64) : Int :=
  (max (x.magnitude / hiddenBit) 1 : Nat) - 1075

def ratio (x : Binary64) : Nat × Nat :=
  if 0 ≤ x.exponent then (x.significand <<< x.exponent.toNat, 1)
  else (x.significand, 1 <<< (-x.exponent).toNat)

/-- The quotient rounded to the nearest natural, ties to even. -/
def roundQuotient (num den : Nat) : Nat :=
  let q := num / den
  let r := num % den
  if den < 2 * r ∨ (2 * r = den ∧ q % 2 = 1) then q + 1 else q

def scaled (num den : Nat) (e : Int) : Nat × Nat :=
  if 0 ≤ e then (num, den <<< e.toNat) else (num <<< (-e).toNat, den)

def roundingExponent (num den : Nat) : Int :=
  let guess : Int := (num.log2 : Int) - den.log2 - 52
  let (n, d) := scaled num den guess
  let e := if n / d < hiddenBit then guess - 1 else guess
  max e (-1074)

/-- The magnitude bits of the number nearest to `num / den`, infinity when it is out of range. -/
def roundRatio (num den : Nat) : Nat :=
  if num = 0 then 0
  else
    let e := roundingExponent num den
    let (n, d) := scaled num den e
    min ((e + 1074).toNat * hiddenBit + roundQuotient n d) infinityBits

def ofRatio (negative : Bool) (num den : Nat) : Binary64 :=
  ofParts negative (roundRatio num den)

def ofInt (i : Int) : Binary64 :=
  ofRatio (i < 0) i.natAbs 1

/-- The integer part, rounded toward zero; `none` unless finite. -/
def truncate? (x : Binary64) : Option Int :=
  if x.isFinite then
    let (n, d) := x.ratio
    some (if x.isNegative then -(n / d : Nat) else (n / d : Nat))
  else none

def toInt? (x : Binary64) : Option Int :=
  let (n, d) := x.ratio
  if n % d = 0 then x.truncate? else none

def neg (x : Binary64) : Binary64 :=
  ofParts (!x.isNegative) x.magnitude

def quieted (x : Binary64) : Binary64 :=
  ofParts x.isNegative (x.magnitude ||| 0x8000000000000)

/-- Operations on a NaN give the first NaN operand; on other operands, `op`. -/
def onNumbers (op : Binary64 → Binary64 → Binary64) (x y : Binary64) : Binary64 :=
  if x.isNaN then x.quieted else if y.isNaN then y.quieted else op x y

def signed (x : Binary64) (n : Nat) : Int :=
  if x.isNegative then -n else n

/-- The sum of two finite numbers; an exact zero is negative only when both operands are. -/
def addFinite (x y : Binary64) : Binary64 :=
  let (n, d) := x.ratio
  let (n', d') := y.ratio
  let sum := x.signed n * d' + y.signed n' * d
  if sum = 0 then ofParts (x.isNegative && y.isNegative) 0
  else ofRatio (sum < 0) sum.natAbs (d * d')

def add : Binary64 → Binary64 → Binary64 :=
  onNumbers fun x y =>
    if x.isInfinite then
      if y.isInfinite && x.isNegative != y.isNegative then nan true else x
    else if y.isInfinite then y
    else addFinite x y

def sub (x y : Binary64) : Binary64 :=
  if y.isNaN then add x y else add x y.neg

def mul : Binary64 → Binary64 → Binary64 :=
  onNumbers fun x y =>
    let negative := x.isNegative != y.isNegative
    if x.isInfinite || y.isInfinite then
      if x.isZero || y.isZero then nan true else infinity negative
    else ofRatio negative (x.ratio.1 * y.ratio.1) (x.ratio.2 * y.ratio.2)

def div : Binary64 → Binary64 → Binary64 :=
  onNumbers fun x y =>
    let negative := x.isNegative != y.isNegative
    if x.isInfinite then
      if y.isInfinite then nan true else infinity negative
    else if y.isInfinite then ofParts negative 0
    else if y.isZero then
      if x.isZero then nan true else infinity negative
    else ofRatio negative (x.ratio.1 * y.ratio.2) (x.ratio.2 * y.ratio.1)

instance : Add Binary64 := ⟨add⟩
instance : Sub Binary64 := ⟨sub⟩
instance : Mul Binary64 := ⟨mul⟩
instance : Div Binary64 := ⟨div⟩
instance : Neg Binary64 := ⟨neg⟩

end Binary64

end QueryEngine
