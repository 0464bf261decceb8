import QueryEngine.Unicode.CharSet

namespace QueryEngine.Unicode

structure ByteRange where
  lo : Nat
  hi : Nat
deriving DecidableEq, Inhabited

def utf8 (cs : List Char) : List Nat :=
  (String.ofList cs).toUTF8.toList.map UInt8.toNat

/-- The last code point in front of a place where encodings from `lo` to `hi` get longer, or begin
to differ in a byte while the ones behind it do not go through all their values. -/
def cut? (lo hi : Nat) : Option Nat :=
  match [0x7F, 0x7FF, 0xFFFF].find? fun n => lo ≤ n && n < hi with
  | some n => some n
  | none =>
    if hi ≤ 0x7F then none
    else
      [64, 4096, 262144].findSome? fun block =>
        if lo / block = hi / block then none
        else if lo % block ≠ 0 then some ((lo / block + 1) * block - 1)
        else if hi % block ≠ block - 1 then some (hi / block * block - 1)
        else none

def byteRanges (lo hi : Nat) : List (List ByteRange) :=
  let whole := [List.zipWith ByteRange.mk (utf8 [Char.ofNat lo]) (utf8 [Char.ofNat hi])]
  match cut? lo hi with
  | some n =>
    if lo ≤ n ∧ n < hi then byteRanges lo n ++ byteRanges (n + 1) hi else whole
  | none => whole
termination_by hi - lo

end QueryEngine.Unicode
