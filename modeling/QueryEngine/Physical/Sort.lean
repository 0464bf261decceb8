import QueryEngine.Physical.Scalar
import QueryEngine.Rows.Basic

namespace QueryEngine

structure SortKey where
  expr : Scalar
  descending : Bool

namespace SortKey

def compareKeys : List SortKey → List Value → List Value → Ordering
  | k :: ks, a :: as, b :: bs =>
    (if k.descending then b.cmp a else a.cmp b).then (compareKeys ks as bs)
  | _, _, _ => .eq

end SortKey

namespace Rows

def sortKeyed (keys : List SortKey) (keyed : List (List Value × Row)) : List (List Value × Row) :=
  keyed.mergeSort fun a b => SortKey.compareKeys keys a.1 b.1 != .gt

/-- Read rows onto those read before, last first, and hand out all of them sorted in the end. -/
def sortOnto (ctx : Context) (keys : List SortKey) : List (List Value × Row) → Rows → Rows
  | readRev, done => ofRows ((sortKeyed keys readRev.reverse).map (·.2))
  | _, item (.error e) _ => fail e
  | readRev, item (.ok row) tail =>
    match Scalar.evalList ctx row (keys.map (·.expr)) with
    | .ok key => step 0 fun _ => (tail ()).sortOnto ctx keys ((key, row) :: readRev)
    | .error e => fail e
  | readRev, step n tail => step n fun _ => (tail ()).sortOnto ctx keys readRev

end Rows

end QueryEngine
