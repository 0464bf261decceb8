import Mathlib.Tactic.Tauto
import QueryEngine.Value.Hash

namespace QueryEngine

namespace Binary64

theorem orderKey_inj {x y : Binary64} : x.orderKey = y.orderKey ↔ x = y := by
  refine ⟨fun h => ?_, fun h => h ▸ rfl⟩
  have hx := x.bits.toNat_lt
  have hy := y.bits.toNat_lt
  have hbits : x.bits.toNat = y.bits.toNat := by
    unfold orderKey isNegative magnitude signBit at h
    by_cases hx' : 0x8000000000000000 ≤ x.bits.toNat <;>
      by_cases hy' : 0x8000000000000000 ≤ y.bits.toNat <;>
        simp only [hx', hy', decide_true, decide_false, if_true, if_false, Bool.false_eq_true] at h <;>
        omega
  cases x; cases y
  simpa only [Binary64.mk.injEq, ← UInt64.toNat_inj] using hbits

end Binary64

namespace Number

theorem cmp_eq_iff {x y : Number} : x.cmp y = .eq ↔ x = y := by
  cases x <;> cases y <;>
    simp [cmp, Binary64.totalCompare, Binary64.orderKey_inj, Int64.toInt_inj]

theorem hashWrites_append {x y : Number} {r s : List HashWrite} :
    x.hashWrites ++ r = y.hashWrites ++ s ↔ x = y ∧ r = s := by
  cases x with
  | integer i =>
      cases y <;> simp [hashWrites]
  | float x =>
      cases y with
      | integer j => simp [hashWrites]
      | float y => cases x; cases y; simp [hashWrites]

end Number

theorem Date.cmp_eq_iff {a b : Date} : a.cmp b = .eq ↔ a = b := by
  cases a; cases b
  simp [cmp, and_assoc]

theorem Time.cmp_eq_iff {a b : Time} : a.cmp b = .eq ↔ a = b := by
  cases a; cases b
  simp [cmp, and_assoc]

theorem DateTime.cmp_eq_iff {a b : DateTime} : a.cmp b = .eq ↔ a = b := by
  cases a; cases b
  simp [cmp, Date.cmp_eq_iff, Time.cmp_eq_iff]

namespace Value

mutual

/-- The writes of a value end where they end: what is written after them does not matter. -/
theorem hashWrites_append : (a b : Value) → (r s : List HashWrite) →
    (a.hashWrites ++ r = b.hashWrites ++ s ↔ a.cmp b = .eq ∧ r = s)
  | .null, b, r, s => by
      cases b <;> simp [cmp, cmpMixed, rank, number?, hashWrites]
  | .boolean x, b, r, s => by
      cases b <;> simp [cmp, cmpMixed, rank, number?, hashWrites]
  | .integer i, b, r, s => by
      cases b <;>
        simp [cmp, cmpMixed, rank, number?, hashWrites, Number.cmp_eq_iff, Number.hashWrites_append]
  | .float x, b, r, s => by
      cases b <;>
        simp [cmp, cmpMixed, rank, number?, hashWrites, Number.cmp_eq_iff, Number.hashWrites_append]
  | .string x, b, r, s => by
      cases b <;> simp [cmp, cmpMixed, rank, number?, hashWrites]
  | .date d, b, r, s => by
      cases b <;> simp [cmp, cmpMixed, rank, number?, hashWrites, Date.cmp_eq_iff]
  | .datetime t, b, r, s => by
      cases b with
      | datetime u =>
          cases t; cases u
          simp [cmp, hashWrites, DateTime.cmp_eq_iff, and_assoc]
      | _ => simp [cmp, cmpMixed, rank, number?, hashWrites]
  | .time t, b, r, s => by
      cases b <;> simp [cmp, cmpMixed, rank, number?, hashWrites, Time.cmp_eq_iff]
  | .list vs, b, r, s => by
      cases b with
      | list ws => simpa [cmp, hashWrites] using hashWritesList_append vs ws r s
      | _ => simp [cmp, cmpMixed, rank, number?, hashWrites]
  | .record fs, b, r, s => by
      cases b with
      | record gs => simpa [cmp, hashWrites] using hashWritesFields_append fs gs r s
      | _ => simp [cmp, cmpMixed, rank, number?, hashWrites]

theorem hashWritesList_append : (as bs : List Value) → (r s : List HashWrite) →
    (as.length = bs.length ∧ hashWritesList as ++ r = hashWritesList bs ++ s ↔
      cmpList as bs = .eq ∧ r = s)
  | [], bs, r, s => by
      cases bs <;> simp [cmpList, hashWritesList]
  | a :: as, bs, r, s => by
      cases bs with
      | nil => simp [cmpList, hashWritesList]
      | cons b bs =>
          have head := hashWrites_append a b (hashWritesList as ++ r) (hashWritesList bs ++ s)
          have tail := hashWritesList_append as bs r s
          simp only [List.length_cons, Nat.add_right_cancel_iff, hashWritesList, List.append_assoc,
            head, cmpList, Ordering.then_eq_eq]
          tauto

theorem hashWritesFields_append : (as bs : List (String × Value)) → (r s : List HashWrite) →
    (as.length = bs.length ∧ hashWritesFields as ++ r = hashWritesFields bs ++ s ↔
      cmpFields as bs = .eq ∧ r = s)
  | [], bs, r, s => by
      cases bs <;> simp [cmpFields, hashWritesFields]
  | (m, a) :: as, bs, r, s => by
      cases bs with
      | nil => simp [cmpFields, hashWritesFields]
      | cons p bs =>
          obtain ⟨n, b⟩ := p
          have head := hashWrites_append a b (hashWritesFields as ++ r) (hashWritesFields bs ++ s)
          have tail := hashWritesFields_append as bs r s
          simp only [List.length_cons, Nat.add_right_cancel_iff, hashWritesFields, List.cons_append,
            List.append_assoc, List.cons.injEq, HashWrite.text.injEq, head, cmpFields,
            Ordering.then_eq_eq, Std.compare_eq_iff_eq]
          tauto

end

theorem same_iff {a b : Value} : a.same b = true ↔ a.hashWrites = b.hashWrites := by
  simpa [same] using (hashWrites_append a b [] []).symm

/-- Keys are the same exactly when their hash writes are. -/
theorem sameList_iff {as bs : List Value} :
    sameList as bs = true ↔ keyHashWrites as = keyHashWrites bs := by
  simpa [sameList, keyHashWrites] using (hashWritesList_append as bs [] []).symm

theorem same_comm (a b : Value) : a.same b = b.same a := by
  rw [Bool.eq_iff_iff, same_iff, same_iff, eq_comm]

theorem sameList_comm (as bs : List Value) : sameList as bs = sameList bs as := by
  rw [Bool.eq_iff_iff, sameList_iff, sameList_iff, eq_comm]

theorem sameList_congr_left {as bs : List Value} (h : sameList as bs = true) (cs : List Value) :
    sameList as cs = sameList bs cs := by
  rw [Bool.eq_iff_iff, sameList_iff, sameList_iff, sameList_iff.1 h]

theorem keyHash_congr {as bs : List Value} (h : sameList as bs = true) : keyHash as = keyHash bs := by
  rw [keyHash, keyHash, sameList_iff.1 h]

theorem sameList_cons (a b : Value) (as bs : List Value) :
    sameList (a :: as) (b :: bs) = (a.same b && sameList as bs) := by
  rw [Bool.eq_iff_iff]
  simp [sameList, same, cmpList]

end Value

end QueryEngine
