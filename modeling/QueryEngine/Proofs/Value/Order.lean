import QueryEngine.Proofs.Binary64.Rounding
import QueryEngine.Value.Order

namespace QueryEngine

open Std

theorem compare_natCast (m n : Nat) : compare (m : Int) n = compare m n := by
  rcases Nat.lt_trichotomy m n with h | rfl | h
  · rw [Nat.compare_eq_lt.2 h, Int.compare_eq_lt.2 (Int.ofNat_lt.2 h)]
  · simp
  · rw [Nat.compare_eq_gt.2 h, Int.compare_eq_gt.2 (Int.ofNat_lt.2 h)]

/-- An item of a list that stands for a value, a number or a text. -/
abbrev OrderItem := Int × String

namespace OrderItem

def number (n : Int) : OrderItem := (n, "")

def text (s : String) : OrderItem := (0, s)

def cmp : OrderItem → OrderItem → Ordering :=
  compareLex (compareOn Prod.fst) (compareOn Prod.snd)

@[simp] theorem cmp_number (m n : Int) : cmp (number m) (number n) = compare m n := by
  simp [cmp, compareLex, compareOn, number]

@[simp] theorem cmp_text (s t : String) : cmp (text s) (text t) = compare s t := by
  simp [cmp, compareLex, compareOn, text]

def cmpList : List OrderItem → List OrderItem → Ordering :=
  List.compareLex cmp

@[simp] theorem cmpList_cons (a b : OrderItem) (r s : List OrderItem) :
    cmpList (a :: r) (b :: s) = (cmp a b).then (cmpList r s) :=
  List.compareLex_cons_cons

@[simp] theorem cmpList_nil : cmpList [] [] = .eq := rfl

instance : TransCmp cmp :=
  inferInstanceAs (TransCmp (compareLex (compareOn Prod.fst) (compareOn Prod.snd)))

instance : TransCmp cmpList :=
  inferInstanceAs (TransCmp (List.compareLex cmp))

end OrderItem

open OrderItem

namespace Number

/-- An integer stands right before the floats that it is rounded to. -/
def orderItems : Number → List OrderItem
  | integer a => [number (Binary64.ofInt a.toInt).orderKey, number 0, number a.toInt]
  | float x => [number x.orderKey, number 1, number 0]

theorem compare_then_of_mono {f : Int → Int} (hf : ∀ i j, i ≤ j → f i ≤ f j) (a b : Int) :
    (compare (f a) (f b)).then (compare a b) = compare a b := by
  rcases Int.lt_trichotomy a b with h | rfl | h
  · have hle := hf a b (Int.le_of_lt h)
    rw [Int.compare_eq_lt.2 h]
    cases hc : compare (f a) (f b) <;> simp_all [Int.compare_eq_gt]
    omega
  · simp
  · have hle := hf b a (Int.le_of_lt h)
    rw [Int.compare_eq_gt.2 h]
    cases hc : compare (f a) (f b) <;> simp_all [Int.compare_eq_lt]
    omega

theorem cmpList_append (x y : Number) (r s : List OrderItem) :
    OrderItem.cmpList (x.orderItems ++ r) (y.orderItems ++ s) =
      (x.cmp y).then (OrderItem.cmpList r s) := by
  have h01 : compare (0 : Int) 1 = .lt := rfl
  have h10 : compare (1 : Int) 0 = .gt := rfl
  cases x with
  | integer a =>
      cases y with
      | integer b =>
          have hmono := compare_then_of_mono (fun i j => @Binary64.orderKey_ofInt_mono i j)
            a.toInt b.toInt
          simp [orderItems, cmp, ← Ordering.then_assoc, hmono]
      | float y => simp [orderItems, cmp, Binary64.totalCompare, Ordering.then_assoc, h01]
  | float x =>
      cases y with
      | integer b => simp [orderItems, cmp, Binary64.totalCompare, Ordering.then_assoc, h10]
      | float y => simp [orderItems, cmp, Binary64.totalCompare]

end Number

namespace Date

def orderItems (d : Date) : List OrderItem :=
  [number d.year, number d.month, number d.day]

theorem cmpList_append (a b : Date) (r s : List OrderItem) :
    OrderItem.cmpList (a.orderItems ++ r) (b.orderItems ++ s) =
      (a.cmp b).then (OrderItem.cmpList r s) := by
  simp [orderItems, cmp, Ordering.then_assoc, compare_natCast]

end Date

namespace Time

def orderItems (t : Time) : List OrderItem :=
  [number t.hour, number t.minute, number t.second, number t.nanosecond]

theorem cmpList_append (a b : Time) (r s : List OrderItem) :
    OrderItem.cmpList (a.orderItems ++ r) (b.orderItems ++ s) =
      (a.cmp b).then (OrderItem.cmpList r s) := by
  simp [orderItems, cmp, Ordering.then_assoc, compare_natCast]

end Time

namespace Value

mutual

/-- The list that stands for a value: its rank and then its contents. -/
def orderItems : Value → List OrderItem
  | null => [number 0]
  | boolean b => [number 1, number b.toNat]
  | integer i => number 2 :: (Number.integer i).orderItems
  | float x => number 2 :: (Number.ofFloat x).orderItems
  | string s => [number 3, text s]
  | date d => number 4 :: d.orderItems
  | datetime t => number 5 :: t.date.orderItems ++ t.time.orderItems
  | time t => number 6 :: t.orderItems
  | list vs => number 7 :: orderItemsList vs
  | record fields => number 8 :: orderItemsFields fields

def orderItemsList : List Value → List OrderItem
  | [] => [number 0]
  | v :: vs => number 1 :: v.orderItems ++ orderItemsList vs

def orderItemsFields : List (String × Value) → List OrderItem
  | [] => [number 0]
  | (name, v) :: fields => number 1 :: text name :: v.orderItems ++ orderItemsFields fields

end

theorem orderItems_eq_cons (a : Value) : ∃ items, a.orderItems = number a.rank :: items := by
  cases a <;> exact ⟨_, rfl⟩

theorem cmp_of_rank_ne {a b : Value} (h : a.rank ≠ b.rank) : a.cmp b = compare a.rank b.rank := by
  cases a <;> cases b <;> first | rfl | exact absurd rfl h

theorem cmpList_append_of_rank_ne {a b : Value} (h : a.rank ≠ b.rank) (r s : List OrderItem) :
    OrderItem.cmpList (a.orderItems ++ r) (b.orderItems ++ s) =
      (a.cmp b).then (OrderItem.cmpList r s) := by
  obtain ⟨as, ha⟩ := orderItems_eq_cons a
  obtain ⟨bs, hb⟩ := orderItems_eq_cons b
  rw [ha, hb, cmp_of_rank_ne h, List.cons_append, List.cons_append, cmpList_cons, cmp_number,
    compare_natCast]
  cases hc : compare a.rank b.rank with
  | eq => exact absurd (Nat.compare_eq_eq.1 hc) h
  | lt | gt => rfl

mutual

/-- The items of a value decide its comparison, whatever follows them. -/
theorem cmpList_append : (a b : Value) → (r s : List OrderItem) →
    OrderItem.cmpList (a.orderItems ++ r) (b.orderItems ++ s) =
      (a.cmp b).then (OrderItem.cmpList r s)
  | .null, b, r, s => by
      cases b with
      | null => simp [orderItems, cmp]
      | _ => exact cmpList_append_of_rank_ne (by simp [rank]) r s
  | .boolean x, b, r, s => by
      cases b with
      | boolean y => cases x <;> cases y <;> rfl
      | _ => exact cmpList_append_of_rank_ne (by simp [rank]) r s
  | .integer i, b, r, s => by
      cases b with
      | integer | float => simp [orderItems, cmp, cmpMixed, number?, Number.cmpList_append]
      | _ => exact cmpList_append_of_rank_ne (by simp [rank]) r s
  | .float x, b, r, s => by
      cases b with
      | integer | float => simp [orderItems, cmp, cmpMixed, number?, Number.cmpList_append]
      | _ => exact cmpList_append_of_rank_ne (by simp [rank]) r s
  | .string x, b, r, s => by
      cases b with
      | string y => simp [orderItems, cmp]
      | _ => exact cmpList_append_of_rank_ne (by simp [rank]) r s
  | .date d, b, r, s => by
      cases b with
      | date d' => simp [orderItems, cmp, Date.cmpList_append]
      | _ => exact cmpList_append_of_rank_ne (by simp [rank]) r s
  | .datetime t, b, r, s => by
      cases b with
      | datetime t' =>
          simp [orderItems, cmp, DateTime.cmp, Date.cmpList_append, Time.cmpList_append,
            Ordering.then_assoc]
      | _ => exact cmpList_append_of_rank_ne (by simp [rank]) r s
  | .time t, b, r, s => by
      cases b with
      | time t' => simp [orderItems, cmp, Time.cmpList_append]
      | _ => exact cmpList_append_of_rank_ne (by simp [rank]) r s
  | .list vs, b, r, s => by
      cases b with
      | list ws => simpa [orderItems, cmp] using cmpList_append_list vs ws r s
      | _ => exact cmpList_append_of_rank_ne (by simp [rank]) r s
  | .record fs, b, r, s => by
      cases b with
      | record gs => simpa [orderItems, cmp] using cmpList_append_fields fs gs r s
      | _ => exact cmpList_append_of_rank_ne (by simp [rank]) r s

theorem cmpList_append_list : (as bs : List Value) → (r s : List OrderItem) →
    OrderItem.cmpList (orderItemsList as ++ r) (orderItemsList bs ++ s) =
      (cmpList as bs).then (OrderItem.cmpList r s)
  | [], bs, r, s => by
      cases bs with
      | nil => simp [orderItemsList, cmpList]
      | cons b bs => rfl
  | a :: as, bs, r, s => by
      cases bs with
      | nil => rfl
      | cons b bs =>
          simp [orderItemsList, cmpList, cmpList_append a b, cmpList_append_list as bs,
            Ordering.then_assoc]

theorem cmpList_append_fields : (as bs : List (String × Value)) → (r s : List OrderItem) →
    OrderItem.cmpList (orderItemsFields as ++ r) (orderItemsFields bs ++ s) =
      (cmpFields as bs).then (OrderItem.cmpList r s)
  | [], bs, r, s => by
      cases bs with
      | nil => simp [orderItemsFields, cmpFields]
      | cons b bs => rfl
  | (m, a) :: as, bs, r, s => by
      cases bs with
      | nil => rfl
      | cons p bs =>
          obtain ⟨n, b⟩ := p
          simp [orderItemsFields, cmpFields, cmpList_append a b, cmpList_append_fields as bs,
            Ordering.then_assoc]

end

theorem cmp_eq_cmpList (a b : Value) :
    a.cmp b = OrderItem.cmpList a.orderItems b.orderItems := by
  simpa using (cmpList_append a b [] []).symm

instance : TransCmp cmp where
  eq_swap {a b} := by
    rw [cmp_eq_cmpList a b, cmp_eq_cmpList b a]
    exact OrientedCmp.eq_swap
  isLE_trans {a b c} := by
    rw [cmp_eq_cmpList a b, cmp_eq_cmpList b c, cmp_eq_cmpList a c]
    exact TransCmp.isLE_trans

theorem cmp_congr {a b : Value} (h : a.cmp b = .eq) (c : Value) :
    a.cmp c = b.cmp c ∧ c.cmp a = c.cmp b :=
  ⟨TransCmp.congr_left h, TransCmp.congr_right h⟩

/-- Values of all kinds are in one total order, which `same` goes by: two values compare in opposite
ways from their two sides, the order is transitive, and a value may be replaced by an equal one on
either side of a comparison. -/
theorem cmp_total_order (a b c : Value) :
    b.cmp a = (a.cmp b).swap ∧
      ((a.cmp b).isLE → (b.cmp c).isLE → (a.cmp c).isLE) ∧
      (a.cmp b = .lt → b.cmp c = .lt → a.cmp c = .lt) ∧
      (a.same b = true ↔ a.cmp b = .eq) ∧
      (a.same b = true → a.cmp c = b.cmp c ∧ c.cmp a = c.cmp b) := by
  have hsame : a.same b = true ↔ a.cmp b = .eq := by simp [same]
  exact ⟨OrientedCmp.eq_swap, TransCmp.isLE_trans, TransCmp.lt_trans, hsame,
    fun h => cmp_congr (hsame.1 h) c⟩

/-- Where conversion rounds: both integers are rounded to `2 ^ 63`, which comes after them. A zero
may be replaced by the negative zero, also within a list. -/
theorem cmp_total_order_rounded :
    let a := integer 9223372036854775806
    let b := integer 9223372036854775807
    let c := float ⟨0x43E0000000000000⟩
    let zeros := list [integer 0, null]
    let zeros' := list [float ⟨0x8000000000000000⟩, null]
    a.cmp b = .lt ∧ b.cmp c = .lt ∧ a.cmp c = .lt ∧ c.cmp a = .gt ∧ zeros.same zeros' = true ∧
      zeros.cmp (list [integer 0]) = zeros'.cmp (list [integer 0]) := by
  intro a b c zeros zeros'
  have hab : a.cmp b = .lt := by decide
  have hbc : b.cmp c = .lt := by decide
  have hzeros : zeros.same zeros' = true := by decide
  have hac := (cmp_total_order a b c).2.2.1 hab hbc
  refine ⟨hab, hbc, hac, ?_, hzeros, ?_⟩
  · rw [(cmp_total_order a c c).1, hac]
    rfl
  · exact ((cmp_total_order zeros zeros' (list [integer 0])).2.2.2.2 hzeros).1

end Value

end QueryEngine
