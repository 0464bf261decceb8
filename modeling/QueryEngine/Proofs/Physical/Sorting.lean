import QueryEngine.Physical.Sort
import QueryEngine.Proofs.Except
import QueryEngine.Proofs.Value.Order
import QueryEngine.Rows.Lemmas

namespace QueryEngine

open Std

namespace SortKey

/-- The order of two keys that holds NULL where a key is too short. -/
def comparePadded : List SortKey → List Value → List Value → Ordering
  | [], _, _ => .eq
  | k :: ks, as, bs =>
    (if k.descending then (bs.headD .null).cmp (as.headD .null)
      else (as.headD .null).cmp (bs.headD .null)).then (comparePadded ks as.tail bs.tail)

theorem compareKeys_eq_comparePadded {keys : List SortKey} {as bs : List Value}
    (ha : as.length = keys.length) (hb : bs.length = keys.length) :
    compareKeys keys as bs = comparePadded keys as bs := by
  induction keys generalizing as bs with
  | nil => simp [compareKeys, comparePadded]
  | cons k ks ih =>
      cases as with
      | nil => cases ha
      | cons a as =>
          cases bs with
          | nil => cases hb
          | cons b bs =>
              simp only [List.length_cons, Nat.add_right_cancel_iff] at ha hb
              simp [compareKeys, comparePadded, ih ha hb]

theorem transCmp_comparePadded (keys : List SortKey) : TransCmp (comparePadded keys) := by
  induction keys with
  | nil => exact { eq_swap := rfl, isLE_trans := fun _ _ => rfl }
  | cons k ks ih =>
      let first : Value → Value → Ordering := fun a b => if k.descending then b.cmp a else a.cmp b
      have hfirst : TransCmp first := by
        unfold first
        cases k.descending with
        | false => exact inferInstanceAs (TransCmp fun a b : Value => a.cmp b)
        | true => exact inferInstanceAs (TransCmp fun a b : Value => b.cmp a)
      have hhead : TransCmp fun as bs : List Value => first (as.headD .null) (bs.headD .null) :=
        { eq_swap := hfirst.eq_swap, isLE_trans := hfirst.isLE_trans }
      have htail : TransCmp fun as bs : List Value => comparePadded ks as.tail bs.tail :=
        { eq_swap := ih.eq_swap, isLE_trans := ih.isLE_trans }
      exact inferInstanceAs (TransCmp (compareLex
        (fun as bs : List Value => first (as.headD .null) (bs.headD .null))
        fun as bs => comparePadded ks as.tail bs.tail))

end SortKey

section

variable {α : Type} {le : α → α → Bool}

theorem split_unique {q : α → Bool} {xs ys xs' ys' : List α} (h : xs ++ ys = xs' ++ ys')
    (hx : ∀ b ∈ xs, q b) (hy : ∀ b ∈ ys, ¬ q b) (hx' : ∀ b ∈ xs', q b) (hy' : ∀ b ∈ ys', ¬ q b) :
    xs = xs' ∧ ys = ys' := by
  have htake {us vs : List α} (hu : ∀ b ∈ us, q b) (hv : ∀ b ∈ vs, ¬ q b) :
      (us ++ vs).takeWhile q = us := by
    rw [List.takeWhile_append_of_pos hu]
    cases vs with
    | nil => simp
    | cons b vs => simp [hv b List.mem_cons_self]
  have hxs : xs = xs' := by
    rw [← htake hx hy, h, htake hx' hy']
  exact ⟨hxs, List.append_cancel_left (hxs ▸ h)⟩

theorem filter_mergeSort (trans : ∀ a b c, le a b → le b c → le a c)
    (total : ∀ a b, le a b || le b a) (p : α → Bool) (l : List α) :
    (l.mergeSort le).filter p = (l.filter p).mergeSort le := by
  induction l with
  | nil => simp
  | cons a l ih =>
      obtain ⟨l₁, l₂, hcons, hl, hbefore⟩ := List.mergeSort_cons trans total a l
      have hsorted := List.pairwise_mergeSort trans total (a :: l)
      rw [hcons] at hsorted
      have hafter : ∀ b ∈ l₂, le a b :=
        (List.pairwise_cons.1 (List.pairwise_append.1 hsorted).2.1).1
      rw [hl, List.filter_append] at ih
      cases hp : p a with
      | false =>
          have hskip : ¬ p a = true := by simp [hp]
          rw [hcons, List.filter_append, List.filter_cons_of_neg hskip, ih,
            List.filter_cons_of_neg hskip]
      | true =>
          obtain ⟨m₁, m₂, hcons', hl', hbefore'⟩ :=
            List.mergeSort_cons trans total a (l.filter p)
          have hsorted' := List.pairwise_mergeSort trans total (a :: l.filter p)
          rw [hcons'] at hsorted'
          have hafter' : ∀ b ∈ m₂, le a b :=
            (List.pairwise_cons.1 (List.pairwise_append.1 hsorted').2.1).1
          obtain ⟨h₁, h₂⟩ := @split_unique _ (fun b => !le a b) _ _ _ _ (ih.trans hl')
            (fun b hb => hbefore b (List.mem_filter.1 hb).1)
            (fun b hb => by simp [hafter b (List.mem_filter.1 hb).1]) hbefore'
            (fun b hb => by simp [hafter' b hb])
          rw [hcons, List.filter_append, List.filter_cons_of_pos hp, List.filter_cons_of_pos hp,
            hcons', h₁, h₂]

end

namespace Rows

variable (ctx : Context) (keys : List SortKey)

def keyed (row : Row) : Except Error (List Value × Row) := do
  return (← Scalar.evalList ctx row (keys.map (·.expr)), row)

/-- A sort hands out all rows in order, or nothing but the first error. -/
theorem toList_sortOnto (readRev : List (List Value × Row)) (rows : Rows) :
    (rows.sortOnto ctx keys readRev).toList =
      match rows.toList.mapM fun x => x >>= keyed ctx keys with
      | .ok read => ((sortKeyed keys (readRev.reverse ++ read)).map (·.2)).map .ok
      | .error e => [.error e] := by
  induction rows generalizing readRev with
  | done => simp [sortOnto]
  | item x tail ih =>
      cases x with
      | error e => simp [sortOnto]
      | ok row =>
          cases hk : Scalar.evalList ctx row (keys.map (·.expr)) with
          | error e => simp [sortOnto, hk, keyed]
          | ok key =>
              cases hrest : (tail ()).toList.mapM (fun x => x >>= keyed ctx keys) <;>
                simp [sortOnto, hk, keyed, ih, hrest]
  | step n tail ih => simp [sortOnto, ih]

theorem length_evalList {ctx : Context} {row : Row} {es : List Scalar} {vs : List Value}
    (h : Scalar.evalList ctx row es = .ok vs) : vs.length = es.length := by
  induction es generalizing vs with
  | nil =>
      cases h
      rfl
  | cons e es ih =>
      obtain ⟨v, -, h⟩ := bind_eq_ok.1 h
      obtain ⟨vs, hvs, h⟩ := bind_eq_ok.1 h
      cases h
      simp [ih hvs]

variable {ctx keys}

theorem keyed_eq_ok {row : Row} {entry : List Value × Row} (h : keyed ctx keys row = .ok entry) :
    entry.1.length = keys.length ∧ entry.2 = row := by
  obtain ⟨key, hkey, h⟩ := bind_eq_ok.1 h
  cases h
  simpa using length_evalList hkey

theorem sortKeyed_eq {read : List (List Value × Row)}
    (h : ∀ entry ∈ read, entry.1.length = keys.length) :
    sortKeyed keys read =
      read.mergeSort fun a b => SortKey.comparePadded keys a.1 b.1 != .gt := by
  have hle := List.map_mergeSort (r := fun a b : List Value × Row =>
      SortKey.compareKeys keys a.1 b.1 != .gt)
    (s := fun a b => SortKey.comparePadded keys a.1 b.1 != .gt) (f := id) (l := read)
    fun a ha b hb => by
      rw [SortKey.compareKeys_eq_comparePadded (h a ha) (h b hb)]
      rfl
  simpa [sortKeyed] using hle

theorem filter_sortKeyed {read : List (List Value × Row)}
    (h : ∀ entry ∈ read, entry.1.length = keys.length) (p : List Value × Row → Bool) :
    (sortKeyed keys read).filter p = sortKeyed keys (read.filter p) := by
  have htrans := SortKey.transCmp_comparePadded keys
  have hle (o : Ordering) : (o != .gt) = o.isLE := by
    cases o <;> rfl
  rw [sortKeyed_eq h, sortKeyed_eq fun entry hentry => h entry (List.mem_filter.1 hentry).1]
  refine filter_mergeSort (fun a b c hab hbc => ?_) (fun a b => ?_) p read
  · rw [hle] at hab hbc ⊢
    exact htrans.isLE_trans hab hbc
  · rw [hle, hle, htrans.eq_swap]
    cases SortKey.comparePadded keys b.1 a.1 <;> rfl

variable (ctx keys)

def sortRows (rows : List Row) : Except Error (List Row) := do
  return (sortKeyed keys (← rows.mapM (keyed ctx keys))).map (·.2)

variable {ctx keys}

theorem toList_sortOnto_of_rows {rows : Rows} {rs : List Row} (h : rows.toList = rs.map .ok) :
    (rows.sortOnto ctx keys []).toList =
      match sortRows ctx keys rs with
      | .ok sorted => sorted.map .ok
      | .error e => [.error e] := by
  rw [toList_sortOnto, h, List.mapM_map, sortRows]
  have hread : rs.mapM ((fun x => x >>= keyed ctx keys) ∘ Except.ok) = rs.mapM (keyed ctx keys) := rfl
  rw [hread]
  cases rs.mapM (keyed ctx keys) <;> simp

theorem sortRows_eq {keyOf : Row → List Value} {rs : List Row}
    (h : ∀ r ∈ rs, Scalar.evalList ctx r (keys.map (·.expr)) = .ok (keyOf r)) :
    sortRows ctx keys rs =
      .ok (rs.mergeSort fun r r' => (SortKey.comparePadded keys (keyOf r) (keyOf r')).isLE) := by
  have hread : rs.mapM (keyed ctx keys) = .ok (rs.map fun r => (keyOf r, r)) := by
    rw [mapM_eq_ok, List.forall₂_map_right_iff, List.forall₂_same]
    intro r hr
    simp [keyed, h r hr]
  have hlength : ∀ entry ∈ rs.map fun r => (keyOf r, r), entry.1.length = keys.length := by
    intro entry hentry
    obtain ⟨r, hr, rfl⟩ := List.mem_map.1 hentry
    simpa using length_evalList (h r hr)
  have hsort := List.map_mergeSort (l := rs) (f := fun r => (keyOf r, r))
    (r := fun r r' => (SortKey.comparePadded keys (keyOf r) (keyOf r')).isLE)
    (s := fun a b => SortKey.comparePadded keys a.1 b.1 != .gt) fun a _ b _ => by
      cases SortKey.comparePadded keys (keyOf a) (keyOf b) <;> rfl
  rw [sortRows, hread, ok_bind, sortKeyed_eq hlength, ← hsort, List.map_map]
  simp [Function.comp_def]

theorem sortRows_filter {rs sorted : List Row} (h : sortRows ctx keys rs = .ok sorted)
    (p : Row → Bool) : sortRows ctx keys (rs.filter p) = .ok (sorted.filter p) := by
  obtain ⟨read, hread, h⟩ := bind_eq_ok.1 h
  cases h
  have hkept := mapM_filter (g := Prod.snd) (fun _ _ h => (keyed_eq_ok h).2) p hread
  have hlength : ∀ entry ∈ read, entry.1.length = keys.length := by
    intro entry hentry
    obtain ⟨row, -, hrow⟩ := exists_of_mem_mapM hread hentry
    exact (keyed_eq_ok hrow).1
  rw [sortRows, hkept, ok_bind, ← filter_sortKeyed hlength, List.filter_map]
  rfl

end Rows

end QueryEngine
