import Mathlib.Data.List.Perm.Basic
import Mathlib.Data.List.ProdSigma
import QueryEngine.Physical.Basic
import QueryEngine.Proofs.Join.Pairing

namespace QueryEngine

open List

namespace Rows

/-- The items of a nested block join of two inputs, pulled to the end. -/
def nestedItems (test : Row → Except Error Bool) (left right : Rows) (arity : Nat)
    (type : JoinType) (budget : Nat) : List (Except Error Row) :=
  (nestedJoin ⟨type, fun _ => .ok left, arity, budget⟩ test right).drain.1

variable (m : Row → Row → Bool)

def markBlocks (ls : List Row) (t : MatchTracker) (bs : List (List Row)) : MatchTracker :=
  bs.foldl (fun t b => markRows m b 0 t ls) t

theorem isMatch_markBlocks (ls : List Row) (k : Nat) (t : MatchTracker) (bs : List (List Row)) :
    (markBlocks m ls t bs).isMatch k =
      (ls[k]?.any (fun l => bs.flatten.any (m l)) || t.isMatch k) := by
  induction bs generalizing t with
  | nil => cases ls[k]? <;> simp [markBlocks]
  | cons b bs ih =>
      have h := ih (markRows m b 0 t ls)
      rw [markBlocks] at h ⊢
      rw [foldl_cons, h, isMatch_markRows]
      cases ls[k]? <;> simp [any_append, Bool.or_assoc, Bool.or_left_comm]

theorem flatMap_pairs_perm (ls : List Row) (bs : List (List Row)) :
    (bs.flatMap fun b => ls.flatMap (pairs m b)).Perm (ls.flatMap (pairs m bs.flatten)) := by
  induction bs with
  | nil => simp [pairs]
  | cons b bs ih =>
      have hsplit : pairs m (b :: bs).flatten = fun l => pairs m b l ++ pairs m bs.flatten l := by
        funext l
        simp [pairs]
      rw [flatMap_cons, hsplit]
      exact (ih.append_left _).trans (flatMap_append_perm ls _ _)

theorem flatMap_pairs_eq (ls rs : List Row) :
    ls.flatMap (pairs m rs) =
      ((ls ×ˢ rs).filter fun p => m p.1 p.2).map fun p => p.1 ++ p.2 := by
  induction ls with
  | nil => rfl
  | cons l ls ih =>
      rw [flatMap_cons, product_cons, filter_append, map_append, ih, filter_map, map_map]
      rfl

variable {m}

theorem collect_unmatched {left : Rows} {ls : List Row} (hl : left.collect = .ok ls)
    (p : Row → Bool) (arity i : Nat) (t : MatchTracker)
    (h : ∀ k l, ls[k]? = some l → t.isMatch (i + k) = p l) :
    (left.unmatched arity t i).collect =
      .ok ((ls.filter fun l => !p l).map (· ++ replicate arity .null)) := by
  induction left generalizing ls i with
  | done =>
      cases hl
      rfl
  | item x tail ih =>
      cases x with
      | error e => cases hl
      | ok row =>
          cases hc : (tail ()).collect with
          | error e => simp [collect, hc, Except.map] at hl
          | ok rest =>
              obtain rfl : row :: rest = ls := by simpa [collect, hc, Except.map] using hl
              have hhead : t.isMatch i = p row := h 0 row rfl
              have htail := ih () hc (i + 1) fun k l hk => by
                rw [← h (k + 1) l (by simpa using hk), Nat.add_right_comm, Nat.add_assoc]
              cases hp : p row <;> simp [unmatched, hhead, hp, collect, htail, Except.map]
  | step n tail ih => exact ih () hl i h

theorem collect_nestedJoinBlocks {j : JoinSides} {test : Row → Except Error Bool} {left : Rows}
    {ls : List Row} (hj : j.left () = .ok left) (hl : left.collect = .ok ls) (hb : j.budget ≠ 0)
    {blocks : Blocks} {bs : List (List Row)} (hbs : blocks.collect = .ok bs)
    (h : ∀ l ∈ ls, ∀ r ∈ bs.flatten, test (l ++ r) = .ok (m l r)) (t : MatchTracker) :
    (nestedJoinBlocks j test t blocks).collect =
      (j.finish (markBlocks m ls t bs)).collect.map
        ((bs.flatMap fun b => ls.flatMap (pairs m b)) ++ ·) := by
  induction blocks generalizing bs t with
  | done =>
      cases hbs
      cases hf : (j.finish t).collect <;> simp [nestedJoinBlocks, markBlocks, hf, Except.map]
  | fail e => cases hbs
  | block rows tail ih =>
      cases hc : (tail ()).collect with
      | error e => simp [Blocks.collect, hc, Except.map] at hbs
      | ok rest =>
          obtain rfl : rows :: rest = bs := by simpa [Blocks.collect, hc, Except.map] using hbs
          have hrows : ∀ row, .ok row ∈ left.toList → ∀ right ∈ rows,
              test (row ++ right) = .ok (m row right) := by
            intro row hrow right hright
            rw [toList_of_collect hl] at hrow
            exact h row (by simpa using hrow) right (by simp [hright])
          have htail := ih () hc fun l hl' r hr => h l hl' r (by simp [mem_flatten.1 hr])
          rw [nestedJoinBlocks, hj]
          simp only [collect_pairLeft_ofRows hb hrows, hl, htail, Except.bind, markBlocks,
            foldl_cons, flatMap_cons]
          cases (j.finish _).collect <;> simp [Except.map]
  | step n tail ih => exact ih () hbs h t

/-- The left rows without a match on the right, as a left join pads them. -/
def padded (m : Row → Row → Bool) (ls rs : List Row) (arity : Nat) : List Row :=
  (ls.filter fun l => !rs.any (m l)).map (· ++ replicate arity .null)

theorem collect_finish {left : Rows} {ls : List Row} (hl : left.collect = .ok ls)
    (bs : List (List Row)) (type : JoinType) (arity budget : Nat) :
    (JoinSides.finish ⟨type, fun _ => .ok left, arity, budget⟩ (markBlocks m ls {} bs)).collect =
      .ok (match type with
        | .inner => []
        | .left => padded m ls bs.flatten arity) := by
  cases type with
  | inner => rfl
  | left =>
      refine collect_unmatched hl (fun l => bs.flatten.any (m l)) arity 0 _ fun k l hk => ?_
      rw [Nat.zero_add, isMatch_markBlocks, hk]
      simp

theorem collect_nestedJoin {test : Row → Except Error Bool} {left right : Rows} {ls rs : List Row}
    (hl : left.collect = .ok ls) (hr : right.collect = .ok rs)
    (h : ∀ l ∈ ls, ∀ r ∈ rs, test (l ++ r) = .ok (m l r)) (arity : Nat) {budget : Nat}
    (hb : budget ≠ 0) :
    ∃ bs : List (List Row), bs.flatten = rs ∧ ∀ type,
      (nestedJoin ⟨type, fun _ => .ok left, arity, budget⟩ test right).collect =
        .ok ((bs.flatMap fun b => ls.flatMap (pairs m b)) ++
          match type with
          | .inner => []
          | .left => padded m ls rs arity) := by
  have hblocks := Blocks.collect_ofRows budget right hb
  rw [hr] at hblocks
  cases hbs : (Blocks.ofRows budget right).collect with
  | error e => simp [hbs, Except.map] at hblocks
  | ok bs =>
      obtain rfl : bs.flatten = rs := by simpa [hbs, Except.map] using hblocks
      refine ⟨bs, rfl, fun type => ?_⟩
      rw [nestedJoin, delay, collect, collect_nestedJoinBlocks rfl hl hb hbs h {}, collect_finish hl]
      rfl

/-- Pulled to its end, the nested block join yields no error. An inner join gives each pair that
passes the predicate once, and a left join continues with the left rows that no right row passed
with, padded and in order. So the rows are the same with every budget, up to their order. -/
theorem nestedItems_exact (ctx : Context) (predicate : Option Scalar) (left right : Rows)
    (ls rs : List Row) (arity budget : Nat) (hleft : left.toList = ls.map .ok)
    (hright : right.toList = rs.map .ok)
    (htest : ∀ l ∈ ls, ∀ r ∈ rs, ∃ b, Physical.test ctx predicate (l ++ r) = .ok b)
    (hbudget : 1 ≤ budget) :
    ∃ inner : List Row,
      nestedItems (Physical.test ctx predicate) left right arity .inner budget = inner.map .ok ∧
      inner.Perm (((ls ×ˢ rs).filter fun p =>
        holds (Physical.test ctx predicate) (p.1 ++ p.2)).map fun p => p.1 ++ p.2) ∧
      nestedItems (Physical.test ctx predicate) left right arity .left budget =
        (inner ++ (ls.filter fun l => !rs.any fun r =>
          holds (Physical.test ctx predicate) (l ++ r)).map
            (· ++ replicate arity .null)).map .ok ∧
      ∀ type budget', 1 ≤ budget' →
        (nestedItems (Physical.test ctx predicate) left right arity type budget').Perm
          (nestedItems (Physical.test ctx predicate) left right arity type budget) := by
  let m : Row → Row → Bool := fun l r => holds (Physical.test ctx predicate) (l ++ r)
  have hm : ∀ l ∈ ls, ∀ r ∈ rs, Physical.test ctx predicate (l ++ r) = .ok (m l r) := by
    intro l hl r hr
    obtain ⟨b, hb⟩ := htest l hl r hr
    simp [m, holds, hb]
  have items : ∀ b, 1 ≤ b → ∃ inner : List Row,
      inner.Perm (((ls ×ˢ rs).filter fun p => m p.1 p.2).map fun p => p.1 ++ p.2) ∧
      ∀ type, nestedItems (Physical.test ctx predicate) left right arity type b =
        (inner ++ match type with
          | .inner => []
          | .left => padded m ls rs arity).map .ok := by
    intro b hb
    obtain ⟨bs, hbs, hjoin⟩ := collect_nestedJoin (collect_of_toList hleft)
      (collect_of_toList hright) hm arity (Nat.ne_of_gt hb)
    refine ⟨bs.flatMap fun b => ls.flatMap (pairs m b), ?_, fun type => ?_⟩
    · rw [← flatMap_pairs_eq, ← hbs]
      exact flatMap_pairs_perm m ls bs
    · rw [nestedItems, drain_fst, toList_of_collect (hjoin type)]
  obtain ⟨inner, hperm, hinner⟩ := items budget hbudget
  refine ⟨inner, by simp [hinner .inner], hperm, hinner .left, fun type budget' hb => ?_⟩
  obtain ⟨inner', hperm', hinner'⟩ := items budget' hb
  rw [hinner type, hinner' type]
  exact ((hperm'.trans hperm.symm).append_right _).map _

theorem nestedItems_exact_mixed_keys :
    let test := Physical.test {} (some (.binary .eq (.column 0) (.column 1)))
    let ls : List Row := [[.null], [.integer 1], [.integer 2], [.integer 1]]
    let rs : List Row := [[.float (Binary64.ofInt 1)], [.null]]
    ∃ inner : List Row,
      nestedItems test (ofRows ls) (ofRows rs) 1 .inner 1 = inner.map .ok ∧
      inner.Perm [[.null, .null], [.integer 1, .float (Binary64.ofInt 1)],
        [.integer 1, .float (Binary64.ofInt 1)]] ∧
      nestedItems test (ofRows ls) (ofRows rs) 1 .left 1 =
        (inner ++ ([[.integer 2, .null]] : List Row)).map .ok := by
  intro test ls rs
  have htest : ∀ l ∈ ls, ∀ r ∈ rs, ∃ b, test (l ++ r) = .ok b := by
    simp only [ls, rs, mem_cons, not_mem_nil, or_false]
    rintro l (rfl | rfl | rfl | rfl) r (rfl | rfl) <;> exact ⟨_, rfl⟩
  obtain ⟨inner, hinner, hperm, hleft, -⟩ := nestedItems_exact {} _ (ofRows ls) (ofRows rs) ls rs
    1 1 (toList_ofRows ls) (toList_ofRows rs) htest (by decide)
  exact ⟨inner, hinner, hperm, hleft⟩

end Rows

end QueryEngine
