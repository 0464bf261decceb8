import QueryEngine.Join.Nested
import QueryEngine.Proofs.Join.Blocks

namespace QueryEngine

namespace MatchTracker

theorem isMatch_eq (t : MatchTracker) (i : Nat) : t.isMatch i = t.marks[i]?.getD false := by
  simp [isMatch]

@[simp] theorem isMatch_empty (i : Nat) : isMatch {} i = false := by
  simp [isMatch]

theorem isMatch_setMatch (t : MatchTracker) (i j : Nat) :
    (t.setMatch i).isMatch j = (decide (i = j) || t.isMatch j) := by
  unfold setMatch
  split
  · next hi =>
      rw [isMatch_eq, isMatch_eq, Array.getElem?_setIfInBounds]
      by_cases hij : i = j
      · simp [hij, hij ▸ hi]
      · simp [hij]
  · next hi =>
      -- the new mark comes behind those between it and the last
      rw [isMatch_eq, isMatch_eq, Array.getElem?_push, Array.getElem?_append]
      have hsize : (t.marks ++ Array.replicate (i - t.marks.size) false).size = i := by
        rw [Array.size_append, Array.size_replicate]
        omega
      rw [hsize]
      by_cases hij : i = j
      · simp [hij]
      · by_cases hj : j < t.marks.size
        · simp [hij, Ne.symm hij, hj]
        · by_cases hk : j - t.marks.size < i - t.marks.size <;>
            simp [hij, Ne.symm hij, hj, hk]

theorem setMatch_of_isMatch {t : MatchTracker} {i : Nat} (h : t.isMatch i = true) :
    t.setMatch i = t := by
  rw [isMatch_eq] at h
  have hi : i < t.marks.size := by
    refine Nat.lt_of_not_le fun hi => ?_
    simp [hi] at h
  have hmark : t.marks[i]? = some true := by
    simpa [hi] using h
  rw [setMatch, if_pos hi]
  congr 1
  refine Array.ext_getElem? fun j => ?_
  rw [Array.getElem?_setIfInBounds]
  split
  · next hij =>
      subst hij
      exact hmark.symm
  · rfl

end MatchTracker

namespace Rows

variable (m : Row → Row → Bool) (rights : List Row)

/-- What a left row contributes against a right block. -/
def pairs (row : Row) : List Row :=
  (rights.filter (m row)).map (row ++ ·)

def markRow (i : Nat) (t : MatchTracker) (row : Row) : MatchTracker :=
  if rights.any (m row) then t.setMatch i else t

def markRows : Nat → MatchTracker → List Row → MatchTracker
  | _, t, [] => t
  | i, t, row :: rows => markRows (i + 1) (markRow m rights i t row) rows

theorem markRows_append (i : Nat) (t : MatchTracker) (rows rows' : List Row) :
    markRows m rights i t (rows ++ rows') =
      markRows m rights (i + rows.length) (markRows m rights i t rows) rows' := by
  induction rows generalizing i t with
  | nil => rfl
  | cons row rows ih => simp [markRows, ih, Nat.add_assoc, Nat.add_comm 1]

theorem isMatch_markRow (i k : Nat) (t : MatchTracker) (row : Row) :
    (markRow m rights i t row).isMatch k =
      (decide (i = k) && rights.any (m row) || t.isMatch k) := by
  cases h : rights.any (m row) <;> simp [markRow, h, MatchTracker.isMatch_setMatch]

theorem isMatch_markRows (i k : Nat) (t : MatchTracker) (rows : List Row) :
    (markRows m rights i t rows).isMatch k =
      (decide (i ≤ k) && rows[k - i]?.any (fun row => rights.any (m row)) || t.isMatch k) := by
  induction rows generalizing i t with
  | nil => simp [markRows]
  | cons row rows ih =>
      rw [markRows, ih, isMatch_markRow]
      rcases Nat.lt_trichotomy i k with h | rfl | h
      · have hk : k - i = k - (i + 1) + 1 := by omega
        simp [hk, Nat.le_of_lt h, Nat.succ_le_of_lt h, Nat.ne_of_lt h]
      · simp [show ¬ i + 1 ≤ i by omega]
      · simp [Nat.not_le_of_lt h, Nat.ne_of_gt h, show ¬ i + 1 ≤ k by omega]

variable {m rights} {test : Row → Except Error Bool}

theorem collect_pairRow {row : Row} (h : ∀ right ∈ rights, test (row ++ right) = .ok (m row right))
    (ordinal : Nat) (next : MatchTracker → Rows) (t : MatchTracker) :
    (pairRow test ordinal row next t rights).collect =
      (next (markRow m rights ordinal t row)).collect.map (pairs m rights row ++ ·) := by
  induction rights generalizing t with
  | nil => cases hn : (next t).collect <;> simp [pairRow, collect, markRow, pairs, hn, Except.map]
  | cons right rights ih =>
      have hrest := ih fun r hr => h r (List.mem_cons_of_mem _ hr)
      have hright := h right List.mem_cons_self
      cases hm : m row right with
      | false => simp [pairRow, hright, hm, hrest, markRow, pairs]
      | true =>
          have hfirst : markRow m (right :: rights) ordinal t row = t.setMatch ordinal := by
            simp [markRow, hm]
          have hagain : markRow m rights ordinal (t.setMatch ordinal) row = t.setMatch ordinal := by
            rw [markRow, MatchTracker.setMatch_of_isMatch (by simp [MatchTracker.isMatch_setMatch])]
            split <;> rfl
          rw [hfirst, pairRow, hright, hm]
          cases hn : (next (t.setMatch ordinal)).collect <;>
            simp [collect, hrest, hagain, pairs, hm, hn, Except.map]

theorem collect_pairBlocks {rows : List Row}
    (h : ∀ row ∈ rows, ∀ right ∈ rights, test (row ++ right) = .ok (m row right))
    (ordinal : Nat) (next : MatchTracker → Rows) (t : MatchTracker) :
    (pairBlocks test rights next ordinal t rows).collect =
      (next (markRows m rights ordinal t rows)).collect.map (rows.flatMap (pairs m rights) ++ ·) := by
  induction rows generalizing ordinal t with
  | nil => cases hn : (next t).collect <;> simp [pairBlocks, markRows, hn, Except.map]
  | cons row rows ih =>
      rw [pairBlocks, collect_pairRow (h row List.mem_cons_self),
        ih fun r hr => h r (List.mem_cons_of_mem _ hr)]
      cases hn : (next (markRows m rights ordinal t (row :: rows))).collect <;>
        simp_all [markRows, Except.map]

theorem collect_pairLeft {blocks : Blocks}
    (h : ∀ block, .ok block ∈ blocks.toList → ∀ row ∈ block, ∀ right ∈ rights,
      test (row ++ right) = .ok (m row right))
    (offset : Nat) (next : MatchTracker → Rows) (t : MatchTracker) :
    (pairLeft test rights next offset t blocks).collect =
      (blocks.collect.map List.flatten).bind fun ls =>
        (next (markRows m rights offset t ls)).collect.map (ls.flatMap (pairs m rights) ++ ·) := by
  induction blocks generalizing offset t with
  | done =>
      cases hn : (next t).collect <;>
        simp [pairLeft, collect, Blocks.collect, markRows, hn, Except.map, Except.bind]
  | fail e => rfl
  | block rows tail ih =>
      have hrows := h rows (by simp [Blocks.toList])
      have htail := ih () fun block hb => h block (by simp [Blocks.toList, hb])
      rw [pairLeft, collect_pairBlocks hrows, htail, Blocks.collect]
      cases hb : (tail ()).collect with
      | error e => rfl
      | ok bs =>
          simp only [Except.map, Except.bind, List.flatten_cons, markRows_append, List.flatMap_append]
          cases (next _).collect <;> simp
  | step n tail ih => exact ih () h offset t

theorem collect_pairLeft_ofRows {left : Rows} {budget : Nat} (hb : budget ≠ 0)
    (h : ∀ row, .ok row ∈ left.toList → ∀ right ∈ rights, test (row ++ right) = .ok (m row right))
    (next : MatchTracker → Rows) (t : MatchTracker) :
    (pairLeft test rights next 0 t (Blocks.ofRows budget left)).collect =
      left.collect.bind fun ls =>
        (next (markRows m rights 0 t ls)).collect.map (ls.flatMap (pairs m rights) ++ ·) := by
  rw [collect_pairLeft (m := m), Blocks.collect_ofRows budget left hb]
  intro block hblock row hrow
  exact h row (Blocks.mem_ofRows budget left hblock hrow)

end Rows

end QueryEngine
