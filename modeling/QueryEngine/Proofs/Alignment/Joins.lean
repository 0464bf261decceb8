import QueryEngine.Proofs.Alignment.Rows
import QueryEngine.Proofs.Join.Table

namespace QueryEngine

open Rows

namespace Blocks

def Aligned (n : Nat) (blocks : Blocks) : Prop :=
  ∀ x ∈ blocks.toList, match x with
    | .ok rows => ∀ row ∈ rows, row.length = n
    | .error e => e.kind ≠ .internal

variable {n : Nat}

@[simp] theorem aligned_done : done.Aligned n := by
  simp [Aligned, toList]

@[simp] theorem aligned_fail {e : Error} : (fail e).Aligned n ↔ e.kind ≠ .internal := by
  simp [Aligned, toList]

@[simp] theorem aligned_block {rows : List Row} {tail : Unit → Blocks} :
    (block rows tail).Aligned n ↔ (∀ row ∈ rows, row.length = n) ∧ (tail ()).Aligned n := by
  simp [Aligned, toList]

@[simp] theorem aligned_step {k : Nat} {tail : Unit → Blocks} :
    (step k tail).Aligned n ↔ (tail ()).Aligned n :=
  Iff.rfl

theorem aligned_readOnto {rows : Rows} (h : rows.Aligned n) (budget : Nat) {readRev : List Row}
    (hread : ∀ row ∈ readRev, row.length = n) (size : Nat) :
    (readOnto budget readRev size rows).Aligned n := by
  induction rows generalizing readRev size with
  | done =>
      cases readRev with
      | nil => exact aligned_done
      | cons row readRev =>
          exact aligned_block.2 ⟨fun r hr => hread r (List.mem_reverse.1 hr), aligned_done⟩
  | step k tail ih =>
      rw [readOnto]
      exact ih () h hread size
  | item x tail ih =>
      obtain ⟨hx, htail⟩ := Rows.aligned_item.1 h
      cases x with
      | error e =>
          rw [readOnto]
          exact aligned_fail.2 hx
      | ok row =>
          have hmore : ∀ r ∈ row :: readRev, r.length = n := by
            intro r hr
            rcases List.mem_cons.1 hr with rfl | hr
            · exact hx
            · exact hread r hr
          rw [readOnto]
          split
          · exact aligned_block.2
              ⟨fun r hr => hmore r (List.mem_reverse.1 hr), ih () htail (by simp) 0⟩
          · exact aligned_step.2 (ih () htail hmore _)

theorem aligned_ofRows {rows : Rows} (h : rows.Aligned n) (budget : Nat) :
    (ofRows budget rows).Aligned n := by
  unfold ofRows
  split
  · exact aligned_done
  · exact aligned_readOnto h budget (by simp) 0

end Blocks

structure JoinSides.Fits (n m : Nat) (j : JoinSides) : Prop where
  left : ∃ rows, j.left () = .ok rows ∧ rows.Aligned n
  rightArity : j.rightArity = m

variable {n m : Nat}

theorem Rows.Aligned.unmatched {rows : Rows} (h : rows.Aligned n) (t : MatchTracker) (i : Nat) :
    (rows.unmatched m t i).Aligned (n + m) := by
  induction rows generalizing i with
  | done => exact aligned_done
  | step k tail ih => exact ih () h i
  | item x tail ih =>
      obtain ⟨hx, htail⟩ := aligned_item.1 h
      cases x with
      | error e => exact aligned_fail.2 hx
      | ok row =>
          rw [Rows.unmatched]
          split
          · exact ih () htail _
          · have hrow : row.length = n := hx
            exact aligned_item.2 ⟨by simp [ItemAligned, hrow], ih () htail _⟩

theorem JoinSides.Fits.finish {j : JoinSides} (h : j.Fits n m) (t : MatchTracker) :
    (j.finish t).Aligned (n + m) := by
  obtain ⟨⟨rows, hrows, hleft⟩, rfl⟩ := h
  cases htype : j.type with
  | inner =>
      simp only [JoinSides.finish, htype]
      exact aligned_done
  | left =>
      simp only [JoinSides.finish, htype, hrows]
      exact hleft.unmatched t 0

namespace Rows

section

variable {test : Row → Except Error Bool} (htest : ∀ row, row.length = n + m → External (test row))
  {rights : List Row} (hrights : ∀ right ∈ rights, right.length = m) {next : MatchTracker → Rows}
  (hnext : ∀ t, (next t).Aligned (n + m))

include htest hrights hnext

theorem aligned_pairRow {row : Row} (hrow : row.length = n) (ordinal : Nat) (t : MatchTracker) :
    (pairRow test ordinal row next t rights).Aligned (n + m) := by
  induction rights generalizing t with
  | nil => exact hnext t
  | cons right rights ih =>
      have hlength : (row ++ right).length = n + m := by
        rw [List.length_append, hrow, hrights right List.mem_cons_self]
      have ih := ih fun r hr => hrights r (List.mem_cons_of_mem _ hr)
      rw [pairRow]
      split
      · next e he => exact aligned_fail.2 (htest _ hlength e he)
      · exact aligned_item.2 ⟨hlength, ih _⟩
      · exact ih _

theorem aligned_pairBlocks {rows : List Row} (hrows : ∀ row ∈ rows, row.length = n) (ordinal : Nat)
    (t : MatchTracker) : (pairBlocks test rights next ordinal t rows).Aligned (n + m) := by
  induction rows generalizing ordinal t with
  | nil => exact hnext t
  | cons row rows ih =>
      rw [pairBlocks]
      refine aligned_pairRow htest hrights (fun t => ?_) (hrows row List.mem_cons_self) ordinal t
      exact ih (fun r hr => hrows r (List.mem_cons_of_mem _ hr)) _ t

theorem aligned_pairLeft {blocks : Blocks} (h : blocks.Aligned n) (offset : Nat)
    (t : MatchTracker) : (pairLeft test rights next offset t blocks).Aligned (n + m) := by
  induction blocks generalizing offset t with
  | done => exact hnext t
  | fail e => exact aligned_fail.2 (Blocks.aligned_fail.1 h)
  | step k tail ih => exact ih () h offset t
  | block rows tail ih =>
      obtain ⟨hrows, htail⟩ := Blocks.aligned_block.1 h
      exact aligned_pairBlocks htest hrights (fun t => ih () htail _ t) hrows offset t

end

theorem Aligned.nestedJoin {right : Rows} (h : right.Aligned m) {j : JoinSides} (hj : j.Fits n m)
    {test : Row → Except Error Bool} (htest : ∀ row, row.length = n + m → External (test row)) :
    (right.nestedJoin j test).Aligned (n + m) := by
  obtain ⟨left, hstart, hleft⟩ := hj.left
  have hblocks (blocks : Blocks) (h : blocks.Aligned m) (t : MatchTracker) :
      (nestedJoinBlocks j test t blocks).Aligned (n + m) := by
    induction blocks generalizing t with
    | done => exact hj.finish t
    | fail e => exact aligned_fail.2 (Blocks.aligned_fail.1 h)
    | step k tail ih => exact ih () h t
    | block rows tail ih =>
        obtain ⟨hrows, htail⟩ := Blocks.aligned_block.1 h
        rw [nestedJoinBlocks, hstart]
        exact aligned_pairLeft htest hrows (fun t => ih () htail t)
          (Blocks.aligned_ofRows hleft j.budget) 0 t
  exact hblocks _ (Blocks.aligned_ofRows h j.budget) {}

theorem aligned_probe {rows : Rows} (h : rows.Aligned n) {positions : List Nat}
    (hpositions : ∀ i ∈ positions, i < n) {table : JoinTable}
    (htable : ∀ key, ∀ right ∈ table.find key, right.length = m) {next : MatchTracker → Rows}
    (hnext : ∀ t, (next t).Aligned (n + m)) (i : Nat) (t : MatchTracker) :
    (rows.probe positions table next i t).Aligned (n + m) := by
  induction rows generalizing i t with
  | done => exact hnext t
  | step k tail ih => exact ih () h i t
  | item x tail ih =>
      obtain ⟨hx, htail⟩ := aligned_item.1 h
      cases x with
      | error e => exact aligned_fail.2 hx
      | ok row =>
          have hrow : row.length = n := hx
          rw [probe, JoinTable.keyValues_eq fun i hi => hrow ▸ hpositions i hi]
          dsimp only
          split
          · exact ih () htail _ t
          · rw [aligned_append, aligned_ofRows]
            refine ⟨fun r hr => ?_, ih () htail _ _⟩
            obtain ⟨right, hright, rfl⟩ := List.mem_map.1 hr
            rw [List.length_append, hrow, htable _ right hright]

theorem Aligned.hashJoin {right : Rows} (h : right.Aligned m) {j : JoinSides} (hj : j.Fits n m)
    {keys : JoinKeys} (hkeys : ∀ k ∈ keys, k.1 < n ∧ k.2 < m) :
    (right.hashJoin j keys).Aligned (n + m) := by
  obtain ⟨left, hstart, hleft⟩ := hj.left
  have hblocks (blocks : Blocks) (h : blocks.Aligned m) (t : MatchTracker) :
      (hashJoinBlocks j keys t blocks).Aligned (n + m) := by
    induction blocks generalizing t with
    | done => exact hj.finish t
    | fail e => exact aligned_fail.2 (Blocks.aligned_fail.1 h)
    | step k tail ih => exact ih () h t
    | block rows tail ih =>
        obtain ⟨hrows, htail⟩ := Blocks.aligned_block.1 h
        obtain ⟨table, htable, hfind⟩ := JoinTable.find_ofBlock_keys fun row hrow k hk =>
          hrows row hrow ▸ (hkeys k hk).2
        rw [hashJoinBlocks, htable, hstart]
        refine aligned_probe hleft ?_ ?_ (fun t => ih () htail t) 0 t
        · intro i hi
          obtain ⟨k, hk, rfl⟩ := List.mem_map.1 hi
          exact (hkeys k hk).1
        · intro key right hright
          rw [hfind] at hright
          exact hrows right (List.mem_filter.1 hright).1
  exact hblocks _ (Blocks.aligned_ofRows h j.budget) {}

end Rows

end QueryEngine
