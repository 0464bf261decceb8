import QueryEngine.Physical.Basic
import QueryEngine.Proofs.Except
import QueryEngine.Rows.Lemmas

namespace QueryEngine

namespace Rows

/-- Nothing but rows, up to one error at most, which is the last item. -/
def FailStop (rows : Rows) : Prop :=
  ∃ rs : List Row, rows.toList = rs.map .ok ∨ ∃ e, rows.toList = rs.map .ok ++ [.error e]

@[simp] theorem failStop_done : done.FailStop :=
  ⟨[], .inl rfl⟩

@[simp] theorem failStop_fail (e : Error) : (fail e).FailStop :=
  ⟨[], .inr ⟨e, rfl⟩⟩

@[simp] theorem failStop_step {n : Nat} {tail : Unit → Rows} :
    (step n tail).FailStop ↔ (tail ()).FailStop :=
  Iff.rfl

@[simp] theorem failStop_ofRows (rs : List Row) : (ofRows rs).FailStop :=
  ⟨rs, .inl (toList_ofRows rs)⟩

theorem FailStop.ofRows_append {after : Unit → Rows} (h : (after ()).FailStop) (rs : List Row) :
    ((ofRows rs).append after).FailStop := by
  obtain ⟨rs', h | ⟨e, h⟩⟩ := h
  · exact ⟨rs ++ rs', .inl (by simp [h])⟩
  · exact ⟨rs ++ rs', .inr ⟨e, by simp [h]⟩⟩

theorem FailStop.row {tail : Unit → Rows} (h : (tail ()).FailStop) (row : Row) :
    (item (.ok row) tail).FailStop :=
  h.ofRows_append [row]

theorem failStop_unmatched (arity : Nat) (t : MatchTracker) (i : Nat) (left : Rows) :
    (left.unmatched arity t i).FailStop := by
  induction left generalizing i with
  | done => exact failStop_done
  | step n tail ih => exact ih () i
  | item x tail ih =>
      cases x with
      | error e => exact failStop_fail e
      | ok row =>
          rw [unmatched]
          split
          · exact ih () (i + 1)
          · exact (ih () (i + 1)).row _

theorem failStop_finish (j : JoinSides) (t : MatchTracker) : (j.finish t).FailStop := by
  unfold JoinSides.finish
  split
  · exact failStop_done
  · split
    · exact failStop_unmatched _ t 0 _
    · exact failStop_fail _

section

variable {next : MatchTracker → Rows} (hnext : ∀ t, (next t).FailStop)

include hnext

theorem failStop_pairRow (test : Row → Except Error Bool) (ordinal : Nat) (row : Row)
    (t : MatchTracker) (rights : List Row) : (pairRow test ordinal row next t rights).FailStop := by
  induction rights generalizing t with
  | nil => exact hnext t
  | cons right rights ih =>
      rw [pairRow]
      split
      · exact failStop_fail _
      · exact (ih _).row _
      · exact ih t

theorem failStop_pairBlocks (test : Row → Except Error Bool) (rights : List Row) (ordinal : Nat)
    (t : MatchTracker) (rows : List Row) :
    (pairBlocks test rights next ordinal t rows).FailStop := by
  induction rows generalizing ordinal t with
  | nil => exact hnext t
  | cons row rows ih => exact failStop_pairRow (fun t' => ih _ t') test ordinal row t rights

theorem failStop_pairLeft (test : Row → Except Error Bool) (rights : List Row) (offset : Nat)
    (t : MatchTracker) (blocks : Blocks) :
    (pairLeft test rights next offset t blocks).FailStop := by
  induction blocks generalizing offset t with
  | done => exact hnext t
  | fail e => exact failStop_fail e
  | step n tail ih => exact ih () offset t
  | block rows tail ih => exact failStop_pairBlocks (fun t' => ih () _ t') test rights offset t rows

theorem failStop_probe (positions : List Nat) (table : JoinTable) (i : Nat) (t : MatchTracker)
    (left : Rows) : (left.probe positions table next i t).FailStop := by
  induction left generalizing i t with
  | done => exact hnext t
  | step n tail ih => exact ih () i t
  | item x tail ih =>
      cases x with
      | error e => exact failStop_fail e
      | ok row =>
          rw [probe]
          split
          · exact failStop_fail _
          · split
            · exact ih () (i + 1) t
            · exact (ih () (i + 1) _).ofRows_append _

end

/-- The left side is read anew for every right block; an error there ends the join as well. -/
theorem failStop_nestedJoin (j : JoinSides) (test : Row → Except Error Bool) (right : Rows) :
    (right.nestedJoin j test).FailStop := by
  have hblocks (blocks : Blocks) (t : MatchTracker) :
      (nestedJoinBlocks j test t blocks).FailStop := by
    induction blocks generalizing t with
    | done => exact failStop_finish j t
    | fail e => exact failStop_fail e
    | step n tail ih => exact ih () t
    | block rows tail ih =>
        rw [nestedJoinBlocks]
        split
        · exact failStop_fail _
        · exact failStop_pairLeft (fun t' => ih () t') test rows 0 t _
  exact hblocks _ {}

theorem failStop_hashJoin (j : JoinSides) (keys : JoinKeys) (right : Rows) :
    (right.hashJoin j keys).FailStop := by
  have hblocks (blocks : Blocks) (t : MatchTracker) :
      (hashJoinBlocks j keys t blocks).FailStop := by
    induction blocks generalizing t with
    | done => exact failStop_finish j t
    | fail e => exact failStop_fail e
    | step n tail ih => exact ih () t
    | block rows tail ih =>
        rw [hashJoinBlocks]
        split
        · exact failStop_fail _
        · split
          · exact failStop_fail _
          · exact failStop_probe (fun t' => ih () t') _ _ 0 t _
  exact hblocks _ {}

variable (ctx : Context)

theorem failStop_sortOnto (keys : List SortKey) (readRev : List (List Value × Row)) (rows : Rows) :
    (rows.sortOnto ctx keys readRev).FailStop := by
  induction rows generalizing readRev with
  | done => exact failStop_ofRows _
  | step n tail ih => exact ih () readRev
  | item x tail ih =>
      cases x with
      | error e => exact failStop_fail e
      | ok row =>
          rw [sortOnto]
          split
          · exact ih () _
          · exact failStop_fail _

theorem failStop_group (keys : List Scalar) (outputs : List GroupOutput) (run : Option OpenRun)
    (rows : Rows) : (rows.group ctx keys outputs run).FailStop := by
  induction rows generalizing run with
  | done =>
      cases run with
      | none => exact failStop_done
      | some g =>
          rw [group]
          cases g.result ctx outputs with
          | error e => exact failStop_fail e
          | ok out => exact failStop_done.row out
  | step n tail ih => cases run <;> exact ih () _
  | item x tail ih =>
      cases x with
      | error e => cases run <;> exact failStop_fail e
      | ok row =>
          cases run with
          | none =>
              rw [group]
              split
              · exact failStop_fail _
              · exact ih () _
          | some g =>
              rw [group]
              split
              · exact failStop_fail _
              · split
                · split
                  · exact failStop_fail _
                  · exact ih () _
                · split
                  · exact failStop_fail _
                  · -- the row that closes a run opens the next one after the result is out
                    refine FailStop.row ?_ _
                    split
                    · exact failStop_fail _
                    · exact ih () _

end Rows

namespace Physical

/-- The operators that hold rows of their inputs back. -/
def Buffers : Physical → Prop
  | .sort .. | .hashJoin .. | .nestedJoin .. | .group .. => True
  | _ => False

/-- Started over any inputs, an operator that buffers yields rows and at most one error, after which
it is done. -/
theorem failStop_of_execute {ctx : Context} {p : Physical} (hp : p.Buffers) {rows : Rows}
    (h : execute ctx p = .ok rows) : rows.FailStop := by
  cases p with
  | sort input keys =>
      cases h
      rw [Rows.delay, Rows.failStop_step]
      cases execute ctx input with
      | error e => exact Rows.failStop_fail e
      | ok rows => exact Rows.failStop_sortOnto ctx keys [] rows
  | hashJoin left right keys type arity =>
      obtain ⟨right, -, h⟩ := bind_eq_ok.1 h
      cases h
      exact Rows.failStop_hashJoin _ keys right
  | nestedJoin left right predicate type arity =>
      obtain ⟨right, -, h⟩ := bind_eq_ok.1 h
      cases h
      exact Rows.failStop_nestedJoin _ _ right
  | group input keys outputs =>
      obtain ⟨input, -, h⟩ := bind_eq_ok.1 h
      cases h
      exact Rows.failStop_group ctx keys outputs none input
  | empty | scan | filter | project | limit | union | tableFunction => cases hp

/-- Blocks of one row: the left side fails behind its first row, while the first of two right rows
is joined to it. The row behind the error is not read. -/
theorem failStop_of_execute_between_blocks :
    let e : Error := .execution .divisionByZero
    let left : Physical := .scan ⟨.ok (.ofList [.ok [.integer 1], .error e, .ok [.integer 2]])⟩
    let right : Physical := .scan ⟨.ok (.ofRows [[.integer 3], [.integer 4]])⟩
    let join : Physical := .nestedJoin left right none .left 1
    join.Buffers ∧ ∃ rows, execute { config := { joinBufferSize := 2 } } join = .ok rows ∧
      rows.FailStop ∧ rows.toList = [.ok [.integer 1, .integer 3], .error e] := by
  intro e left right join
  exact ⟨trivial, _, rfl, failStop_of_execute (p := join) trivial rfl, rfl⟩

end Physical

end QueryEngine
