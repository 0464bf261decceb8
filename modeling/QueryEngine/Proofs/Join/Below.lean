import QueryEngine.Proofs.Rows.Below

namespace QueryEngine

namespace Blocks

/-- The second sequence gives all blocks that the first gives before an error. -/
inductive Below : Blocks → Blocks → Prop
  | done : Below .done .done
  | fail (e : Error) (blocks : Blocks) : Below (.fail e) blocks
  | block {rows : List Row} {tail tail' : Unit → Blocks} (h : Below (tail ()) (tail' ())) :
      Below (.block rows tail) (.block rows tail')
  | stepLeft {n : Nat} {tail : Unit → Blocks} {blocks : Blocks} (h : Below (tail ()) blocks) :
      Below (.step n tail) blocks
  | stepRight {n : Nat} {blocks : Blocks} {tail : Unit → Blocks} (h : Below blocks (tail ())) :
      Below blocks (.step n tail)

variable {a b : Rows}

theorem below_readOnto (h : a.Below b) (budget : Nat) (readRev : List Row) (size : Nat) :
    Below (readOnto budget readRev size a) (readOnto budget readRev size b) := by
  induction h generalizing readRev size with
  | done =>
      cases readRev with
      | nil => exact .done
      | cons row readRev => exact .block .done
  | error e tail rows => cases readRev <;> exact .fail e _
  | @ok row _ _ _ ih =>
      rw [readOnto, readOnto]
      split
      · exact .block (ih _ _)
      · exact .stepLeft (.stepRight (ih _ _))
  | stepLeft _ ih => cases readRev <;> exact .stepLeft (ih _ _)
  | stepRight _ ih => cases readRev <;> exact .stepRight (ih _ _)

theorem below_ofRows (h : a.Below b) (budget : Nat) : Below (ofRows budget a) (ofRows budget b) := by
  unfold ofRows
  split
  · exact .done
  · exact below_readOnto h budget [] 0

end Blocks

namespace Rows

variable {next next' : MatchTracker → Rows} (hnext : ∀ t, Below (next t) (next' t))

include hnext

theorem below_pairRow (test : Row → Except Error Bool) (ordinal : Nat) (row : Row)
    (rights : List Row) (t : MatchTracker) :
    Below (pairRow test ordinal row next t rights) (pairRow test ordinal row next' t rights) := by
  induction rights generalizing t with
  | nil => exact .step (hnext t)
  | cons right rights ih =>
      rw [pairRow, pairRow]
      cases test (row ++ right) with
      | error e => exact .fail e _
      | ok passes =>
          cases passes with
          | true => exact .ok (ih _)
          | false => exact ih t

theorem below_pairBlocks (test : Row → Except Error Bool) (rights : List Row) (ordinal : Nat)
    (rows : List Row) (t : MatchTracker) :
    Below (pairBlocks test rights next ordinal t rows)
      (pairBlocks test rights next' ordinal t rows) := by
  induction rows generalizing ordinal t with
  | nil => exact hnext t
  | cons row rows ih => exact below_pairRow (fun t' => ih _ t') test ordinal row rights t

theorem below_pairLeft {a b : Blocks} (h : a.Below b) (test : Row → Except Error Bool)
    (rights : List Row) (offset : Nat) (t : MatchTracker) :
    Below (pairLeft test rights next offset t a) (pairLeft test rights next' offset t b) := by
  induction h generalizing offset t with
  | done => exact .step (hnext t)
  | fail e blocks => exact .fail e _
  | block _ ih => exact below_pairBlocks (fun t' => ih _ t') test rights offset _ t
  | stepLeft _ ih => exact .stepLeft (ih _ _)
  | stepRight _ ih => exact .stepRight (ih _ _)

theorem below_probe {a b : Rows} (h : Below a b) (positions : List Nat) (table : JoinTable) (i : Nat)
    (t : MatchTracker) :
    Below (a.probe positions table next i t) (b.probe positions table next' i t) := by
  induction h generalizing i t with
  | done => exact .step (hnext t)
  | error e tail rows => exact .fail e _
  | @ok row _ _ _ ih =>
      rw [probe, probe]
      cases JoinTable.keyValues row positions with
      | error e => exact .fail e _
      | ok key =>
          dsimp only
          split
          · exact .step (ih _ _)
          · exact (Below.refl _).append (ih _ _)
  | stepLeft _ ih => exact .stepLeft (ih _ _)
  | stepRight _ ih => exact .stepRight (ih _ _)

omit hnext

theorem below_unmatched {a b : Rows} (h : Below a b) (arity : Nat) (t : MatchTracker) (i : Nat) :
    Below (a.unmatched arity t i) (b.unmatched arity t i) := by
  induction h generalizing i with
  | done => exact .done
  | error e tail rows => exact .fail e _
  | ok _ ih =>
      rw [unmatched, unmatched]
      split
      · exact .step (ih _)
      · exact .ok (ih _)
  | stepLeft _ ih => exact .stepLeft (ih _)
  | stepRight _ ih => exact .stepRight (ih _)

section

variable {left left' : Unit → Except Error Rows} (hleft : StartsBelow (left ()) (left' ()))
  (type : JoinType) (arity budget : Nat)

include hleft

theorem below_finish (t : MatchTracker) :
    Below (JoinSides.finish ⟨type, left, arity, budget⟩ t)
      (JoinSides.finish ⟨type, left', arity, budget⟩ t) := by
  cases type with
  | inner => exact .done
  | left =>
      dsimp only [JoinSides.finish]
      cases hl : left () with
      | error e => exact .fail e _
      | ok rows =>
          obtain ⟨rows', hl', h⟩ := hleft rows hl
          rw [hl']
          exact below_unmatched h arity t 0

theorem below_nestedJoin {a b : Rows} (h : Below a b) (test : Row → Except Error Bool) :
    Below (nestedJoin ⟨type, left, arity, budget⟩ test a)
      (nestedJoin ⟨type, left', arity, budget⟩ test b) := by
  have hblocks {c d : Blocks} (hcd : c.Below d) (t : MatchTracker) :
      Below (nestedJoinBlocks ⟨type, left, arity, budget⟩ test t c)
        (nestedJoinBlocks ⟨type, left', arity, budget⟩ test t d) := by
    induction hcd generalizing t with
    | done => exact below_finish hleft type arity budget t
    | fail e blocks => exact .fail e _
    | block _ ih =>
        rw [nestedJoinBlocks, nestedJoinBlocks]
        dsimp only
        cases hl : left () with
        | error e => exact .fail e _
        | ok rows =>
            obtain ⟨rows', hl', hrows⟩ := hleft rows hl
            rw [hl']
            exact below_pairLeft ih (Blocks.below_ofRows hrows budget) test _ 0 t
    | stepLeft _ ih => exact .stepLeft (ih t)
    | stepRight _ ih => exact .stepRight (ih t)
  exact .step (hblocks (Blocks.below_ofRows h budget) {})

theorem below_hashJoin {a b : Rows} (h : Below a b) (keys : JoinKeys) :
    Below (hashJoin ⟨type, left, arity, budget⟩ keys a)
      (hashJoin ⟨type, left', arity, budget⟩ keys b) := by
  have hblocks {c d : Blocks} (hcd : c.Below d) (t : MatchTracker) :
      Below (hashJoinBlocks ⟨type, left, arity, budget⟩ keys t c)
        (hashJoinBlocks ⟨type, left', arity, budget⟩ keys t d) := by
    induction hcd generalizing t with
    | done => exact below_finish hleft type arity budget t
    | fail e blocks => exact .fail e _
    | @block rows _ _ _ ih =>
        rw [hashJoinBlocks, hashJoinBlocks]
        cases JoinTable.ofBlock (keys.map (·.2)) rows with
        | error e => exact .fail e _
        | ok table =>
            dsimp only
            cases hl : left () with
            | error e => exact .fail e _
            | ok rows =>
                obtain ⟨rows', hl', hrows⟩ := hleft rows hl
                rw [hl']
                exact below_probe ih hrows _ table 0 t
    | stepLeft _ ih => exact .stepLeft (ih t)
    | stepRight _ ih => exact .stepRight (ih t)
  exact .step (hblocks (Blocks.below_ofRows h budget) {})

end

end Rows

end QueryEngine
