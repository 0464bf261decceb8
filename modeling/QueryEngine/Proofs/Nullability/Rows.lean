import QueryEngine.Proofs.Alignment.Joins
import QueryEngine.Proofs.Grouping.Runs

namespace QueryEngine

namespace Rows

def Every (P : Row → Prop) (rows : Rows) : Prop :=
  ∀ row, .ok row ∈ rows.toList → P row

variable {P Q : Row → Prop} {rows : Rows}

@[simp] theorem every_done : done.Every P := by
  simp [Every]

@[simp] theorem every_item {x : Except Error Row} {tail : Unit → Rows} :
    (item x tail).Every P ↔ (∀ row, x = .ok row → P row) ∧ (tail ()).Every P := by
  simp [Every, or_imp, forall_and, eq_comm]

@[simp] theorem every_step {n : Nat} {tail : Unit → Rows} :
    (step n tail).Every P ↔ (tail ()).Every P :=
  Iff.rfl

@[simp] theorem every_fail {e : Error} : (fail e).Every P := by
  simp [Every]

@[simp] theorem every_single {row : Row} : (single row).Every P ↔ P row := by
  simp [Every]

@[simp] theorem every_ofRows {rs : List Row} : (ofRows rs).Every P ↔ ∀ r ∈ rs, P r := by
  simp [Every]

@[simp] theorem every_append {after : Unit → Rows} :
    (rows.append after).Every P ↔ rows.Every P ∧ (after ()).Every P := by
  simp [Every, or_imp, forall_and]

theorem every_ofStart {start : Except Error Rows} (h : ∀ rows, start = .ok rows → rows.Every P) :
    (ofStart start).Every P := by
  cases start with
  | ok rows => exact h rows rfl
  | error e => exact every_fail

theorem Every.filter (h : rows.Every P) (p : Row → Except Error Bool) :
    (rows.filter p).Every P := by
  intro row hrow
  rw [toList_filter] at hrow
  obtain ⟨x, hx, hkeep⟩ := List.mem_filterMap.1 hrow
  cases x with
  | error e => cases hkeep
  | ok row' =>
      unfold keep? at hkeep
      dsimp only at hkeep
      split at hkeep <;> cases hkeep
      exact h row hx

theorem Every.mapRows (h : rows.Every P) {f : Row → Except Error Row}
    (hf : ∀ row, P row → ∀ row', f row = .ok row' → Q row') : (rows.mapRows f).Every Q := by
  intro row' hrow'
  rw [toList_mapRows] at hrow'
  obtain ⟨x, hx, hfx⟩ := List.mem_map.1 hrow'
  cases x with
  | error e => cases hfx
  | ok row => exact hf row (h row hx) row' hfx

theorem Every.flatMap (h : rows.Every P) {f : Row → List Row}
    (hf : ∀ row, P row → ∀ row' ∈ f row, Q row') : (rows.flatMap f).Every Q := by
  intro row' hrow'
  rw [toList_flatMap] at hrow'
  obtain ⟨x, hx, hmem⟩ := List.mem_flatMap.1 hrow'
  cases x with
  | error e => simp at hmem
  | ok row => exact hf row (h row hx) row' (by simpa using hmem)

theorem Every.limit (h : rows.Every P) (start stop : Option Nat) :
    (rows.limit start stop).Every P := by
  have hskip : (rows.skip (start.getD 0)).Every P := by
    intro row hrow
    rw [toList_skip] at hrow
    exact h row (mem_of_mem_dropOk hrow)
  cases stop with
  | none => exact hskip
  | some stop =>
      intro row hrow
      rw [Rows.limit, toList_take] at hrow
      exact hskip row (List.mem_of_mem_take hrow)

theorem Every.sortOnto (h : rows.Every P) {ctx : Context} {keys : List SortKey}
    {readRev : List (List Value × Row)} (hread : ∀ entry ∈ readRev, P entry.2) :
    (rows.sortOnto ctx keys readRev).Every P := by
  induction rows generalizing readRev with
  | step k tail ih => exact ih () h hread
  | done =>
      rw [Rows.sortOnto, every_ofRows]
      intro r hr
      obtain ⟨entry, hentry, rfl⟩ := List.mem_map.1 hr
      exact hread entry (List.mem_reverse.1 (List.mem_mergeSort.1 hentry))
  | item x tail ih =>
      obtain ⟨hx, htail⟩ := every_item.1 h
      cases x with
      | error e => exact every_fail
      | ok row =>
          rw [Rows.sortOnto]
          split
          · refine ih () htail fun entry hentry => ?_
            rcases List.mem_cons.1 hentry with rfl | hentry
            · exact hx row rfl
            · exact hread entry hentry
          · exact every_fail

end Rows

namespace Blocks

def Every (P : Row → Prop) (blocks : Blocks) : Prop :=
  ∀ rows, .ok rows ∈ blocks.toList → ∀ row ∈ rows, P row

variable {P : Row → Prop}

@[simp] theorem every_block {rows : List Row} {tail : Unit → Blocks} :
    (block rows tail).Every P ↔ (∀ row ∈ rows, P row) ∧ (tail ()).Every P := by
  simp [Every, toList]

theorem every_ofRows {rows : Rows} (h : rows.Every P) (budget : Nat) :
    (ofRows budget rows).Every P :=
  fun _ hblock row hrow => h row (mem_ofRows budget rows hblock hrow)

end Blocks

namespace Rows

section

variable {L R P : Row → Prop} {j : JoinSides}
  (hleft : ∀ rows, j.left () = .ok rows → rows.Every L)
  (hpad : j.type = .left → ∀ l, L l → P (l ++ List.replicate j.rightArity .null))

include hleft hpad

theorem every_finish (t : MatchTracker) : (j.finish t).Every P := by
  have hunmatched {rows : Rows} (h : rows.Every L) (htype : j.type = .left) (i : Nat) :
      (rows.unmatched j.rightArity t i).Every P := by
    induction rows generalizing i with
    | done => exact every_done
    | step k tail ih => exact ih () h i
    | item x tail ih =>
        obtain ⟨hx, htail⟩ := every_item.1 h
        cases x with
        | error e => exact every_fail
        | ok row =>
            rw [Rows.unmatched]
            split
            · exact ih () htail _
            · rw [every_item]
              refine ⟨?_, ih () htail _⟩
              rintro _ ⟨⟩
              exact hpad htype row (hx row rfl)
  cases htype : j.type with
  | inner =>
      simp only [JoinSides.finish, htype]
      exact every_done
  | left =>
      simp only [JoinSides.finish, htype]
      split
      · next rows hrows => exact hunmatched (hleft rows hrows) htype 0
      · exact every_fail

end

section

variable {L R P : Row → Prop} (hjoin : ∀ l r, L l → R r → P (l ++ r)) {rights : List Row}
  (hrights : ∀ r ∈ rights, R r) {next : MatchTracker → Rows} (hnext : ∀ t, (next t).Every P)
  {test : Row → Except Error Bool}

include hjoin hrights hnext

theorem every_pairRow {row : Row} (hrow : L row) (ordinal : Nat) (t : MatchTracker) :
    (pairRow test ordinal row next t rights).Every P := by
  induction rights generalizing t with
  | nil => exact hnext t
  | cons right rights ih =>
      have ih := ih fun r hr => hrights r (List.mem_cons_of_mem _ hr)
      rw [pairRow]
      split
      · exact every_fail
      · rw [every_item]
        refine ⟨?_, ih _⟩
        rintro _ ⟨⟩
        exact hjoin row right hrow (hrights right List.mem_cons_self)
      · exact ih _

theorem every_pairBlocks {rows : List Row} (hrows : ∀ row ∈ rows, L row) (ordinal : Nat)
    (t : MatchTracker) : (pairBlocks test rights next ordinal t rows).Every P := by
  induction rows generalizing ordinal t with
  | nil => exact hnext t
  | cons row rows ih =>
      rw [pairBlocks]
      have ih := ih fun r hr => hrows r (List.mem_cons_of_mem _ hr)
      exact every_pairRow hjoin hrights (fun t => ih _ t) (hrows row List.mem_cons_self) ordinal t

theorem every_pairLeft {blocks : Blocks} (hblocks : blocks.Every L) (offset : Nat)
    (t : MatchTracker) : (pairLeft test rights next offset t blocks).Every P := by
  induction blocks generalizing offset t with
  | done => exact hnext t
  | fail e => exact every_fail
  | step k tail ih => exact ih () hblocks offset t
  | block rows tail ih =>
      obtain ⟨hrows, htail⟩ := Blocks.every_block.1 hblocks
      rw [pairLeft]
      exact every_pairBlocks hjoin hrights (fun t => ih () htail _ t) hrows offset t

end

theorem every_probe {L R P : Row → Prop} (hjoin : ∀ l r, L l → R r → P (l ++ r))
    {table : JoinTable} (htable : ∀ key, ∀ r ∈ table.find key, R r) {next : MatchTracker → Rows}
    (hnext : ∀ t, (next t).Every P) {rows : Rows} (h : rows.Every L) {positions : List Nat}
    (i : Nat) (t : MatchTracker) : (rows.probe positions table next i t).Every P := by
  induction rows generalizing i t with
  | done => exact hnext t
  | step k tail ih => exact ih () h i t
  | item x tail ih =>
      obtain ⟨hx, htail⟩ := every_item.1 h
      cases x with
      | error e => exact every_fail
      | ok row =>
          rw [probe]
          split
          · exact every_fail
          · next key _ =>
              split
              · exact ih () htail _ t
              · rw [every_append, every_ofRows]
                refine ⟨fun r hr => ?_, ih () htail _ _⟩
                obtain ⟨right, hright, rfl⟩ := List.mem_map.1 hr
                exact hjoin row right (hx row rfl) (htable key right hright)

section

variable {L R P : Row → Prop} {j : JoinSides} (hjoin : ∀ l r, L l → R r → P (l ++ r))
  (hleft : ∀ rows, j.left () = .ok rows → rows.Every L)
  (hpad : j.type = .left → ∀ l, L l → P (l ++ List.replicate j.rightArity .null))

include hjoin hleft hpad

theorem Every.nestedJoin {right : Rows} (h : right.Every R) (test : Row → Except Error Bool) :
    (right.nestedJoin j test).Every P := by
  have hblocks (blocks : Blocks) (h : blocks.Every R) (t : MatchTracker) :
      (nestedJoinBlocks j test t blocks).Every P := by
    induction blocks generalizing t with
    | done => exact every_finish hleft hpad t
    | fail e => exact every_fail
    | step k tail ih => exact ih () h t
    | block rows tail ih =>
        obtain ⟨hrows, htail⟩ := Blocks.every_block.1 h
        rw [nestedJoinBlocks]
        split
        · exact every_fail
        · next left hstart =>
            exact every_pairLeft hjoin hrows (fun t => ih () htail t)
              (Blocks.every_ofRows (hleft left hstart) j.budget) 0 t
  exact hblocks _ (Blocks.every_ofRows h j.budget) {}

theorem Every.hashJoin {right : Rows} (h : right.Every R) {keys : JoinKeys}
    (hkeys : ∀ r, R r → ∀ k ∈ keys, k.2 < r.length) : (right.hashJoin j keys).Every P := by
  have hblocks (blocks : Blocks) (h : blocks.Every R) (t : MatchTracker) :
      (hashJoinBlocks j keys t blocks).Every P := by
    induction blocks generalizing t with
    | done => exact every_finish hleft hpad t
    | fail e => exact every_fail
    | step k tail ih => exact ih () h t
    | block rows tail ih =>
        obtain ⟨hrows, htail⟩ := Blocks.every_block.1 h
        obtain ⟨table, htable, hfind⟩ := JoinTable.find_ofBlock_keys fun row hrow =>
          hkeys row (hrows row hrow)
        rw [hashJoinBlocks, htable]
        dsimp only
        split
        · exact every_fail
        · next left hstart =>
            refine every_probe hjoin (fun key r hr => ?_) (fun t => ih () htail t)
              (hleft left hstart) 0 t
            rw [hfind] at hr
            exact hrows r (List.mem_filter.1 hr).1
  exact hblocks _ (Blocks.every_ofRows h j.budget) {}

end

end Rows

theorem GroupOutput.length_of_combineAll {ctx : Context} {row : Row} {outputs : List GroupOutput}
    {states states' : List Value} (hlength : states.length = outputs.length)
    (h : combineAll ctx row outputs states = .ok states') : states'.length = outputs.length := by
  induction outputs generalizing states states' with
  | nil =>
      cases h
      rfl
  | cons o outputs ih =>
      cases states with
      | nil => cases hlength
      | cons s states =>
          rw [combineAll_cons] at h
          obtain ⟨s', -, h⟩ := bind_eq_ok.1 h
          obtain ⟨rest, hrest, h⟩ := bind_eq_ok.1 h
          cases h
          exact congrArg (· + 1) (ih (Nat.succ.inj hlength) hrest)

namespace Rows

variable {P Q : Row → Prop} {ctx : Context} {keys : List Scalar} {outputs : List GroupOutput}

structure RunOf (P : Row → Prop) (outputs : List GroupOutput) (g : OpenRun) : Prop where
  first : P g.first
  states : g.states.length = outputs.length

theorem RunOf.of_start {key : List Value} {row : Row} (hrow : P row) {g : OpenRun}
    (h : OpenRun.start ctx outputs key row = .ok g) : RunOf P outputs g := by
  obtain ⟨states, hstates, h⟩ := bind_eq_ok.1 h
  cases h
  exact ⟨hrow, GroupOutput.length_of_combineAll (List.length_map _) hstates⟩

theorem RunOf.of_add {g g' : OpenRun} (hg : RunOf P outputs g) {row : Row}
    (h : g.add ctx outputs row = .ok g') : RunOf P outputs g' := by
  obtain ⟨states, hstates, h⟩ := bind_eq_ok.1 h
  cases h
  exact ⟨hg.first, GroupOutput.length_of_combineAll hg.states hstates⟩

theorem Every.group {rows : Rows} (h : rows.Every P)
    (hresult : ∀ g, RunOf P outputs g → ∀ row, g.result ctx outputs = .ok row → Q row)
    {g : Option OpenRun} (hg : ∀ r ∈ g, RunOf P outputs r) :
    (rows.group ctx keys outputs g).Every Q := by
  induction rows generalizing g with
  | step k tail ih => cases g <;> exact ih () h hg
  | done =>
      cases g with
      | none => exact every_done
      | some r =>
          refine every_ofStart fun rows hrows => ?_
          obtain ⟨row, hrow, rfl⟩ := map_eq_ok.1 hrows
          exact every_single.2 (hresult r (hg r rfl) row hrow)
  | item x tail ih =>
      obtain ⟨hx, htail⟩ := every_item.1 h
      have hopened (r : OpenRun) (hr : RunOf P outputs r) :
          ((tail ()).group ctx keys outputs (some r)).Every Q := by
        refine ih () htail ?_
        rintro _ ⟨⟩
        exact hr
      cases x with
      | error e => cases g <;> exact every_fail
      | ok row =>
          have hrow : P row := hx row rfl
          cases g with
          | none =>
              rw [Rows.group]
              split
              · exact every_fail
              · next r hr =>
                  obtain ⟨key, -, hr⟩ := bind_eq_ok.1 hr
                  exact hopened r (.of_start hrow hr)
          | some r =>
              have hr : RunOf P outputs r := hg r rfl
              rw [Rows.group]
              split
              · exact every_fail
              · split
                · split
                  · exact every_fail
                  · next r' hadd => exact hopened r' (hr.of_add hadd)
                · split
                  · exact every_fail
                  · next out hout =>
                      rw [every_item]
                      constructor
                      · rintro _ ⟨⟩
                        exact hresult r hr out hout
                      · split
                        · exact every_fail
                        · next r' hstart => exact hopened r' (.of_start hrow hstart)

end Rows

end QueryEngine
