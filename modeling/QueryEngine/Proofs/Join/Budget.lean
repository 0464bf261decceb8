import Mathlib.Data.List.Infix
import QueryEngine.Proofs.Join.Blocks

namespace QueryEngine

namespace Blocks

def blockSize : List Row → Nat
  | [] => 0
  | row :: rows => row.size + blockSize rows

@[simp] theorem blockSize_nil : blockSize [] = 0 := rfl

theorem blockSize_cons (row : Row) (block : List Row) :
    blockSize (row :: block) = row.size + blockSize block := rfl

theorem blockSize_append (block more : List Row) :
    blockSize (block ++ more) = blockSize block + blockSize more := by
  induction block with
  | nil => simp
  | cons row block ih => rw [List.cons_append, blockSize_cons, blockSize_cons, ih, Nat.add_assoc]

@[simp] theorem blockSize_reverse (block : List Row) :
    blockSize block.reverse = blockSize block := by
  induction block with
  | nil => rfl
  | cons row block ih =>
      rw [List.reverse_cons, blockSize_append, ih, Nat.add_comm]
      rfl

@[simp] theorem nexts_step (n k : Nat) (tail : Unit → Blocks) :
    nexts n (step k tail) = nexts n (tail ()) := by
  cases n <;> rfl

theorem nexts_done (n : Nat) : nexts n done = List.replicate n (.ok none) := by
  induction n with
  | zero => rfl
  | succ n ih => simpa [nexts, next, List.replicate_succ] using ih

theorem nexts_eq (blocks : Blocks) (n : Nat) :
    blocks.nexts (blocks.toList.length + n) =
      blocks.toList.map (·.map some) ++ List.replicate n (.ok none) := by
  induction blocks with
  | done => simpa [toList] using nexts_done n
  | fail e => simpa [toList, nexts, next, Nat.add_comm 1 n, Except.map] using nexts_done n
  | block rows tail ih =>
      simpa [toList, nexts, next, Nat.add_right_comm, Except.map] using ih ()
  | step k tail ih => simpa [toList] using ih ()

variable {budget : Nat} {rows : Rows}

def lastBlock (rest : List Row) : List (List Row) :=
  if rest = [] then [] else [rest]

theorem toList_readOnto_nil (h : rows.toList = []) (readRev : List Row) (size : Nat) :
    (readOnto budget readRev size rows).toList = (lastBlock readRev.reverse).map .ok := by
  induction rows with
  | done => cases readRev <;> simp [readOnto, toList, lastBlock]
  | item x tail => cases h
  | step n tail ih => cases readRev <;> exact ih () h

theorem toList_readOnto_error {e : Error} {more : List (Except Error Row)}
    (h : rows.toList = .error e :: more) (readRev : List Row) (size : Nat) :
    (readOnto budget readRev size rows).toList = [.error e] := by
  induction rows with
  | done => cases h
  | item x tail =>
      obtain ⟨rfl, -⟩ := List.cons.inj h
      cases readRev <;> rfl
  | step n tail ih => cases readRev <;> exact ih () h

theorem toList_readOnto_row {row : Row} {items : List (Except Error Row)}
    (h : rows.toList = .ok row :: items) (readRev : List Row) (size : Nat) :
    ∃ tail : Rows, tail.toList = items ∧
      (readOnto budget readRev size rows).toList =
        if budget ≤ size + row.size then
          .ok (row :: readRev).reverse :: (readOnto budget [] 0 tail).toList
        else (readOnto budget (row :: readRev) (size + row.size) tail).toList := by
  induction rows with
  | done => cases h
  | item x tail =>
      obtain ⟨rfl, htail⟩ := List.cons.inj h
      refine ⟨tail (), htail, ?_⟩
      rw [readOnto]
      split <;> rfl
  | step n tail ih =>
      obtain ⟨rest, hrest, hread⟩ := ih () h
      exact ⟨rest, hrest, by cases readRev <;> exact hread⟩

/-- A block that its last row, and none before it, has brought to the budget. -/
structure Full (budget : Nat) (block : List Row) : Prop where
  ne_nil : block ≠ []
  dropLast_lt : blockSize block.dropLast < budget
  le_size : budget ≤ blockSize block

/-- Reading rows onto an open block hands out full blocks, and leaves the rest of the rows in the
block that is open then. -/
theorem exists_full (readRev : List Row) (hlt : blockSize readRev < budget) (rs : List Row) :
    ∃ full rest, readRev.reverse ++ rs = List.flatten full ++ rest ∧
      (∀ block ∈ full, Full budget block) ∧ blockSize rest < budget ∧
      ∀ (rows : Rows) (items : List (Except Error Row)), rows.toList = rs.map .ok ++ items →
        ∃ tail : Rows, tail.toList = items ∧
          (readOnto budget readRev (blockSize readRev) rows).toList =
            full.map .ok ++ (readOnto budget rest.reverse (blockSize rest) tail).toList := by
  induction rs generalizing readRev with
  | nil =>
      refine ⟨[], readRev.reverse, by simp, by simp, by simpa using hlt, fun rows items h => ?_⟩
      exact ⟨rows, h, by simp⟩
  | cons row rs ih =>
      have hsize : blockSize readRev + row.size = blockSize (row :: readRev) := by
        rw [blockSize_cons, Nat.add_comm]
      by_cases hfull : budget ≤ blockSize (row :: readRev)
      · -- the row closes the open block, and the next block is empty
        obtain ⟨full, rest, hflat, hall, hrest, hread⟩ :=
          ih [] (Nat.lt_of_le_of_lt (Nat.zero_le _) hlt)
        have hclosed : Full budget (row :: readRev).reverse :=
          ⟨by simp, by simpa using hlt, by rwa [blockSize_reverse]⟩
        refine ⟨(row :: readRev).reverse :: full, rest, ?_, ?_, hrest, fun rows items h => ?_⟩
        · rw [List.flatten_cons, List.append_assoc, ← hflat]
          simp
        · exact List.forall_mem_cons.2 ⟨hclosed, hall⟩
        · obtain ⟨tail, htail, hrow⟩ := toList_readOnto_row h readRev (blockSize readRev)
          obtain ⟨tail', htail', hmore⟩ := hread tail items htail
          rw [hsize, if_pos hfull] at hrow
          exact ⟨tail', htail', hrow.trans (congrArg _ hmore)⟩
      · obtain ⟨full, rest, hflat, hall, hrest, hread⟩ :=
          ih (row :: readRev) (Nat.lt_of_not_le hfull)
        refine ⟨full, rest, by rw [← hflat]; simp, hall, hrest, fun rows items h => ?_⟩
        obtain ⟨tail, htail, hrow⟩ := toList_readOnto_row h readRev (blockSize readRev)
        obtain ⟨tail', htail', hmore⟩ := hread tail items htail
        rw [hsize, if_neg hfull] at hrow
        exact ⟨tail', htail', hrow.trans hmore⟩

/-- Rows in order, cut into blocks: no block is empty or goes on after it has reached the budget,
and only the last may end before. -/
structure Cuts (budget : Nat) (rows : List Row) (blocks : List (List Row)) : Prop where
  flatten_eq : blocks.flatten = rows
  ne_nil : ∀ block ∈ blocks, block ≠ []
  dropLast_lt : ∀ block ∈ blocks, blockSize block.dropLast < budget
  le_size : ∀ block ∈ blocks.dropLast, budget ≤ blockSize block

theorem blockSize_dropLast_le (block : List Row) : blockSize block.dropLast ≤ blockSize block := by
  induction block with
  | nil => exact Nat.le_refl _
  | cons row block ih =>
      cases block with
      | nil => exact Nat.zero_le _
      | cons row' block =>
          rw [List.dropLast_cons_cons, blockSize_cons, blockSize_cons row]
          exact Nat.add_le_add_left ih _

theorem cuts_of_full {rs rest : List Row} {full : List (List Row)}
    (hflat : rs = full.flatten ++ rest) (hfull : ∀ block ∈ full, Full budget block)
    (hrest : blockSize rest < budget) : Cuts budget rs (full ++ lastBlock rest) := by
  have hlast : ∀ block ∈ lastBlock rest, block ≠ [] ∧ blockSize block.dropLast < budget := by
    intro block hblock
    by_cases hnil : rest = []
    · simp [lastBlock, hnil] at hblock
    · obtain rfl : block = rest := by simpa [lastBlock, hnil] using hblock
      exact ⟨hnil, Nat.lt_of_le_of_lt (blockSize_dropLast_le block) hrest⟩
  refine ⟨?_, ?_, ?_, ?_⟩
  · by_cases hnil : rest = [] <;> simp [hflat, lastBlock, hnil]
  · exact List.forall_mem_append.2 ⟨fun b hb => (hfull b hb).ne_nil, fun b hb => (hlast b hb).1⟩
  · exact List.forall_mem_append.2
      ⟨fun b hb => (hfull b hb).dropLast_lt, fun b hb => (hlast b hb).2⟩
  · intro block hblock
    refine (hfull block ?_).le_size
    by_cases hnil : rest = []
    · rw [lastBlock, if_pos hnil, List.append_nil] at hblock
      exact List.mem_of_mem_dropLast hblock
    · rwa [lastBlock, if_neg hnil, List.dropLast_concat] at hblock

theorem Cuts.eq_nil_of_append {rs b c : List Row} {blocks blocks' : List (List Row)}
    (h : Cuts budget rs (b :: blocks)) (h' : Cuts budget rs ((b ++ c) :: blocks')) : c = [] := by
  by_contra hc
  have hflat : b ++ blocks.flatten = b ++ (c ++ blocks'.flatten) := by
    rw [← List.append_assoc, ← List.flatten_cons, ← List.flatten_cons, h.flatten_eq, h'.flatten_eq]
  have hne : blocks ≠ [] := by
    rintro rfl
    simp [hc] at hflat
  have hle : budget ≤ blockSize b := by
    refine h.le_size b ?_
    rw [List.dropLast_cons_of_ne_nil hne]
    exact List.mem_cons_self
  have hlt : blockSize (b ++ c).dropLast < budget := h'.dropLast_lt _ List.mem_cons_self
  rw [List.dropLast_append_of_ne_nil hc, blockSize_append] at hlt
  exact Nat.not_le_of_lt hlt (Nat.le_trans hle (Nat.le_add_right _ _))

theorem Cuts.tail {rs b : List Row} {blocks : List (List Row)} (h : Cuts budget rs (b :: blocks)) :
    Cuts budget blocks.flatten blocks where
  flatten_eq := rfl
  ne_nil block hblock := h.ne_nil block (List.mem_cons_of_mem _ hblock)
  dropLast_lt block hblock := h.dropLast_lt block (List.mem_cons_of_mem _ hblock)
  le_size block hblock := by
    refine h.le_size block ?_
    rw [List.dropLast_cons_of_ne_nil]
    · exact List.mem_cons_of_mem _ hblock
    · rintro rfl
      cases hblock

theorem Cuts.unique {rs : List Row} {blocks blocks' : List (List Row)} (h : Cuts budget rs blocks)
    (h' : Cuts budget rs blocks') : blocks = blocks' := by
  induction blocks generalizing rs blocks' with
  | nil =>
      cases blocks' with
      | nil => rfl
      | cons b' blocks' =>
          have hnil : (b' :: blocks').flatten = [] := h'.flatten_eq.trans h.flatten_eq.symm
          exact absurd (List.append_eq_nil_iff.1 hnil).1 (h'.ne_nil b' List.mem_cons_self)
  | cons b blocks ih =>
      cases blocks' with
      | nil =>
          have hnil : (b :: blocks).flatten = [] := h.flatten_eq.trans h'.flatten_eq.symm
          exact absurd (List.append_eq_nil_iff.1 hnil).1 (h.ne_nil b List.mem_cons_self)
      | cons b' blocks' =>
          have hflat : b ++ blocks.flatten = b' ++ blocks'.flatten :=
            h.flatten_eq.trans h'.flatten_eq.symm
          obtain rfl : b = b' := by
            rcases List.append_eq_append_iff.1 hflat with ⟨c, rfl, -⟩ | ⟨c, rfl, -⟩
            · rw [h.eq_nil_of_append h', List.append_nil]
            · rw [h'.eq_nil_of_append h, List.append_nil]
          have htail := h'.tail
          rw [← List.append_cancel_left hflat] at htail
          rw [ih h.tail htail]

/-- With a budget of at least one byte, an input is cut into blocks that depend on its rows alone.
They come out one by one, and then nothing. Where an error follows the rows, the same blocks come
out as far as they have reached the budget, then the error, and then nothing. -/
theorem nexts_ofRows (hbudget : 1 ≤ budget) (rs : List Row) :
    ∃ blocks, Cuts budget rs blocks ∧
      (∀ rows : Rows, rows.toList = rs.map .ok → ∀ n,
        (ofRows budget rows).nexts (blocks.length + n) =
          (blocks.map fun b => .ok (some b)) ++ List.replicate n (.ok none)) ∧
      ∀ (rows : Rows) (e : Error) (more : List (Except Error Row)),
        rows.toList = rs.map .ok ++ .error e :: more → ∀ n,
          let full := blocks.filter fun b => budget ≤ blockSize b
          (ofRows budget rows).nexts (full.length + 1 + n) =
            (full.map fun b => .ok (some b)) ++ .error e :: List.replicate n (.ok none) := by
  obtain ⟨full, rest, hflat, hfull, hrest, hread⟩ := exists_full [] hbudget rs
  have hopen : ∀ rows, ofRows budget rows = readOnto budget [] (blockSize []) rows :=
    fun rows => if_neg (Nat.ne_of_gt hbudget)
  have hfilter : (full ++ lastBlock rest).filter (fun b => budget ≤ blockSize b) = full := by
    rw [List.filter_append, List.filter_eq_self.2 fun b hb => by simpa using (hfull b hb).le_size]
    by_cases hnil : rest = [] <;> simp [lastBlock, hnil, hrest]
  refine ⟨full ++ lastBlock rest, cuts_of_full hflat hfull hrest, ?_, ?_⟩
  · intro rows h n
    obtain ⟨tail, htail, hlist⟩ := hread rows [] (by simpa using h)
    rw [toList_readOnto_nil htail, List.reverse_reverse, ← List.map_append, ← hopen] at hlist
    have hcalls := nexts_eq (ofRows budget rows) n
    rw [hlist] at hcalls
    simpa [Except.map, Function.comp_def] using hcalls
  · intro rows e more h n
    obtain ⟨tail, htail, hlist⟩ := hread rows (.error e :: more) h
    rw [toList_readOnto_error htail, ← hopen] at hlist
    have hcalls := nexts_eq (ofRows budget rows) n
    rw [hlist] at hcalls
    dsimp only
    rw [hfilter]
    simpa [Except.map, Function.comp_def] using hcalls

/-- Rows of 56 bytes in blocks of 100: the second row closes the first block. The third is a block
below the budget where the input ends, and is lost where an error follows it. -/
theorem nexts_ofRows_lost_row :
    let row (i : Int64) : Row := [.integer i]
    let e : Error := .execution .divisionByZero
    1 ≤ 100 ∧
      (ofRows 100 (.ofRows [row 1, row 2, row 3])).nexts 4 =
        [.ok (some [row 1, row 2]), .ok (some [row 3]), .ok none, .ok none] ∧
      (ofRows 100 (.ofList [.ok (row 1), .ok (row 2), .ok (row 3), .error e, .ok (row 4)])).nexts 4 =
        [.ok (some [row 1, row 2]), .error e, .ok none, .ok none] := by
  intro row e
  have hbudget : 1 ≤ 100 := by decide
  obtain ⟨blocks, hcuts, hends, hfails⟩ := nexts_ofRows hbudget [row 1, row 2, row 3]
  obtain rfl : blocks = [[row 1, row 2], [row 3]] := by
    refine hcuts.unique ⟨rfl, ?_, ?_, ?_⟩ <;> simp [blockSize, Row.size, Value.sizeList, Value.size,
      Value.inlineSize, row]
  exact ⟨hbudget, hends _ (Rows.toList_ofRows _) 2,
    hfails _ e [.ok (row 4)] (Rows.toList_ofList _) 2⟩

end Blocks

end QueryEngine
