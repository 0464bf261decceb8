import QueryEngine.Join.Hash
import QueryEngine.Proofs.Join.Pairing
import QueryEngine.Proofs.Value.Equality

namespace QueryEngine

namespace JoinTable

open Value

def findIn (key : List Value) (entries : List (List Value × List Row)) : List Row :=
  match entries.find? fun entry => sameList entry.1 key with
  | some (_, rows) => rows
  | none => []

theorem find_eq (t : JoinTable) (key : List Value) :
    t.find key = findIn key (t.buckets.getD (keyHash key) []) := rfl

@[simp] theorem find_empty (key : List Value) : find {} key = [] := by
  simp [find_eq, findIn]

theorem findIn_putFirst (key other : List Value) (row : Row)
    (entries : List (List Value × List Row)) :
    findIn other (putFirst key row entries) =
      if sameList key other then row :: findIn other entries else findIn other entries := by
  induction entries with
  | nil => cases h : sameList key other <;> simp [putFirst, findIn, h]
  | cons entry entries ih =>
      obtain ⟨k, rows⟩ := entry
      rw [putFirst]
      by_cases hk : sameList k key = true
      · have hko : sameList k other = sameList key other := sameList_congr_left hk other
        cases h : sameList key other <;> simp [findIn, hk, hko, h]
      · rw [if_neg hk]
        cases hko : sameList k other with
        | false => simpa [findIn, hko] using ih
        | true =>
            have hkey : ¬ sameList key other = true := by
              rwa [sameList_comm, ← sameList_congr_left hko]
            simp [findIn, hko, hkey]

/-- Rows with different keys never meet, not even in one bucket. -/
theorem find_insert (t : JoinTable) (key other : List Value) (row : Row) :
    (t.insert key row).find other =
      if sameList key other then row :: t.find other else t.find other := by
  rw [find_eq, find_eq, insert]
  simp only [Std.HashMap.getD_insert, beq_iff_eq]
  by_cases hh : keyHash key = keyHash other
  · rw [if_pos hh, findIn_putFirst, hh]
  · have hkey : ¬ sameList key other = true := fun h => hh (keyHash_congr h)
    rw [if_neg hh, if_neg hkey]

theorem find_foldr (keyed : List (List Value × Row)) (key : List Value) :
    (keyed.foldr (fun (k, row) t => insert t k row) {}).find key =
      (keyed.filter fun entry => sameList entry.1 key).map (·.2) := by
  induction keyed with
  | nil => simp
  | cons entry keyed ih =>
      cases h : sameList entry.1 key <;> simp [find_insert, ih, h]

theorem keyValues_eq {row : Row} {positions : List Nat} (h : ∀ i ∈ positions, i < row.length) :
    keyValues row positions = .ok (positions.map fun i => row.getD i .null) := by
  induction positions with
  | nil => rfl
  | cons i is ih =>
      have hi : i < row.length := h i List.mem_cons_self
      have his := ih fun i hi => h i (List.mem_cons_of_mem _ hi)
      simp [keyValues, List.getElem?_eq_getElem hi, his, bind, Except.bind, pure, Except.pure]

theorem keyRows_eq {positions : List Nat} {block : List Row}
    (h : ∀ row ∈ block, ∀ i ∈ positions, i < row.length) :
    keyRows positions block =
      .ok (block.map fun row => (positions.map fun i => row.getD i .null, row)) := by
  induction block with
  | nil => rfl
  | cons row rows ih =>
      have hrow := keyValues_eq (h row List.mem_cons_self)
      have hrows := ih fun row hr => h row (List.mem_cons_of_mem _ hr)
      simp [keyRows, hrow, hrows, bind, Except.bind, pure, Except.pure]

theorem find_ofBlock {positions : List Nat} {block : List Row}
    (h : ∀ row ∈ block, ∀ i ∈ positions, i < row.length) :
    ∃ t, ofBlock positions block = .ok t ∧ ∀ key, t.find key =
      block.filter fun row => sameList (positions.map fun i => row.getD i .null) key := by
  refine ⟨_, by rw [ofBlock, keyRows_eq h]; rfl, fun key => ?_⟩
  rw [find_foldr, List.filter_map, List.map_map]
  simp [Function.comp_def]

theorem find_ofBlock_keys {keys : JoinKeys} {block : List Row}
    (h : ∀ row ∈ block, ∀ k ∈ keys, k.2 < row.length) :
    ∃ t, ofBlock (keys.map (·.2)) block = .ok t ∧ ∀ key, t.find key =
      block.filter fun row => sameList ((keys.map (·.2)).map fun i => row.getD i .null) key :=
  find_ofBlock fun row hrow => List.forall_mem_map.2 (h row hrow)

end JoinTable

namespace Rows

theorem collect_ofRows_append (rs : List Row) (after : Unit → Rows) :
    ((ofRows rs).append after).collect = (after ()).collect.map (rs ++ ·) := by
  induction rs with
  | nil => cases h : (after ()).collect <;> simp [ofRows, ofList, append, collect, h, Except.map]
  | cons r rs ih =>
      have h : ((ofRows (r :: rs)).append after).collect =
          ((ofRows rs).append after).collect.map (r :: ·) := rfl
      rw [h, ih]
      cases (after ()).collect <;> simp [Except.map]

theorem collect_probe {m : Row → Row → Bool} {rights : List Row} {positions : List Nat}
    {table : JoinTable} {left : Rows}
    (hkeys : ∀ row, .ok row ∈ left.toList → ∀ i ∈ positions, i < row.length)
    (hfind : ∀ row, .ok row ∈ left.toList →
      table.find (positions.map fun i => row.getD i .null) = rights.filter (m row))
    (next : MatchTracker → Rows) (i : Nat) (t : MatchTracker) :
    (left.probe positions table next i t).collect =
      left.collect.bind fun ls =>
        (next (markRows m rights i t ls)).collect.map (ls.flatMap (pairs m rights) ++ ·) := by
  induction left generalizing i t with
  | done => cases h : (next t).collect <;> simp [probe, collect, markRows, h, Except.bind, Except.map]
  | item x tail ih =>
      cases x with
      | error e => rfl
      | ok row =>
          have htail := ih () (fun r hr => hkeys r (List.mem_cons_of_mem _ hr))
            fun r hr => hfind r (List.mem_cons_of_mem _ hr)
          have hkey := JoinTable.keyValues_eq (hkeys row List.mem_cons_self)
          have hmatches := hfind row List.mem_cons_self
          -- the tracker marks the row exactly if the lookup finds something
          have hprobe : ((item (.ok row) tail).probe positions table next i t).collect =
              ((tail ()).probe positions table next (i + 1) (markRow m rights i t row)).collect.map
                (pairs m rights row ++ ·) := by
            rw [probe, hkey]
            dsimp only
            rw [hmatches]
            cases hf : rights.filter (m row) with
            | nil =>
                have hany : rights.any (m row) = false := by simp_all
                cases h : ((tail ()).probe positions table next (i + 1) t).collect <;>
                  simp [collect, markRow, hany, pairs, hf, h, Except.map]
            | cons r rs =>
                have hany : rights.any (m row) = true := by
                  have hr : r ∈ rights.filter (m row) := by simp [hf]
                  simpa using ⟨r, List.mem_filter.1 hr⟩
                simp only [collect_ofRows_append, markRow, hany, if_true, pairs, hf]
          rw [hprobe, htail, collect]
          cases hc : (tail ()).collect with
          | error e => rfl
          | ok rest =>
              simp only [Except.map, Except.bind, markRows, List.flatMap_cons]
              cases (next _).collect <;> simp
  | step n tail ih => exact ih () hkeys hfind i t

end Rows

end QueryEngine
