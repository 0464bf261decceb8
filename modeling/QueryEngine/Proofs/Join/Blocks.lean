import QueryEngine.Join.Block
import QueryEngine.Rows.Lemmas

namespace QueryEngine

namespace Blocks

def toList : Blocks → List (Except Error (List Row))
  | done => []
  | fail e => [.error e]
  | block rows tail => .ok rows :: (tail ()).toList
  | step _ tail => (tail ()).toList

def collect : Blocks → Except Error (List (List Row))
  | done => .ok []
  | fail e => .error e
  | block rows tail => (tail ()).collect.map (rows :: ·)
  | step _ tail => (tail ()).collect

variable (budget : Nat) (rows : Rows)

theorem mem_readOnto {readRev : List Row} {size : Nat} {block : List Row} {row : Row}
    (hb : .ok block ∈ (readOnto budget readRev size rows).toList) (hr : row ∈ block) :
    row ∈ readRev ∨ .ok row ∈ rows.toList := by
  induction rows generalizing readRev size with
  | done =>
      cases readRev with
      | nil => simp [readOnto, toList] at hb
      | cons r readRev =>
          obtain rfl : block = (r :: readRev).reverse := by simpa [readOnto, toList] using hb
          exact .inl (List.mem_reverse.1 hr)
  | item x tail ih =>
      cases x with
      | error e => simp [readOnto, toList] at hb
      | ok head =>
          rw [readOnto] at hb
          split at hb
          · simp only [toList, List.mem_cons, Except.ok.injEq] at hb
            rcases hb with rfl | hb
            · have h : row ∈ head :: readRev := List.mem_reverse.1 hr
              grind [Rows.toList]
            · have h := ih () hb
              grind [Rows.toList]
          · have h := ih () hb
            grind [Rows.toList]
  | step n tail ih => exact ih () (by simpa [readOnto, toList] using hb)

theorem mem_ofRows {block : List Row} {row : Row}
    (hb : .ok block ∈ (ofRows budget rows).toList) (hr : row ∈ block) : .ok row ∈ rows.toList := by
  unfold ofRows at hb
  split at hb
  · simp [toList] at hb
  · simpa using mem_readOnto budget rows hb hr

theorem collect_readOnto (readRev : List Row) (size : Nat) :
    (readOnto budget readRev size rows).collect.map List.flatten =
      rows.collect.map (readRev.reverse ++ ·) := by
  induction rows generalizing readRev size with
  | done => cases readRev <;> simp [readOnto, collect, Rows.collect, Except.map]
  | item x tail ih =>
      cases x with
      | error e => simp [readOnto, collect, Rows.collect, Except.map]
      | ok row =>
          rw [readOnto]
          split
          · have h := ih () [] 0
            cases hb : (readOnto budget [] 0 (tail ())).collect <;>
              cases hr : (tail ()).collect <;> simp_all [collect, Rows.collect, Except.map]
          · have h := ih () (row :: readRev) (size + row.size)
            cases hr : (tail ()).collect <;> simp_all [collect, Rows.collect, Except.map]
  | step n tail ih => simpa [readOnto, collect, Rows.collect] using ih () readRev size

theorem collect_ofRows (hb : budget ≠ 0) :
    (ofRows budget rows).collect.map List.flatten = rows.collect := by
  have h := collect_readOnto budget rows [] 0
  rw [ofRows, if_neg hb, h]
  cases rows.collect <;> simp [Except.map]

end Blocks

end QueryEngine
