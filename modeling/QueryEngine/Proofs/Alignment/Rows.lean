import QueryEngine.Physical.Basic
import QueryEngine.Proofs.Alignment.Faults
import QueryEngine.Rows.Lemmas

namespace QueryEngine

namespace Rows

/-- An item that is a row of `n` values or an error that is not an internal one. -/
def ItemAligned (n : Nat) : Except Error Row → Prop
  | .ok row => row.length = n
  | .error e => e.kind ≠ .internal

def Aligned (n : Nat) (rows : Rows) : Prop :=
  ∀ x ∈ rows.toList, ItemAligned n x

variable {n m : Nat} {rows : Rows}

@[simp] theorem aligned_done : done.Aligned n := by
  simp [Aligned]

@[simp] theorem aligned_item {x : Except Error Row} {tail : Unit → Rows} :
    (item x tail).Aligned n ↔ ItemAligned n x ∧ (tail ()).Aligned n := by
  simp [Aligned]

@[simp] theorem aligned_step {k : Nat} {tail : Unit → Rows} :
    (step k tail).Aligned n ↔ (tail ()).Aligned n :=
  Iff.rfl

@[simp] theorem aligned_fail {e : Error} : (fail e).Aligned n ↔ e.kind ≠ .internal := by
  simp [Aligned, ItemAligned]

@[simp] theorem aligned_single {row : Row} : (single row).Aligned n ↔ row.length = n := by
  simp [Aligned, ItemAligned]

@[simp] theorem aligned_ofRows {rs : List Row} :
    (ofRows rs).Aligned n ↔ ∀ r ∈ rs, r.length = n := by
  simp [Aligned, ItemAligned]

@[simp] theorem aligned_append {after : Unit → Rows} :
    (rows.append after).Aligned n ↔ rows.Aligned n ∧ (after ()).Aligned n := by
  simp [Aligned, or_imp, forall_and]

theorem Aligned.filter (h : rows.Aligned n) {p : Row → Except Error Bool}
    (hp : ∀ row : Row, row.length = n → External (p row)) : (rows.filter p).Aligned n := by
  induction rows with
  | done => exact h
  | step k tail ih => exact ih () h
  | item x tail ih =>
      obtain ⟨hx, htail⟩ := aligned_item.1 h
      have ih := ih () htail
      cases x with
      | error e => exact aligned_item.2 ⟨hx, ih⟩
      | ok row =>
          rw [Rows.filter]
          split
          · exact aligned_item.2 ⟨hx, ih⟩
          · exact ih
          · next e he => exact aligned_item.2 ⟨hp row hx e he, ih⟩

theorem Aligned.mapRows (h : rows.Aligned n) {f : Row → Except Error Row}
    (hf : ∀ row : Row, row.length = n → ItemAligned m (f row)) : (rows.mapRows f).Aligned m := by
  rw [Aligned, toList_mapRows]
  intro y hy
  obtain ⟨x, hx, rfl⟩ := List.mem_map.1 hy
  cases x with
  | error e => exact h _ hx
  | ok row => exact hf row (h _ hx)

theorem Aligned.flatMap (h : rows.Aligned n) {f : Row → List Row}
    (hf : ∀ row : Row, row.length = n → ∀ r ∈ f row, r.length = m) :
    (rows.flatMap f).Aligned m := by
  rw [Aligned, toList_flatMap]
  intro y hy
  obtain ⟨x, hx, hy⟩ := List.mem_flatMap.1 hy
  cases x with
  | error e =>
      obtain rfl := List.mem_singleton.1 hy
      exact h _ hx
  | ok row =>
      obtain ⟨r, hr, rfl⟩ := List.mem_map.1 hy
      exact hf row (h _ hx) r hr

theorem mem_of_mem_dropOk {k : Nat} {xs : List (Except Error Row)} {x : Except Error Row}
    (h : x ∈ dropOk k xs) : x ∈ xs := by
  induction xs generalizing k with
  | nil => cases k <;> exact h
  | cons y xs ih =>
      cases k with
      | zero => exact h
      | succ k =>
          cases y with
          | ok row => exact List.mem_cons_of_mem _ (ih h)
          | error e =>
              rcases List.mem_cons.1 h with rfl | h
              · exact List.mem_cons_self
              · exact List.mem_cons_of_mem _ (ih h)

theorem Aligned.limit (h : rows.Aligned n) (start stop : Option Nat) :
    (rows.limit start stop).Aligned n := by
  have hskip : (rows.skip (start.getD 0)).Aligned n := by
    intro x hx
    rw [toList_skip] at hx
    exact h x (mem_of_mem_dropOk hx)
  cases stop with
  | none => exact hskip
  | some stop =>
      intro x hx
      rw [Rows.limit, toList_take] at hx
      exact hskip x (List.mem_of_mem_take hx)

variable {ctx : Context}

theorem Aligned.sortOnto (h : rows.Aligned n) {keys : List SortKey}
    (hkeys : Scalar.FitsList n (keys.map (·.expr))) {readRev : List (List Value × Row)}
    (hread : ∀ entry ∈ readRev, entry.2.length = n) :
    (rows.sortOnto ctx keys readRev).Aligned n := by
  induction rows generalizing readRev with
  | step k tail ih => exact ih () h hread
  | done =>
      rw [Rows.sortOnto, aligned_ofRows]
      intro r hr
      obtain ⟨entry, hentry, rfl⟩ := List.mem_map.1 hr
      exact hread entry (List.mem_reverse.1 (List.mem_mergeSort.1 hentry))
  | item x tail ih =>
      obtain ⟨hx, htail⟩ := aligned_item.1 h
      cases x with
      | error e => exact aligned_fail.2 hx
      | ok row =>
          rw [Rows.sortOnto]
          split
          · refine ih () htail fun entry hentry => ?_
            rcases List.mem_cons.1 hentry with rfl | hentry
            · exact hx
            · exact hread entry hentry
          · next e he => exact aligned_fail.2 (hkeys ctx row hx e he)

end Rows

end QueryEngine
