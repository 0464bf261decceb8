import QueryEngine.Physical.Compile
import QueryEngine.Proofs.Physical.Sorting
import QueryEngine.Proofs.Value.Equality

namespace QueryEngine

open Std

namespace Value

instance : TransCmp cmpList where
  eq_swap {as bs} := by
    have hswap : cmp (.list as) (.list bs) = (cmp (.list bs) (.list as)).swap := OrientedCmp.eq_swap
    exact hswap
  isLE_trans {as bs cs} hab hbc := by
    have htrans (h : (cmp (.list as) (.list bs)).isLE) (h' : (cmp (.list bs) (.list cs)).isLE) :
        (cmp (.list as) (.list cs)).isLE := TransCmp.isLE_trans h h'
    exact htrans hab hbc

theorem cmpList_self (as : List Value) : cmpList as as = .eq :=
  ReflCmp.compare_self

theorem cmpList_total (as bs : List Value) : (cmpList as bs).isLE || (cmpList bs as).isLE := by
  have hswap : cmpList bs as = (cmpList as bs).swap := OrientedCmp.eq_swap
  rw [hswap]
  cases cmpList as bs <;> rfl

theorem sameList_eq_false_of_lt {as bs : List Value} (h : cmpList as bs = .lt) :
    sameList as bs = false ∧ sameList bs as = false := by
  have hne : sameList as bs = false := by simp [sameList, h]
  exact ⟨hne, by rw [sameList_comm, hne]⟩

end Value

open Value

/-- Rows in the order of their keys; rows with the same key keep their order. -/
def sortedByKey (keyOf : Row → List Value) (rows : List Row) : List Row :=
  rows.mergeSort fun r r' => (cmpList (keyOf r) (keyOf r')).isLE

/-- A list of rows divided by their keys: every class is all rows with the key of one of them, in
the order of the list, and the keys ascend from class to class. -/
structure Classes (keyOf : Row → List Value) (rows : List Row) (classes : List (List Row)) :
    Prop where
  ascending : classes.Pairwise fun c d => ∀ r ∈ c, ∀ r' ∈ d, cmpList (keyOf r) (keyOf r') = .lt
  class_eq : ∀ c ∈ classes, ∃ r ∈ c, c = rows.filter fun r' => sameList (keyOf r') (keyOf r)
  covers : ∀ r ∈ rows, ∃ c ∈ classes, r ∈ c

namespace Classes

variable {keyOf : Row → List Value} {rows : List Row} {classes : List (List Row)}

theorem same_of_mem (h : Classes keyOf rows classes) {c : List Row} (hc : c ∈ classes) {r r' : Row}
    (hr : r ∈ c) (hr' : r' ∈ c) : sameList (keyOf r) (keyOf r') = true := by
  obtain ⟨s, -, rfl⟩ := h.class_eq c hc
  rw [sameList_congr_left (List.mem_filter.1 hr).2, sameList_comm]
  exact (List.mem_filter.1 hr').2

theorem mem_rows (h : Classes keyOf rows classes) {c : List Row} (hc : c ∈ classes) {r : Row}
    (hr : r ∈ c) : r ∈ rows := by
  obtain ⟨s, -, rfl⟩ := h.class_eq c hc
  exact (List.mem_filter.1 hr).1

theorem exists_mapM (h : Classes keyOf rows classes) {β : Type} {f : List Row → Except Error β}
    (hf : ∀ r ∈ rows, ∃ b, f (rows.filter fun r' => sameList (keyOf r') (keyOf r)) = .ok b) :
    ∃ bs, classes.mapM f = .ok bs := by
  refine QueryEngine.exists_mapM fun c hc => ?_
  obtain ⟨r, hr, hcr⟩ := h.class_eq c hc
  rw [hcr]
  exact hf r (h.mem_rows hc hr)

theorem ne_nil (h : Classes keyOf rows classes) {c : List Row} (hc : c ∈ classes) : c ≠ [] := by
  obtain ⟨r, hr, -⟩ := h.class_eq c hc
  exact List.ne_nil_of_mem hr

theorem mem_iff (h : Classes keyOf rows classes) {c : List Row} :
    c ∈ classes ↔ ∃ r ∈ rows, c = rows.filter fun r' => sameList (keyOf r') (keyOf r) := by
  constructor
  · intro hc
    obtain ⟨r, hr, hcr⟩ := h.class_eq c hc
    exact ⟨r, h.mem_rows hc hr, hcr⟩
  · rintro ⟨r, hr, rfl⟩
    obtain ⟨c, hc, hrc⟩ := h.covers r hr
    obtain ⟨s, hs, hcs⟩ := h.class_eq c hc
    have hfilter : rows.filter (fun r' => sameList (keyOf r') (keyOf r)) = c := by
      rw [hcs]
      refine List.filter_congr fun r' _ => ?_
      rw [sameList_comm, sameList_congr_left (h.same_of_mem hc hrc hs), sameList_comm]
    rwa [hfilter]

theorem not_ascending (h : Classes keyOf rows classes) {c : List Row} (hc : c ∈ classes) :
    ¬∀ r ∈ c, ∀ r' ∈ c, cmpList (keyOf r) (keyOf r') = .lt := by
  intro hlt
  obtain ⟨r, hr, -⟩ := h.class_eq c hc
  have := hlt r hr r hr
  rw [cmpList_self] at this
  cases this

theorem nodup (h : Classes keyOf rows classes) : classes.Nodup := by
  refine h.ascending.imp_of_mem fun hc _ hlt hcd => ?_
  subst hcd
  exact h.not_ascending hc hlt

theorem unique {classes' : List (List Row)} (h : Classes keyOf rows classes)
    (h' : Classes keyOf rows classes') : classes = classes' := by
  have hperm : classes.Perm classes' :=
    (List.perm_ext_iff_of_nodup h.nodup h'.nodup).2 fun c => h.mem_iff.trans h'.mem_iff.symm
  refine hperm.eq_of_pairwise (fun c d hc hd hcd hdc => ?_) h.ascending h'.ascending
  obtain ⟨s, hs, -⟩ := h'.class_eq d hd
  exact absurd (fun r hr r' hr' => TransCmp.lt_trans (hcd r hr s hs) (hdc s hs r' hr'))
    (h.not_ascending hc)

theorem nil : Classes keyOf [] [] :=
  ⟨.nil, by simp, by simp⟩

theorem singleton (hne : rows ≠ [])
    (hsame : ∀ r ∈ rows, ∀ r' ∈ rows, sameList (keyOf r) (keyOf r') = true) :
    Classes keyOf rows [rows] := by
  obtain ⟨r, hr⟩ := List.exists_mem_of_ne_nil rows hne
  refine ⟨List.pairwise_singleton _ _, ?_, fun r' hr' => ⟨rows, List.mem_cons_self, hr'⟩⟩
  intro c hc
  obtain rfl := List.mem_singleton.1 hc
  exact ⟨r, hr, (List.filter_eq_self.2 fun r' hr' => hsame r' hr' r hr).symm⟩

theorem cons {run rest : List Row} {r : Row} (h : Classes keyOf rest classes) (hr : r ∈ run)
    (hrun : ∀ r' ∈ run, sameList (keyOf r') (keyOf r) = true)
    (hrest : ∀ r' ∈ rest, cmpList (keyOf r) (keyOf r') = .lt) :
    Classes keyOf (run ++ rest) (run :: classes) := by
  have hlt : ∀ s ∈ run, ∀ r' ∈ rest, cmpList (keyOf s) (keyOf r') = .lt := by
    intro s hs r' hr'
    have hsame : cmpList (keyOf s) (keyOf r) = .eq := by simpa [sameList] using hrun s hs
    exact TransCmp.lt_of_eq_of_lt hsame (hrest r' hr')
  refine ⟨?_, ?_, ?_⟩
  · rw [List.pairwise_cons]
    exact ⟨fun d hd s hs r' hr' => hlt s hs r' (h.mem_rows hd hr'), h.ascending⟩
  · intro c hc
    rcases List.mem_cons.1 hc with rfl | hc
    · refine ⟨r, hr, ?_⟩
      have hnone : rest.filter (fun r' => sameList (keyOf r') (keyOf r)) = [] := by
        rw [List.filter_eq_nil_iff]
        intro r' hr'
        simp [(sameList_eq_false_of_lt (hrest r' hr')).2]
      rw [List.filter_append, hnone, List.append_nil, List.filter_eq_self.2 hrun]
    · obtain ⟨s, hs, hcs⟩ := h.class_eq c hc
      refine ⟨s, hs, ?_⟩
      have hnone : run.filter (fun r' => sameList (keyOf r') (keyOf s)) = [] := by
        rw [List.filter_eq_nil_iff]
        intro r' hr'
        simp [(sameList_eq_false_of_lt (hlt r' hr' s (h.mem_rows hc hs))).1]
      rw [List.filter_append, hnone, List.nil_append, ← hcs]
  · intro s hs
    rcases List.mem_append.1 hs with hs | hs
    · exact ⟨run, List.mem_cons_self, hs⟩
    · obtain ⟨c, hc, hsc⟩ := h.covers s hs
      exact ⟨c, List.mem_cons_of_mem _ hc, hsc⟩

theorem exists_of_sorted (rows : List Row)
    (h : rows.Pairwise fun r r' => (cmpList (keyOf r) (keyOf r')).isLE) :
    ∃ classes, Classes keyOf rows classes ∧ classes.flatten = rows := by
  match rows with
  | [] => exact ⟨[], .nil, rfl⟩
  | r :: rest =>
      let p := fun r' => sameList (keyOf r') (keyOf r)
      obtain ⟨hr, hsorted⟩ := List.pairwise_cons.1 h
      have hself : sameList (keyOf r) (keyOf r) = true := by simp [sameList, cmpList_self]
      have hdrop : (rest.dropWhile p).Pairwise fun r r' => (cmpList (keyOf r) (keyOf r')).isLE :=
        hsorted.sublist (List.dropWhile_sublist p)
      -- what follows the first run is not less than its own first row, which is greater than `r`
      have hgreater : ∀ r' ∈ rest.dropWhile p, cmpList (keyOf r) (keyOf r') = .lt := by
        intro r' hr'
        cases hd : rest.dropWhile p with
        | nil => simp [hd] at hr'
        | cons s tail =>
            have hs : sameList (keyOf s) (keyOf r) = false := by
              have := List.head?_dropWhile_not p rest
              simpa [hd, p] using this
            have hle := hr s ((List.dropWhile_sublist p).mem (by simp [hd]))
            have hlt : cmpList (keyOf r) (keyOf s) = .lt := by
              rw [sameList_comm] at hs
              cases hc : cmpList (keyOf r) (keyOf s) <;> simp_all [sameList]
            rw [hd, List.pairwise_cons] at hdrop
            rw [hd] at hr'
            rcases List.mem_cons.1 hr' with rfl | hr'
            · exact hlt
            · exact TransCmp.lt_of_lt_of_isLE hlt (hdrop.1 r' hr')
      have hlength : (rest.dropWhile p).length < rest.length + 1 :=
        Nat.lt_succ_of_le (List.dropWhile_sublist p).length_le
      obtain ⟨classes, hclasses, hflat⟩ := exists_of_sorted (rest.dropWhile p) hdrop
      have hsplit : r :: rest = (r :: rest.takeWhile p) ++ rest.dropWhile p := by simp
      refine ⟨(r :: rest.takeWhile p) :: classes, ?_, ?_⟩
      · rw [hsplit]
        refine hclasses.cons List.mem_cons_self ?_ hgreater
        intro r' hr'
        rcases List.mem_cons.1 hr' with rfl | hr'
        · exact hself
        · exact List.all_eq_true.1 List.all_takeWhile r' hr'
      · rw [List.flatten_cons, hflat, ← hsplit]
termination_by rows.length
decreasing_by exact hlength

/-- A stable sort by the keys has the classes of what it sorts. -/
theorem of_sortedByKey (h : Classes keyOf (sortedByKey keyOf rows) classes) :
    Classes keyOf rows classes := by
  refine ⟨h.ascending, fun c hc => ?_, fun r hr => h.covers r (List.mem_mergeSort.2 hr)⟩
  obtain ⟨r, hr, hcr⟩ := h.class_eq c hc
  refine ⟨r, hr, hcr.trans ?_⟩
  rw [sortedByKey, filter_mergeSort (fun _ _ _ => TransCmp.isLE_trans) fun a b =>
    cmpList_total (keyOf a) (keyOf b)]
  -- rows with one key are in order as they stand
  apply List.mergeSort_of_pairwise
  rw [List.pairwise_filter]
  refine List.pairwise_of_forall fun a b ha hb => ?_
  rw [sameList_comm] at hb
  have hab : cmpList (keyOf a) (keyOf b) = .eq :=
    TransCmp.eq_trans (by simpa [sameList] using ha) (by simpa [sameList] using hb)
  simp [hab]

end Classes

theorem exists_classes (keyOf : Row → List Value) (rows : List Row) :
    ∃ classes, Classes keyOf rows classes ∧ classes.flatten = sortedByKey keyOf rows := by
  have hsorted : (sortedByKey keyOf rows).Pairwise _ :=
    List.pairwise_mergeSort (fun _ _ _ => TransCmp.isLE_trans) (fun _ _ => cmpList_total _ _) rows
  obtain ⟨classes, hclasses, hflat⟩ := Classes.exists_of_sorted _ hsorted
  exact ⟨classes, hclasses.of_sortedByKey, hflat⟩

end QueryEngine
