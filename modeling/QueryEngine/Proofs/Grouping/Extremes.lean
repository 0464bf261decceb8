import Mathlib.Data.List.Induction
import QueryEngine.Proofs.Grouping.Permuted
import QueryEngine.Proofs.Grouping.Sums

namespace QueryEngine

open Std Value

section

variable {α : Type}

def Earliest (le : α → α → Prop) (l : List α) (m : α) : Prop :=
  ∃ before after, l = before ++ m :: after ∧ (∀ w ∈ l, le m w) ∧ ∀ u ∈ before, ¬ ∀ w ∈ l, le u w

theorem earliest_singleton {le : α → α → Prop} {m : α} (h : le m m) : Earliest le [m] m :=
  ⟨[], [], rfl, by simpa using h, by simp⟩

theorem Earliest.mem {le : α → α → Prop} {l : List α} {m : α} (h : Earliest le l m) : m ∈ l := by
  obtain ⟨before, after, rfl, -, -⟩ := h
  simp

variable {cmp : α → α → Ordering} [TransCmp cmp]

/-- A value at the end takes the place of the earliest least one only if it is strictly less. -/
theorem earliest_concat {l : List α} {m : α} (h : Earliest (fun v w => (cmp v w).isLE) l m) (v : α) :
    Earliest (fun v w => (cmp v w).isLE) (l ++ [v]) (least cmp m v) := by
  obtain ⟨before, after, hl, hle, hbefore⟩ := h
  have hall : ∀ w ∈ l ++ [v], (cmp (least cmp m v) w).isLE := by
    intro w hw
    rcases List.mem_append.1 hw with hw | hw
    · exact TransCmp.isLE_trans (least_le_left m v) (hle w hw)
    · obtain rfl := List.mem_singleton.1 hw
      exact least_le_right m w
  by_cases hlt : cmp v m = .lt
  · have hleast : least cmp m v = v := by simp [least, hlt]
    rw [hleast] at hall ⊢
    refine ⟨l, [], rfl, hall, fun u hu hleu => ?_⟩
    have hmv : (cmp m v).isLE := TransCmp.isLE_trans (hle u hu) (hleu v (by simp))
    rw [OrientedCmp.gt_of_lt hlt] at hmv
    cases hmv
  · have hleast : least cmp m v = m := by simp [least, hlt]
    rw [hleast] at hall ⊢
    refine ⟨before, after ++ [v], by simp [hl], hall, fun u hu hleu => hbefore u hu ?_⟩
    exact fun w hw => hleu w (List.mem_append_left _ hw)

end

namespace Aggregate

def arguments (rows : List (List Value)) : List Value :=
  (rows.map firstArg).filter fun v => !v.isNull

variable {a : Aggregate} {rows rows' : List (List Value)} {args : List Value}

theorem isNull_eq_true_iff {v : Value} : v.isNull = true ↔ v = .null := by
  cases v <;> simp [isNull]

theorem arguments_concat_null (hargs : firstArg args = .null) :
    arguments (rows ++ [args]) = arguments rows := by
  simp [arguments, hargs, isNull]

theorem arguments_concat (hargs : firstArg args ≠ .null) :
    arguments (rows ++ [args]) = arguments rows ++ [firstArg args] := by
  simp [arguments, mt isNull_eq_true_iff.1 hargs]

theorem arguments_eq_nil_iff : arguments rows = [] ↔ ∀ args ∈ rows, firstArg args = .null := by
  simp [arguments, isNull_eq_true_iff]

/-- A value is NULL where all arguments are, and otherwise the earliest of the arguments that are in
the relation to all of them. -/
structure Extreme (le : Value → Value → Prop) (rows : List (List Value)) (v : Value) : Prop where
  eq_null_iff : v = .null ↔ ∀ args ∈ rows, firstArg args = .null
  earliest : v ≠ .null → Earliest le (arguments rows) v

section

variable (cmp : Value → Value → Ordering) [TransCmp cmp]

theorem Extreme.exists_combine {s : Value} (h : Extreme (fun v w => (cmp v w).isLE) rows s)
    (args : List Value) : ∃ t, skipNulls (fun s v => .ok (least cmp s v)) s args = .ok t ∧
      Extreme (fun v w => (cmp v w).isLE) (rows ++ [args]) t := by
  by_cases hargs : firstArg args = .null
  · refine ⟨s, by cases s <;> simp [skipNulls, hargs], ?_, ?_⟩
    · simp [h.eq_null_iff, or_imp, forall_and, hargs]
    · rw [arguments_concat_null hargs]
      exact h.earliest
  · have hsome : ¬ ∀ args' ∈ rows ++ [args], firstArg args' = .null := fun hall =>
      hargs (hall args (by simp))
    by_cases hs : s = .null
    · -- the first argument that is not NULL seeds the state
      have hnil : arguments rows = [] := arguments_eq_nil_iff.2 (h.eq_null_iff.1 hs)
      refine ⟨firstArg args, ?_, iff_of_false hargs hsome, fun _ => ?_⟩
      · subst hs
        unfold skipNulls
        split <;> simp_all
      · rw [arguments_concat hargs, hnil]
        exact earliest_singleton ReflCmp.isLE_rfl
    · have hne : least cmp s (firstArg args) ≠ .null := by
        unfold least
        split
        · exact hargs
        · exact hs
      refine ⟨least cmp s (firstArg args), ?_, iff_of_false hne hsome, fun _ => ?_⟩
      · unfold skipNulls
        split <;> simp_all
      · rw [arguments_concat hargs]
        exact earliest_concat (h.earliest hs) _

theorem exists_fold_extreme (hinitial : a.initial = .null)
    (hcombine : a.combine = skipNulls fun s v => .ok (least cmp s v)) (rows : List (List Value)) :
    ∃ v, a.fold rows = .ok v ∧ Extreme (fun v w => (cmp v w).isLE) rows v := by
  induction rows using List.reverseRecOn with
  | nil => exact ⟨.null, by rw [← hinitial]; rfl, by simp, fun h => absurd rfl h⟩
  | append_singleton rows args ih =>
      obtain ⟨s, hs, hextreme⟩ := ih
      obtain ⟨t, ht, hextreme'⟩ := hextreme.exists_combine cmp args
      exact ⟨t, by rw [fold_concat, hs, ok_bind, hcombine, ht], hextreme'⟩

variable {cmp} in
theorem Extreme.cmp_eq {v v' : Value} (h : Extreme (fun v w => (cmp v w).isLE) rows v)
    (h' : Extreme (fun v w => (cmp v w).isLE) rows' v') (hperm : rows.Perm rows') :
    cmp v v' = .eq := by
  by_cases hv : v = .null
  · have hv' : v' = .null := h'.eq_null_iff.2 fun args hargs =>
      h.eq_null_iff.1 hv args (hperm.mem_iff.2 hargs)
    rw [hv, hv']
    exact ReflCmp.compare_self
  · have hv' : v' ≠ .null := fun hnull => hv <| h.eq_null_iff.2 fun args hargs =>
      h'.eq_null_iff.1 hnull args (hperm.mem_iff.1 hargs)
    have hmem (w : Value) : w ∈ arguments rows ↔ w ∈ arguments rows' :=
      ((hperm.map firstArg).filter _).mem_iff
    obtain ⟨_, _, -, hle, -⟩ := h.earliest hv
    obtain ⟨_, _, -, hle', -⟩ := h'.earliest hv'
    exact OrientedCmp.isLE_antisymm (hle v' ((hmem v').2 (h'.earliest hv').mem))
      (hle' v ((hmem v).1 (h.earliest hv).mem))

end

/-- Whatever kinds of values the arguments are, `min` gives the earliest of those that come before
all others or are equal to them, `max` the earliest of those that come after, and both give NULL
exactly if there are only NULLs. If the rows are permuted, the result is equal. -/
theorem fold_min_max (hperm : rows.Perm rows') :
    (∃ v v', min.fold rows = .ok v ∧ min.fold rows' = .ok v' ∧
      Extreme (fun v w => (v.cmp w).isLE) rows v ∧ v.same v' = true) ∧
    ∃ v v', max.fold rows = .ok v ∧ max.fold rows' = .ok v' ∧
      Extreme (fun v w => (v.cmp w).isGE) rows v ∧ v.same v' = true := by
  have hmin := exists_fold_extreme (a := min) Value.cmp rfl rfl
  have hmax := exists_fold_extreme (a := max) (fun v w => w.cmp v) rfl combine_max
  constructor
  · obtain ⟨v, hv, hextreme⟩ := hmin rows
    obtain ⟨v', hv', hextreme'⟩ := hmin rows'
    exact ⟨v, v', hv, hv', hextreme, by simp [same, hextreme.cmp_eq hextreme' hperm]⟩
  · obtain ⟨v, hv, hextreme⟩ := hmax rows
    obtain ⟨v', hv', hextreme'⟩ := hmax rows'
    refine ⟨v, v', hv, hv', ?_, ?_⟩
    · simpa only [OrientedCmp.isGE_iff_isLE] using hextreme
    · rw [same_comm]
      simp [same, hextreme.cmp_eq hextreme' hperm]

/-- The integer one and the float one are equal and less than a text, and the two lists are equal
and greater. Which of the two comes out hangs on the order of the rows. -/
theorem fold_min_max_ties :
    let one : Value := .float (Binary64.ofInt 1)
    let rows : List (List Value) := [[.null], [.list [.integer 1]], [.string "b"], [.integer 1],
      [.list [one]], [one], [.null]]
    rows.Perm rows.reverse ∧ min.fold rows = .ok (.integer 1) ∧ min.fold rows.reverse = .ok one ∧
      (Value.integer 1).same one = true ∧ max.fold rows = .ok (.list [.integer 1]) ∧
        max.fold rows.reverse = .ok (.list [one]) := by
  intro one rows
  have hperm : rows.Perm rows.reverse := (List.reverse_perm rows).symm
  obtain ⟨⟨v, v', hv, hv', -, hsame⟩, w, w', hw, hw', -, -⟩ := fold_min_max hperm
  obtain rfl : .integer 1 = v := Except.ok.inj hv
  obtain rfl : one = v' := Except.ok.inj hv'
  obtain rfl : .list [.integer 1] = w := Except.ok.inj hw
  obtain rfl : .list [one] = w' := Except.ok.inj hw'
  exact ⟨hperm, hv, hv', hsame, hw, hw'⟩

end Aggregate

end QueryEngine
