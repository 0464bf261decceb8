import QueryEngine.Proofs.Grouping.Runs
import QueryEngine.Proofs.Value.Numbers

namespace QueryEngine

open Number

namespace Aggregate

def fold (a : Aggregate) (rows : List (List Value)) : Except Error Value :=
  rows.foldlM a.combine a.initial

variable {a : Aggregate} {rows : List (List Value)} {n : Nat}

theorem fold_concat (a : Aggregate) (rows : List (List Value)) (args : List Value) :
    a.fold (rows ++ [args]) = a.fold rows >>= fun s => a.combine s args := by
  rw [fold, List.foldlM_append]
  simp only [List.foldlM_cons, List.foldlM_nil, pure_eq, bind_ok]
  rfl

theorem fold_take_succ (hn : n < rows.length) :
    a.fold (rows.take (n + 1)) = a.fold (rows.take n) >>= fun s => a.combine s rows[n] := by
  rw [List.take_succ_eq_append_getElem hn, fold_concat]

theorem fold_eq_error (hn : n < rows.length) {s : Value} {e : Error}
    (hs : a.fold (rows.take n) = .ok s) (he : a.combine s rows[n] = .error e) :
    a.fold rows = .error e := by
  have hprefix : a.fold (rows.take (n + 1)) = .error e := by
    rw [fold_take_succ hn, hs, ok_bind, he]
  rw [← List.take_append_drop (n + 1) rows, fold, List.foldlM_append]
  exact congrArg (· >>= _) hprefix

/-- What an argument adds to a sum of integers; NULL adds nothing. -/
def addend : Value → Int
  | .integer i => i.toInt
  | _ => 0

def total (rows : List (List Value)) : Int :=
  (rows.map fun args => addend (firstArg args)).sum

theorem total_concat (rows : List (List Value)) (args : List Value) :
    total (rows ++ [args]) = total rows + addend (firstArg args) := by
  simp [total]

theorem total_of_null (h : ∀ args ∈ rows, firstArg args = .null) : total rows = 0 := by
  refine List.sum_eq_zero fun n hn => ?_
  obtain ⟨args, hargs, rfl⟩ := List.mem_map.1 hn
  rw [h args hargs]
  rfl

/-- The state of a sum after some rows: NULL before the first integer, and then the sum of all of
them. -/
inductive Sums (rows : List (List Value)) : Value → Prop
  | none (h : ∀ args ∈ rows, firstArg args = .null) : Sums rows .null
  | some {i : Int64} (hsome : ∃ args ∈ rows, firstArg args ≠ .null) (h : i.toInt = total rows) :
      Sums rows (.integer i)

variable {args : List Value} {s : Value}

theorem Sums.inInt64 (h : Sums rows s) : inInt64 (total rows) = true := by
  cases h with
  | none h => rw [total_of_null h]; rfl
  | @some i _ h => exact inInt64_iff.2 ⟨i, h⟩

theorem combine_sum_null (hargs : firstArg args = .null) : sum.combine s args = .ok s := by
  cases s <;> simp [sum, skipNulls, hargs]

theorem combine_sum_integer {i j : Int64} (hargs : firstArg args = .integer j) :
    sum.combine (.integer i) args = Operation.integerArithmetic .plus i j := by
  simp [sum, skipNulls, hargs, Operation.binary, Operation.arithmetic]

theorem Sums.combine_null (h : Sums rows s) (hargs : firstArg args = .null) :
    Sums (rows ++ [args]) s := by
  have htotal : total (rows ++ [args]) = total rows := by simp [total_concat, hargs, addend]
  cases h with
  | none h => exact .none (by simpa [or_imp, forall_and, hargs] using h)
  | some hsome h =>
      obtain ⟨args', hargs', hne⟩ := hsome
      exact .some ⟨args', List.mem_append_left _ hargs', hne⟩ (h.trans htotal.symm)

theorem Sums.exists_combine (h : Sums rows s)
    (hargs : firstArg args = .null ∨ ∃ i, firstArg args = .integer i)
    (hrange : Number.inInt64 (total (rows ++ [args])) = true) :
    ∃ t, sum.combine s args = .ok t ∧ Sums (rows ++ [args]) t := by
  obtain hargs | ⟨j, hargs⟩ := hargs
  · exact ⟨s, combine_sum_null hargs, h.combine_null hargs⟩
  · have hsome : ∃ args' ∈ rows ++ [args], firstArg args' ≠ .null :=
      ⟨args, by simp, by simp [hargs]⟩
    have htotal : total (rows ++ [args]) = total rows + j.toInt := by
      rw [total_concat, hargs, addend]
    cases h with
    | none h =>
        -- the first integer seeds the sum
        refine ⟨.integer j, by simp [sum, skipNulls, hargs], .some hsome ?_⟩
        rw [htotal, total_of_null h, Int.zero_add]
    | @some i _ h =>
        rw [htotal, ← h] at hrange
        refine ⟨.integer (.ofInt (i.toInt + j.toInt)), ?_, .some hsome ?_⟩
        · rw [combine_sum_integer hargs]
          simp [Operation.integerArithmetic, Operation.checked?, hrange]
        · obtain ⟨k, hk⟩ := inInt64_iff.1 hrange
          rw [htotal, ← h, ← hk, Int64.ofInt_toInt]

theorem Sums.exists_overflow (h : Sums rows s)
    (hargs : firstArg args = .null ∨ ∃ i, firstArg args = .integer i)
    (hrange : Number.inInt64 (total (rows ++ [args])) = false) :
    ∃ i j, s = .integer i ∧ i.toInt = total rows ∧ firstArg args = .integer j ∧
      sum.combine s args = .error (.execution (.overflow .plus i j)) := by
  obtain hargs | ⟨j, hargs⟩ := hargs
  · rw [(h.combine_null hargs).inInt64] at hrange
    cases hrange
  · have htotal : total (rows ++ [args]) = total rows + j.toInt := by
      rw [total_concat, hargs, addend]
    cases h with
    | none h =>
        rw [htotal, total_of_null h, Int.zero_add, inInt64_iff.2 ⟨j, rfl⟩] at hrange
        cases hrange
    | @some i _ h =>
        rw [htotal, ← h] at hrange
        refine ⟨i, j, rfl, h, hargs, ?_⟩
        rw [combine_sum_integer hargs]
        simp [Operation.integerArithmetic, Operation.checked?, hrange]

/-- As long as the sums of all prefixes are in range, the state is the sum of the rows so far. -/
theorem exists_fold_sum (h : ∀ args ∈ rows, firstArg args = .null ∨ ∃ i, firstArg args = .integer i)
    (hrange : ∀ m ≤ n, Number.inInt64 (total (rows.take m)) = true) :
    ∃ s, sum.fold (rows.take n) = .ok s ∧ Sums (rows.take n) s := by
  induction n with
  | zero => exact ⟨.null, rfl, .none (by simp)⟩
  | succ n ih =>
      obtain ⟨s, hs, hsums⟩ := ih fun m hm => hrange m (Nat.le_succ_of_le hm)
      rcases Nat.lt_or_ge n rows.length with hn | hn
      · have hsucc := hrange (n + 1) (Nat.le_refl _)
        rw [List.take_succ_eq_append_getElem hn] at hsucc
        obtain ⟨t, ht, hsums'⟩ := hsums.exists_combine (h _ (List.getElem_mem hn)) hsucc
        refine ⟨t, by rw [fold_take_succ hn, hs, ok_bind, ht], ?_⟩
        rwa [List.take_succ_eq_append_getElem hn]
      · rw [List.take_of_length_le hn] at hs hsums
        rw [List.take_of_length_le (by omega)]
        exact ⟨s, hs, hsums⟩

/-- The sum of integers and NULLs is NULL if there are only NULLs, and the exact sum of the integers
if the sums of all prefixes are integers in range. Otherwise it fails at the first row where such a
sum leaves the range, whatever comes after. -/
theorem fold_sum_exact
    (h : ∀ args ∈ rows, firstArg args = .null ∨ ∃ i, firstArg args = .integer i) :
    ((∀ args ∈ rows, firstArg args = .null) → sum.fold rows = .ok .null) ∧
    ((∃ args ∈ rows, firstArg args ≠ .null) →
      (∀ n, Number.inInt64 (total (rows.take n)) = true) →
        ∃ i, sum.fold rows = .ok (.integer i) ∧ i.toInt = total rows) ∧
    ∀ n, (∀ m ≤ n, Number.inInt64 (total (rows.take m)) = true) →
      Number.inInt64 (total (rows.take (n + 1))) = false →
        ∃ (hn : n < rows.length) (i j : Int64), i.toInt = total (rows.take n) ∧
          firstArg rows[n] = .integer j ∧ sum.fold (rows.take n) = .ok (.integer i) ∧
            sum.combine (.integer i) rows[n] = .error (.execution (.overflow .plus i j)) ∧
              sum.fold rows = .error (.execution (.overflow .plus i j)) := by
  have hwhole (hrange : ∀ n, Number.inInt64 (total (rows.take n)) = true) :
      ∃ s, sum.fold rows = .ok s ∧ Sums rows s := by
    simpa using exists_fold_sum (n := rows.length) h fun m _ => hrange m
  refine ⟨fun hnull => ?_, fun hsome hrange => ?_, fun n hrange hout => ?_⟩
  · have hrange (n : Nat) : Number.inInt64 (total (rows.take n)) = true := by
      rw [total_of_null fun args hargs => hnull args (List.mem_of_mem_take hargs)]
      rfl
    obtain ⟨s, hs, hsums⟩ := hwhole hrange
    cases hsums with
    | none => exact hs
    | some hsome =>
        obtain ⟨args, hargs, hne⟩ := hsome
        exact absurd (hnull args hargs) hne
  · obtain ⟨s, hs, hsums⟩ := hwhole hrange
    cases hsums with
    | none hnull =>
        obtain ⟨args, hargs, hne⟩ := hsome
        exact absurd (hnull args hargs) hne
    | some _ htotal => exact ⟨_, hs, htotal⟩
  · obtain ⟨s, hs, hsums⟩ := exists_fold_sum h hrange
    rcases Nat.lt_or_ge n rows.length with hn | hn
    · rw [List.take_succ_eq_append_getElem hn] at hout
      obtain ⟨i, j, rfl, htotal, hj, hcombine⟩ :=
        hsums.exists_overflow (h _ (List.getElem_mem hn)) hout
      exact ⟨hn, i, j, htotal, hj, hs, hcombine, fold_eq_error hn hs hcombine⟩
    · -- past the end no row is left that could take the sum out of range
      have hlast := hsums.inInt64
      rw [List.take_of_length_le hn] at hlast
      rw [List.take_of_length_le (by omega), hlast] at hout
      cases hout

/-- The sum passes the greatest integer at the fourth row. That the fifth would bring it back into
range comes too late. -/
theorem fold_sum_exact_passing :
    let rows : List (List Value) := [[.null], [.integer Int64.maxValue], [.null], [.integer 1],
      [.integer (-1)]]
    (∀ args ∈ rows, firstArg args = .null ∨ ∃ i, firstArg args = .integer i) ∧
      total rows = Int64.maxValue.toInt ∧
        sum.fold (rows.take 3) = .ok (.integer Int64.maxValue) ∧
          sum.fold rows = .error (.execution (.overflow .plus Int64.maxValue 1)) := by
  intro rows
  have h : ∀ args ∈ rows, firstArg args = .null ∨ ∃ i, firstArg args = .integer i := by
    simp [rows, firstArg]
  obtain ⟨_, i, j, hi, hj, hs, -, hfold⟩ := (fold_sum_exact h).2.2 3 (by decide) (by decide)
  obtain rfl : i = Int64.maxValue := Int64.toInt_inj.1 hi
  obtain rfl : 1 = j := Value.integer.inj hj
  exact ⟨h, by decide, hs, hfold⟩

end Aggregate

end QueryEngine
