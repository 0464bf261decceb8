import QueryEngine.Physical.Basic
import QueryEngine.Proofs.Except
import QueryEngine.Rows.Lemmas

namespace QueryEngine

namespace Rows

variable {xs : List (Except Error Row)} {x : Except Error Row} {n : Nat}

def rowsBefore (xs : List (Except Error Row)) (i : Nat) : Nat :=
  (xs.take i).countP (·.isOk)

/-- The items that `p` accepts, which is also told how many rows stand before them. -/
def itemsWhere (p : Nat → Except Error Row → Bool) (xs : List (Except Error Row)) :
    List (Except Error Row) :=
  (xs.zipIdx.filter fun (x, i) => p (rowsBefore xs i) x).map (·.1)

def errorsBefore (n : Nat) (xs : List (Except Error Row)) : List (Except Error Row) :=
  itemsWhere (fun rows x => rows < n && !x.isOk) xs

def itemsAfter (n : Nat) (xs : List (Except Error Row)) : List (Except Error Row) :=
  itemsWhere (fun rows _ => n ≤ rows) xs

theorem rowsBefore_cons (i : Nat) :
    rowsBefore (x :: xs) (i + 1) = rowsBefore xs i + if x.isOk then 1 else 0 := by
  simp [rowsBefore, List.countP_cons]

theorem itemsWhere_cons (p : Nat → Except Error Row → Bool) : itemsWhere p (x :: xs) =
    (if p 0 x then [x] else []) ++
      itemsWhere (fun rows => p (rows + if x.isOk then 1 else 0)) xs := by
  have hrest : ((xs.zipIdx 1).filter fun (y, i) => p (rowsBefore (x :: xs) i) y).map (·.1) =
      itemsWhere (fun rows => p (rows + if x.isOk then 1 else 0)) xs := by
    rw [List.zipIdx_succ, List.filter_map, List.map_map, itemsWhere]
    simp only [Function.comp_def, rowsBefore_cons]
  rw [itemsWhere, List.zipIdx_cons, List.filter_cons, ← hrest]
  by_cases hp : p 0 x <;> simp [rowsBefore, hp]

theorem dropOk_eq : dropOk n xs = errorsBefore n xs ++ itemsAfter n xs := by
  induction xs generalizing n with
  | nil => cases n <;> rfl
  | cons x xs ih =>
      cases n with
      | zero => simp [dropOk, errorsBefore, itemsAfter, itemsWhere]
      | succ n =>
          cases x with
          | ok row =>
              simp [dropOk, ih, errorsBefore, itemsAfter, itemsWhere_cons, Except.isOk, Except.toBool]
          | error e =>
              simp [dropOk, ih, errorsBefore, itemsAfter, itemsWhere_cons, Except.isOk, Except.toBool]

theorem toList_limit (rows : Rows) (start : Option Nat) :
    (rows.limit start none).toList = dropOk (start.getD 0) rows.toList ∧
      ∀ b, (rows.limit start (some b)).toList =
        (dropOk (start.getD 0) rows.toList).take (b - start.getD 0) := by
  simp [limit]

/-- The rows from one position on and before another, if there is another. -/
def sliced {α : Type} (start : Nat) (stop : Option Nat) (rs : List α) : List α :=
  match stop with
  | some b => (rs.drop start).take (b - start)
  | none => rs.drop start

theorem dropOk_map_ok (n : Nat) (rs : List Row) : dropOk n (rs.map .ok) = (rs.drop n).map .ok := by
  induction rs generalizing n with
  | nil => cases n <;> rfl
  | cons r rs ih =>
      cases n with
      | zero => rfl
      | succ n => simp [dropOk, ih]

theorem toList_limit_of_rows {rows : Rows} {rs : List Row} (h : rows.toList = rs.map .ok)
    (start stop : Option Nat) :
    (rows.limit start stop).toList = (sliced (start.getD 0) stop rs).map .ok := by
  cases stop with
  | none => rw [(toList_limit rows start).1, h, dropOk_map_ok, sliced]
  | some b => rw [(toList_limit rows start).2, h, dropOk_map_ok, sliced, List.map_take]

theorem sliced_sliced {α : Type} (a c : Nat) (b d : Option Nat) (rs : List α) :
    sliced c d (sliced a b rs) = sliced (a + c) (b.merge min (d.map (a + ·))) rs := by
  cases b with
  | none =>
      cases d with
      | none => simp [sliced, List.drop_drop]
      | some d =>
          have hstop : a + d - (a + c) = d - c := by omega
          simp [sliced, List.drop_drop, hstop]
  | some b =>
      cases d with
      | none =>
          have hstop : b - a - c = b - (a + c) := by omega
          simp [sliced, List.drop_take, List.drop_drop, hstop]
      | some d =>
          have hstop : min (d - c) (b - a - c) = min b (a + d) - (a + c) := by omega
          simp [sliced, List.drop_take, List.drop_drop, List.take_take, hstop]

theorem getElem?_sliced {α : Type} (start : Nat) (stop : Option Nat) (rs : List α) (i : Nat) :
    (sliced start stop rs)[i]? = if ∀ b ∈ stop, start + i < b then rs[start + i]? else none := by
  cases stop with
  | none => simp [sliced]
  | some b =>
      have hbound : i < b - start ↔ start + i < b := by omega
      simp [sliced, List.getElem?_take, hbound]

end Rows

namespace Physical

variable {ctx : Context} {input : Physical} {rows : Rows}

/-- A slice yields the errors met before its first row and every item behind that, and with an upper
bound no more than there are positions between the bounds. -/
theorem execute_limit_items (hrows : execute ctx input = .ok rows) (start stop : Option Nat) :
    ∃ result, execute ctx (.limit input start stop) = .ok result ∧
      let items := Rows.errorsBefore (start.getD 0) rows.toList ++
        Rows.itemsAfter (start.getD 0) rows.toList
      (stop = none → result.toList = items) ∧
        ∀ b, stop = some b → result.toList = items.take (b - start.getD 0) := by
  refine ⟨rows.limit start stop, by rw [execute, hrows, ok_bind, pure_eq], ?_⟩
  obtain ⟨hnone, hsome⟩ := Rows.toList_limit rows start
  constructor
  · rintro rfl
    rw [hnone, Rows.dropOk_eq]
  · rintro b rfl
    rw [hsome, Rows.dropOk_eq]

theorem execute_limit_items_three_errors :
    let e (i : Nat) : Error := .execution (.missingParameter i 0)
    let row (i : Int64) : Except Error Row := .ok [.integer i]
    let items := [.error (e 0), row 0, .error (e 1), row 1, .error (e 2), row 2, row 3]
    let input : Physical := .scan ⟨.ok (.ofList items)⟩
    ∃ result, execute {} (.limit input (some 2) (some 6)) = .ok result ∧
      result.toList = [.error (e 0), .error (e 1), .error (e 2), row 2] := by
  intro e row items input
  have hinput : execute {} input = .ok (.ofList items) := rfl
  obtain ⟨result, hresult, -, hitems⟩ := execute_limit_items hinput (some 2) (some 6)
  refine ⟨result, hresult, (hitems 6 rfl).trans ?_⟩
  rw [Rows.toList_ofList]
  rfl

/-- Over rows alone, a slice of a slice is the slice from the sum of the starts to the lower of the
stops, where the outer one counts from the inner start: in both are the rows at the positions between. -/
theorem collect_limit_limit {rs : List Row} (hrows : execute ctx input = .ok rows)
    (hrs : rows.toList = rs.map .ok) (a b c d : Option Nat) :
    let start := a.getD 0 + c.getD 0
    let stop := b.merge min (d.map (a.getD 0 + ·))
    ∃ out, (execute ctx (.limit (.limit input a b) c d)).bind Rows.collect = .ok out ∧
      (execute ctx (.limit input (some start) stop)).bind Rows.collect = .ok out ∧
      ∀ i : Nat, out[i]? = if ∀ bound ∈ stop, start + i < bound then rs[start + i]? else none := by
  intro start stop
  have hinner := Rows.toList_limit_of_rows hrs a b
  have houter := Rows.toList_limit_of_rows hinner c d
  rw [Rows.sliced_sliced] at houter
  have hone := Rows.toList_limit_of_rows hrs (some start) stop
  refine ⟨Rows.sliced start stop rs, ?_, ?_, Rows.getElem?_sliced start stop rs⟩
  · simp only [execute, hrows, ok_bind, pure_eq]
    exact Rows.collect_of_toList houter
  · simp only [execute, hrows, ok_bind, pure_eq]
    exact Rows.collect_of_toList hone

theorem collect_limit_limit_past_end :
    let rs : List Row := (List.range 6).map fun i => [.integer (Int64.ofNat i)]
    let input : Physical := .scan ⟨.ok (.ofRows rs)⟩
    let expected : List Row := [[.integer 3], [.integer 4]]
    (execute {} (.limit (.limit input (some 1) (some 9)) (some 2) (some 4))).bind Rows.collect =
        .ok expected ∧
      (execute {} (.limit input (some 3) (some 5))).bind Rows.collect = .ok expected := by
  intro rs input expected
  have hinput : execute {} input = .ok (.ofRows rs) := rfl
  obtain ⟨out, hnested, hone, hout⟩ :=
    collect_limit_limit hinput (Rows.toList_ofRows rs) (some 1) (some 9) (some 2) (some 4)
  obtain rfl : out = expected := by
    apply List.ext_getElem?
    intro i
    rw [hout]
    match i with
    | 0 | 1 => rfl
    | i + 2 =>
        simp only [expected, List.getElem?_cons_succ, List.getElem?_nil, ite_eq_right_iff]
        intro hbelow
        have hlast := hbelow 5 rfl
        simp only [Option.getD_some] at hlast
        omega
  exact ⟨hnested, hone⟩

end Physical

end QueryEngine
