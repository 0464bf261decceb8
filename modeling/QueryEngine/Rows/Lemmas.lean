import QueryEngine.Rows.Basic

namespace QueryEngine

namespace Rows

variable (rows : Rows)

@[simp] theorem toList_done : done.toList = [] := rfl

@[simp] theorem toList_item (x : Except Error Row) (tail : Unit → Rows) :
    (item x tail).toList = x :: (tail ()).toList := rfl

@[simp] theorem toList_step (n : Nat) (tail : Unit → Rows) :
    (step n tail).toList = (tail ()).toList := rfl

@[simp] theorem toList_ofList (xs : List (Except Error Row)) : (ofList xs).toList = xs := by
  induction xs with
  | nil => rfl
  | cons x xs ih => simp [ofList, ih]

@[simp] theorem toList_ofRows (rs : List Row) : (ofRows rs).toList = rs.map .ok := by
  simp [ofRows]

@[simp] theorem toList_single (row : Row) : (single row).toList = [.ok row] := rfl

@[simp] theorem toList_fail (e : Error) : (fail e).toList = [.error e] := rfl

@[simp] theorem toList_delay (rows : Unit → Rows) : (delay rows).toList = (rows ()).toList := rfl

@[simp] theorem toList_mapRows (f : Row → Except Error Row) :
    (rows.mapRows f).toList = rows.toList.map (·.bind f) := by
  induction rows with
  | done => rfl
  | item x tail ih => simp [mapRows, ih]
  | step n tail ih => simp [mapRows, ih]

@[simp] theorem toList_decodeRows (f : Row → Except Error Row) :
    (rows.decodeRows f).toList = rows.toList.map (·.bind f) := by
  induction rows with
  | done => rfl
  | item x tail ih =>
    cases x with
    | error e => simp [decodeRows, ih, Except.bind]
    | ok row => cases h : f row <;> simp [decodeRows, ih, Except.bind, h]
  | step n tail ih => simp [decodeRows, ih]

def holds (test : Row → Except Error Bool) (row : Row) : Bool :=
  match test row with
  | .ok b => b
  | .error _ => false

/-- What becomes of an item under a test: a row stays where it holds, and an error always stays. -/
def keep? (p : Row → Except Error Bool) : Except Error Row → Option (Except Error Row)
  | .error e => some (.error e)
  | .ok row =>
    match p row with
    | .ok true => some (.ok row)
    | .ok false => none
    | .error e => some (.error e)

@[simp] theorem toList_filter (p : Row → Except Error Bool) :
    (rows.filter p).toList = rows.toList.filterMap (keep? p) := by
  induction rows with
  | done => rfl
  | item x tail ih =>
    cases x with
    | error e => simp [filter, ih, keep?]
    | ok row =>
      cases h : p row with
      | error e => simp [filter, ih, keep?, h]
      | ok b => cases b <;> simp [filter, ih, keep?, h]
  | step n tail ih => simp [filter, ih]

@[simp] theorem toList_append (after : Unit → Rows) :
    (rows.append after).toList = rows.toList ++ (after ()).toList := by
  induction rows with
  | done => rfl
  | item x tail ih => simp [append, ih]
  | step n tail ih => simp [append, ih]

@[simp] theorem toList_flatMap (f : Row → List Row) :
    (rows.flatMap f).toList =
      rows.toList.flatMap fun
        | .ok row => (f row).map .ok
        | .error e => [.error e] := by
  induction rows with
  | done => rfl
  | item x tail ih => cases x <;> simp [flatMap, ih]
  | step n tail ih => simp [flatMap, ih]

@[simp] theorem toList_numbered (f : Nat → Row → Row) (i : Nat) :
    (rows.numbered f i).toList = rows.toList.mapIdx fun k x => x.map (f (i + k)) := by
  induction rows generalizing i with
  | done => rfl
  | item x tail ih => simp [numbered, ih, List.mapIdx_cons, Nat.add_assoc, Nat.add_comm 1]
  | step n tail ih => simp [numbered, ih]

@[simp] theorem toList_take (n : Nat) : (rows.take n).toList = rows.toList.take n := by
  induction rows generalizing n with
  | done => cases n <;> simp [take]
  | item x tail ih =>
    match n with
    | 0 => simp [take]
    | 1 => simp [take]
    | n + 2 => simp [take, ih]
  | step k tail ih => cases n <;> simp [take, ih]

/-- The items after the first `n` rows, behind the errors met before them. -/
def dropOk : Nat → List (Except Error Row) → List (Except Error Row)
  | 0, xs => xs
  | _ + 1, [] => []
  | n + 1, .ok _ :: xs => dropOk n xs
  | n + 1, .error e :: xs => .error e :: dropOk (n + 1) xs

@[simp] theorem toList_skip (n : Nat) : (rows.skip n).toList = dropOk n rows.toList := by
  induction rows generalizing n with
  | done => cases n <;> rfl
  | item x tail ih => cases n <;> cases x <;> simp [skip, dropOk, ih]
  | step k tail ih => cases n <;> simp [skip, dropOk, ih]

theorem collect_eq : rows.collect = rows.toList.mapM id := by
  induction rows with
  | done => rfl
  | item x tail ih =>
      cases x with
      | error e => rfl
      | ok row =>
          simp [collect, ih]
          rfl
  | step n tail ih => simp [collect, ih]

theorem toList_of_collect {rows : Rows} {rs : List Row} (h : rows.collect = .ok rs) :
    rows.toList = rs.map .ok := by
  induction rows generalizing rs with
  | done =>
      cases h
      rfl
  | item x tail ih =>
      cases x with
      | error e => cases h
      | ok row =>
          cases hc : (tail ()).collect with
          | error e => simp [collect, hc, Except.map] at h
          | ok rest =>
              obtain rfl : row :: rest = rs := by simpa [collect, hc, Except.map] using h
              simp [ih () hc]
  | step n tail ih => exact ih () h

theorem collect_of_toList {rows : Rows} {rs : List Row} (h : rows.toList = rs.map .ok) :
    rows.collect = .ok rs := by
  rw [collect_eq, h]
  clear h
  induction rs with
  | nil => rfl
  | cons r rs ih =>
      simp only [List.map_cons, List.mapM_cons, ih]
      rfl

theorem drainOnto_fst (items : List (Except Error Row)) (n : Nat) :
    (rows.drainOnto items n).1 = rows.toList.reverse ++ items := by
  induction rows generalizing items n with
  | done => rfl
  | item x tail ih => simp [drainOnto, ih]
  | step k tail ih => simp [drainOnto, ih]

@[simp] theorem drain_fst : rows.drain.1 = rows.toList := by
  simp [drain, drainOnto_fst]

end Rows

end QueryEngine
