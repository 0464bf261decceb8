import QueryEngine.Physical.Basic
import QueryEngine.Rows.Lemmas

namespace QueryEngine

namespace Rows

/-- The second sequence gives all rows that the first gives before an error, and ends where the
first ends without one. -/
inductive Below : Rows → Rows → Prop
  | done : Below .done .done
  | error (e : Error) (tail : Unit → Rows) (rows : Rows) : Below (item (.error e) tail) rows
  | ok {row : Row} {tail tail' : Unit → Rows} (h : Below (tail ()) (tail' ())) :
      Below (item (.ok row) tail) (item (.ok row) tail')
  | stepLeft {n : Nat} {tail : Unit → Rows} {rows : Rows} (h : Below (tail ()) rows) :
      Below (step n tail) rows
  | stepRight {n : Nat} {rows : Rows} {tail : Unit → Rows} (h : Below rows (tail ())) :
      Below rows (step n tail)

namespace Below

theorem refl : (rows : Rows) → Below rows rows
  | .done => .done
  | .item (.error e) tail => .error e tail _
  | .item (.ok _) tail => .ok (refl (tail ()))
  | .step _ tail => .stepLeft (.stepRight (refl (tail ())))

theorem fail (e : Error) (rows : Rows) : Below (.fail e) rows :=
  .error e _ rows

variable {a b : Rows}

theorem step {n : Nat} {tail tail' : Unit → Rows} (h : Below (tail ()) (tail' ())) :
    Below (.step n tail) (.step n tail') :=
  .stepLeft (.stepRight h)

theorem toList_eq (h : Below a b) {rs : List Row} (ha : a.toList = rs.map .ok) :
    b.toList = rs.map .ok := by
  induction h generalizing rs with
  | done => exact ha
  | error e tail rows => cases rs <;> simp at ha
  | ok _ ih =>
      cases rs with
      | nil => simp at ha
      | cons r rs =>
          simp only [toList_item, List.map_cons, List.cons.injEq, Except.ok.injEq] at ha
          simp [ha.1, ih ha.2]
  | stepLeft _ ih => exact ih ha
  | stepRight _ ih => exact ih ha

theorem of_stepLeft {c : Rows} {n : Nat} {tail : Unit → Rows} (h : Below (.step n tail) c) :
    Below (tail ()) c := by
  generalize hrows : Rows.step n tail = rows at h
  induction h with
  | done | error | ok => cases hrows
  | stepLeft h _ =>
      cases hrows
      exact h
  | stepRight _ ih => exact .stepRight (ih hrows)

theorem trans {c : Rows} (h : Below a b) (h' : Below b c) : Below a c := by
  induction h generalizing c with
  | done => exact h'
  | error e tail rows => exact .error e _ _
  | stepLeft _ ih => exact .stepLeft (ih h')
  | stepRight _ ih => exact ih (of_stepLeft h')
  | @ok row tail tail' _ ih =>
      generalize hrows : Rows.item (.ok row) tail' = rows at h'
      induction h' with
      | done | error | stepLeft => cases hrows
      | ok h' =>
          cases hrows
          exact .ok (ih h')
      | stepRight _ ih => exact .stepRight (ih hrows)

theorem of_toList : {a b : Rows} → a.toList = b.toList → Below a b
  | .step _ tail, _, h => .stepLeft (of_toList h)
  | .done, .done, _ => .done
  | .item (.error e) _, _, _ => .error e _ _
  | .item (.ok _) tail, .item y tail', h => by
      simp only [toList_item, List.cons.injEq] at h
      obtain ⟨rfl, h⟩ := h
      exact .ok (of_toList h)
  | .done, .step _ tail, h => .stepRight (of_toList h)
  | .item (.ok _) _, .step _ tail, h => .stepRight (of_toList h)
  | .done, .item _ _, h => by cases h
  | .item (.ok _) _, .done, h => by cases h

theorem mapRows (h : Below a b) (f : Row → Except Error Row) : Below (a.mapRows f) (b.mapRows f) := by
  induction h with
  | done => exact .done
  | error e tail rows => exact .error e _ _
  | @ok row _ _ _ ih =>
      rw [Rows.mapRows, Rows.mapRows]
      cases hf : f row with
      | error e => simpa [Except.bind, hf] using .error e _ _
      | ok row' => simpa [Except.bind, hf] using .ok ih
  | stepLeft _ ih => exact .stepLeft ih
  | stepRight _ ih => exact .stepRight ih

theorem filter (h : Below a b) (p : Row → Except Error Bool) : Below (a.filter p) (b.filter p) := by
  induction h with
  | done => exact .done
  | error e tail rows => exact .error e _ _
  | @ok row _ _ _ ih =>
      rw [Rows.filter, Rows.filter]
      cases hp : p row with
      | error e => exact .error e _ _
      | ok keep =>
          cases keep with
          | true => exact .ok ih
          | false => exact .step ih
  | stepLeft _ ih => exact .stepLeft ih
  | stepRight _ ih => exact .stepRight ih

theorem append (h : Below a b) {after after' : Unit → Rows} (h' : Below (after ()) (after' ())) :
    Below (a.append after) (b.append after') := by
  induction h with
  | done => exact .step h'
  | error e tail rows => exact .error e _ _
  | ok _ ih => exact .ok ih
  | stepLeft _ ih => exact .stepLeft ih
  | stepRight _ ih => exact .stepRight ih

theorem flatMap (h : Below a b) (f : Row → List Row) : Below (a.flatMap f) (b.flatMap f) := by
  induction h with
  | done => exact .done
  | error e tail rows => exact .error e _ _
  | ok _ ih => exact (refl _).append ih
  | stepLeft _ ih => exact .stepLeft ih
  | stepRight _ ih => exact .stepRight ih

theorem skip_zero (rows : Rows) : rows.skip 0 = rows := by
  cases rows <;> rfl

theorem take_zero (rows : Rows) : rows.take 0 = .done := by
  cases rows <;> rfl

theorem skip (h : Below a b) (n : Nat) : Below (a.skip n) (b.skip n) := by
  cases n with
  | zero =>
      rw [skip_zero, skip_zero]
      exact h
  | succ n =>
      induction h generalizing n with
      | done => exact .done
      | error e tail rows => exact .error e _ _
      | ok h ih =>
          cases n with
          | zero =>
              refine .step ?_
              dsimp only
              rw [skip_zero, skip_zero]
              exact h
          | succ n => exact .step (ih n)
      | stepLeft _ ih => exact .stepLeft (ih n)
      | stepRight _ ih => exact .stepRight (ih n)

theorem take (h : Below a b) (n : Nat) : Below (a.take n) (b.take n) := by
  cases n with
  | zero =>
      rw [take_zero, take_zero]
      exact .done
  | succ n =>
      induction h generalizing n with
      | done => exact .done
      | error e tail rows => cases n <;> exact .error e _ _
      | ok _ ih =>
          cases n with
          | zero => exact .ok .done
          | succ n => exact .ok (ih n)
      | stepLeft _ ih => exact .stepLeft (ih n)
      | stepRight _ ih => exact .stepRight (ih n)

theorem limit (h : Below a b) (start stop : Option Nat) :
    Below (a.limit start stop) (b.limit start stop) := by
  cases stop with
  | none => exact h.skip _
  | some stop => exact (h.skip _).take _

theorem sortOnto (h : Below a b) (ctx : Context) (keys : List SortKey)
    (readRev : List (List Value × Row)) :
    Below (a.sortOnto ctx keys readRev) (b.sortOnto ctx keys readRev) := by
  induction h generalizing readRev with
  | done => exact refl _
  | error e tail rows => exact fail e _
  | @ok row _ _ _ ih =>
      rw [Rows.sortOnto, Rows.sortOnto]
      cases Scalar.evalList ctx row (keys.map (·.expr)) with
      | error e => exact fail e _
      | ok key => exact .step (ih _)
  | stepLeft _ ih => exact .stepLeft (ih _)
  | stepRight _ ih => exact .stepRight (ih _)

theorem group (h : Below a b) (ctx : Context) (keys : List Scalar) (outputs : List GroupOutput)
    (run : Option OpenRun) : Below (a.group ctx keys outputs run) (b.group ctx keys outputs run) := by
  induction h generalizing run with
  | done => exact refl _
  | error e tail rows => cases run <;> exact fail e _
  | @ok row _ _ _ ih =>
      cases run with
      | none =>
          rw [Rows.group, Rows.group]
          cases (Scalar.evalList ctx row keys).bind fun key => OpenRun.start ctx outputs key row with
          | error e => exact fail e _
          | ok g => exact .step (ih _)
      | some g =>
          rw [Rows.group, Rows.group]
          cases Scalar.evalList ctx row keys with
          | error e => exact fail e _
          | ok key =>
              dsimp only
              split
              · cases g.add ctx outputs row with
                | error e => exact fail e _
                | ok g' => exact .step (ih _)
              · cases g.result ctx outputs with
                | error e => exact fail e _
                | ok out =>
                    refine .ok ?_
                    cases OpenRun.start ctx outputs key row with
                    | error e => exact fail e _
                    | ok g' => exact ih _
  | stepLeft _ ih => cases run <;> exact .stepLeft (ih _)
  | stepRight _ ih => cases run <;> exact .stepRight (ih _)

end Below

/-- What starts starts on the other side as well, below what it gives there. -/
def StartsBelow (a b : Except Error Rows) : Prop :=
  ∀ rows, a = .ok rows → ∃ rows', b = .ok rows' ∧ Below rows rows'

namespace StartsBelow

theorem refl (a : Except Error Rows) : StartsBelow a a :=
  fun rows h => ⟨rows, h, .refl rows⟩

theorem ok {a b : Rows} (h : Below a b) : StartsBelow (.ok a) (.ok b) := by
  rintro rows ⟨⟩
  exact ⟨b, rfl, h⟩

variable {a b : Except Error Rows}

theorem map (h : StartsBelow a b) {f g : Rows → Rows}
    (hf : ∀ rows rows', Below rows rows' → Below (f rows) (g rows')) :
    StartsBelow (a.map f) (b.map g) := by
  intro rows ha
  cases a with
  | error e => cases ha
  | ok a =>
      obtain ⟨b', rfl, hbelow⟩ := h a rfl
      cases ha
      exact ⟨g b', rfl, hf a b' hbelow⟩

theorem ofStart (h : StartsBelow a b) : Below (.ofStart a) (.ofStart b) := by
  cases a with
  | error e => exact .fail e _
  | ok a =>
      obtain ⟨b', rfl, hbelow⟩ := h a rfl
      exact hbelow

end StartsBelow

end Rows

end QueryEngine
