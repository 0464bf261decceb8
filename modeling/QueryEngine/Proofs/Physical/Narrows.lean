import QueryEngine.Proofs.Physical.Refines
import QueryEngine.Proofs.Physical.Sorting

namespace QueryEngine

def Scalar.holdAll (ctx : Context) (keys : List Scalar) (row : Row) : Bool :=
  keys.all fun e => Rows.holds (e.passes ctx) row

@[simp] theorem Scalar.holdAll_cons (ctx : Context) (e : Scalar) (keys : List Scalar) (row : Row) :
    holdAll ctx (e :: keys) row = (Rows.holds (e.passes ctx) row && holdAll ctx keys row) := rfl

@[simp] theorem Scalar.holdAll_append (ctx : Context) (keys keys' : List Scalar) (row : Row) :
    holdAll ctx (keys ++ keys') row = (holdAll ctx keys row && holdAll ctx keys' row) :=
  List.all_append

namespace Rows

variable {rows : Rows}

theorem filter_filter_row {p q : Row → Except Error Bool} {row : Row} {b c : Bool}
    (hp : p row = .ok b) (hq : q row = .ok c) (tail : Unit → Rows) :
    ((item (.ok row) tail).filter p).filter q =
      if b && c then item (.ok row) fun _ => ((tail ()).filter p).filter q
      else step 0 fun _ => ((tail ()).filter p).filter q := by
  cases b <;> cases c <;> simp [Rows.filter, hp, hq]

theorem below_filter_filter {p x : Row → Except Error Bool} {good good' : Row → Bool}
    (h : ∀ row b, p row = .ok b → ∃ b', x row = .ok b' ∧ (b && good row) = (good' row && b'))
    (rows : Rows) : Below ((rows.filter p).filter fun row => .ok (good row))
      ((rows.filter fun row => .ok (good' row)).filter x) := by
  induction rows with
  | done => exact .done
  | step n tail ih => exact .step (ih ())
  | item head tail ih =>
      cases head with
      | error e => exact .error e _ _
      | ok row =>
          cases hp : p row with
          | error e =>
              simp only [Rows.filter, hp]
              exact .error e _ _
          | ok b =>
              obtain ⟨b', hx, hb⟩ := h row b hp
              rw [filter_filter_row hp rfl, filter_filter_row rfl hx, hb]
              split
              · exact .ok (ih ())
              · exact .step (ih ())

theorem filterMap_keep?_ok (good : Row → Bool) (rs : List Row) :
    (rs.map Except.ok).filterMap (keep? fun row => .ok (good row)) =
      (rs.filter good).map Except.ok := by
  induction rs with
  | nil => rfl
  | cons row rs ih => cases hg : good row <;> simp [keep?, hg, ih]

theorem toList_filter_true (rows : Rows) :
    (rows.filter fun _ => .ok true).toList = rows.toList := by
  rw [toList_filter]
  induction rows.toList with
  | nil => rfl
  | cons x xs ih => cases x <;> simp [keep?, ih]

theorem exists_rows_of_mapM {β : Type} {f : Row → Except Error β} {xs : List (Except Error Row)}
    {ys : List β} (h : xs.mapM (fun x => x >>= f) = .ok ys) : ∃ rs : List Row, xs = rs.map .ok := by
  have hall := mapM_eq_ok.1 h
  clear h
  induction hall with
  | nil => exact ⟨[], rfl⟩
  | @cons x y xs ys hx _ ih =>
      obtain ⟨row, rfl, -⟩ := bind_eq_ok.1 hx
      obtain ⟨rs, rfl⟩ := ih
      exact ⟨row :: rs, rfl⟩

theorem below_filter_sortOnto (ctx : Context) (keys : List SortKey) (good : Row → Bool)
    (rows : Rows) : Below ((rows.sortOnto ctx keys []).filter fun row => .ok (good row))
      ((rows.filter fun row => .ok (good row)).sortOnto ctx keys []) := by
  cases hrows : rows.toList.mapM fun x => x >>= keyed ctx keys with
  | error e =>
      -- nothing comes out of a sort before its input has ended
      have hfail : Below ((rows.sortOnto ctx keys []).filter fun row => .ok (good row)) (fail e) := by
        refine .of_toList ?_
        rw [toList_filter, toList_sortOnto, hrows]
        rfl
      exact hfail.trans (.fail e _)
  | ok read =>
      obtain ⟨rs, hrs⟩ := exists_rows_of_mapM hrows
      rw [hrs, List.mapM_map] at hrows
      have hsorted : sortRows ctx keys rs = .ok ((sortKeyed keys read).map (·.2)) :=
        bind_eq_ok.2 ⟨read, hrows, rfl⟩
      have hfiltered : (rows.filter fun row => .ok (good row)).toList = (rs.filter good).map .ok := by
        rw [toList_filter, hrs, filterMap_keep?_ok]
      refine .of_toList ?_
      rw [toList_filter, toList_sortOnto_of_rows hrs, toList_sortOnto_of_rows hfiltered, hsorted,
        sortRows_filter hsorted]
      exact filterMap_keep?_ok good _

end Rows

namespace Physical

open Rows

variable {ctx : Context} {keys rest : List Scalar} {p q : Physical}

/-- Whenever the first plan starts the second one does, and gives the rows of the first on which all
keys hold, up to the first error of that. -/
def Narrows (ctx : Context) (keys : List Scalar) (p q : Physical) : Prop :=
  StartsBelow
    ((execute ctx p).map fun rows => rows.filter fun row => .ok (Scalar.holdAll ctx keys row))
    (execute ctx q)

theorem Narrows.refines (h : Narrows ctx [] p q) : Refines ctx p q := by
  intro rows hrows
  obtain ⟨rows', hrows', hbelow⟩ := h (rows.filter fun _ => .ok true) (by rw [hrows]; rfl)
  exact ⟨rows', hrows', .trans (.of_toList (toList_filter_true rows).symm) hbelow⟩

theorem execute_filter {rows : Rows} (h : execute ctx p = .ok rows) (e : Option Scalar) :
    ∃ rows', execute ctx (.filter p e) = .ok rows' ∧ Below (rows.filter (test ctx e)) rows' := by
  cases e with
  | none => exact ⟨rows, h, .of_toList (toList_filter_true rows)⟩
  | some e => exact ⟨_, bind_eq_ok.2 ⟨rows, h, rfl⟩, .refl _⟩

theorem Narrows.select {e : Scalar} {record : Option Scalar} (h : Narrows ctx (keys ++ rest) p q)
    (hsplit : ∀ row b, e.passes ctx row = .ok b →
      ∃ x, test ctx record row = .ok x ∧ b = (x && Scalar.holdAll ctx keys row)) :
    Narrows ctx rest (.filter p (some e)) (.filter q record) := by
  intro out hout
  obtain ⟨filtered, hfiltered, rfl⟩ := map_eq_ok.1 hout
  obtain ⟨rows, hrows, hfiltered⟩ := bind_eq_ok.1 hfiltered
  cases hfiltered
  obtain ⟨rows', hrows', hbelow⟩ := h _ (by rw [hrows]; rfl)
  obtain ⟨out', hout', hbelow'⟩ := execute_filter hrows' record
  refine ⟨out', hout', .trans (below_filter_filter ?_ rows) ((hbelow.filter _).trans hbelow')⟩
  intro row b hb
  obtain ⟨x, hx, rfl⟩ := hsplit row b hb
  refine ⟨x, hx, ?_⟩
  rw [Scalar.holdAll_append, Bool.and_assoc, Bool.and_comm]

theorem Narrows.sort (h : Narrows ctx keys p q) (sortKeys : List SortKey) :
    Narrows ctx keys (.sort p sortKeys) (.sort q sortKeys) := by
  refine StartsBelow.ok (.step ?_)
  dsimp only
  cases hp : execute ctx p with
  | error e => exact .error e _ _
  | ok rows =>
      obtain ⟨rows', hrows', hbelow⟩ := h _ (by rw [hp]; rfl)
      rw [hrows']
      exact (below_filter_sortOnto ctx sortKeys _ rows).trans (hbelow.sortOnto ctx sortKeys [])

end Physical

end QueryEngine
