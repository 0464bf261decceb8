import QueryEngine.Physical.Scalar
import QueryEngine.Proofs.Except

namespace QueryEngine

namespace Scalar

mutual

def Within (n : Nat) : Scalar → Prop
  | column i => i < n
  | literal _ | param _ => True
  | unary _ e | pattern _ e _ | cast e _ | item e _ => e.Within n
  | binary _ l r => l.Within n ∧ r.Within n
  | between e low high => e.Within n ∧ low.Within n ∧ high.Within n
  | tuple es | call _ es => WithinList n es
  | caseWhen branches default => WithinBranches n branches ∧ WithinDefault n default

def WithinList (n : Nat) : List Scalar → Prop
  | [] => True
  | e :: es => e.Within n ∧ WithinList n es

def WithinBranches (n : Nat) : List (Scalar × Scalar) → Prop
  | [] => True
  | (c, r) :: rest => c.Within n ∧ r.Within n ∧ WithinBranches n rest

def WithinDefault (n : Nat) : Option Scalar → Prop
  | none => True
  | some e => e.Within n

end

variable {schema : Schema} {functions : FunctionRegistry}

mutual

theorem within_of_plan : (e : Expr) → ∀ {s : Scalar}, plan schema functions e = .ok s →
    s.Within schema.size
  | .var path, s, h => by
      obtain ⟨i, hi, h⟩ := bind_eq_ok.1 h
      cases h
      exact Schema.position_lt_size hi
  | .const v, s, h | .param i, s, h => by
      cases h
      trivial
  | .unary _ e, s, h | .cast e _, s, h | .item e _, s, h => by
      obtain ⟨inner, hinner, h⟩ := bind_eq_ok.1 h
      cases h
      exact (within_of_plan e hinner : inner.Within schema.size)
  | .binary op l r, s, h => by
      obtain ⟨left, hleft, h⟩ := bind_eq_ok.1 h
      split at h
      · obtain ⟨regex, -, h⟩ := bind_eq_ok.1 h
        cases h
        exact (within_of_plan l hleft : left.Within schema.size)
      · obtain ⟨right, hright, h⟩ := bind_eq_ok.1 h
        cases h
        exact ⟨within_of_plan l hleft, within_of_plan r hright⟩
  | .between e low high, s, h => by
      obtain ⟨input, hinput, h⟩ := bind_eq_ok.1 h
      obtain ⟨above, habove, h⟩ := bind_eq_ok.1 h
      obtain ⟨below, hbelow, h⟩ := bind_eq_ok.1 h
      cases h
      exact ⟨within_of_plan e hinput, within_of_plan low habove, within_of_plan high hbelow⟩
  | .tuple es, s, h => by
      obtain ⟨ss, hss, h⟩ := bind_eq_ok.1 h
      cases h
      exact withinList_of_planList es hss
  | .call name args, s, h => by
      rw [plan] at h
      split at h
      · cases h
      · obtain ⟨f, -, h⟩ := bind_eq_ok.1 h
        obtain ⟨ss, hss, h⟩ := bind_eq_ok.1 h
        cases h
        exact withinList_of_planList args hss
  | .rename _ e, s, h => within_of_plan e h
  | .star q, s, h => by cases h
  | .caseWhen branches default, s, h => by
      obtain ⟨bs, hbs, h⟩ := bind_eq_ok.1 h
      obtain ⟨other, hother, h⟩ := bind_eq_ok.1 h
      cases h
      exact ⟨withinBranches_of_planBranches branches hbs, withinDefault_of_planDefault default hother⟩

theorem withinList_of_planList : (es : List Expr) → ∀ {ss : List Scalar},
    planList schema functions es = .ok ss → WithinList schema.size ss
  | [], ss, h => by
      cases h
      trivial
  | e :: es, ss, h => by
      obtain ⟨s, hs, h⟩ := bind_eq_ok.1 h
      obtain ⟨rest, hrest, h⟩ := bind_eq_ok.1 h
      cases h
      exact ⟨within_of_plan e hs, withinList_of_planList es hrest⟩

theorem withinBranches_of_planBranches : (branches : List (Expr × Expr)) →
    ∀ {ss : List (Scalar × Scalar)}, planBranches schema functions branches = .ok ss →
      WithinBranches schema.size ss
  | [], ss, h => by
      cases h
      trivial
  | (c, r) :: rest, ss, h => by
      obtain ⟨cond, hcond, h⟩ := bind_eq_ok.1 h
      obtain ⟨result, hresult, h⟩ := bind_eq_ok.1 h
      obtain ⟨tail, htail, h⟩ := bind_eq_ok.1 h
      cases h
      exact ⟨within_of_plan c hcond, within_of_plan r hresult,
        withinBranches_of_planBranches rest htail⟩

theorem withinDefault_of_planDefault : (default : Option Expr) → ∀ {s : Option Scalar},
    planDefault schema functions default = .ok s → WithinDefault schema.size s
  | none, s, h => by
      cases h
      trivial
  | some e, s, h => by
      obtain ⟨inner, hinner, h⟩ := bind_eq_ok.1 h
      cases h
      exact within_of_plan e hinner

end

variable (ctx : Context) (row more : Row)

mutual

theorem eval_append : (e : Scalar) → e.Within row.length → eval ctx (row ++ more) e = eval ctx row e
  | .column i, h => by
      have h : i < row.length := h
      simp [eval, columnValue, List.getElem?_append_left h, List.getElem?_eq_getElem h]
  | .literal _, _ | .param _, _ => rfl
  | .unary _ e, h | .pattern _ e _, h | .cast e _, h | .item e _, h => by
      rw [eval, eval, eval_append e h]
  | .binary _ l r, h => by rw [eval, eval, eval_append l h.1, eval_append r h.2]
  | .between e low high, h => by
      rw [eval, eval, eval_append e h.1, eval_append low h.2.1, eval_append high h.2.2]
  | .tuple es, h | .call _ es, h => by rw [eval, eval, evalList_append es h]
  | .caseWhen branches default, h => by
      rw [eval, eval, evalBranches_append branches h.1, evalDefault_append default h.2]

theorem evalList_append : (es : List Scalar) → WithinList row.length es →
    evalList ctx (row ++ more) es = evalList ctx row es
  | [], _ => rfl
  | e :: es, h => by rw [evalList, evalList, eval_append e h.1, evalList_append es h.2]

theorem evalBranches_append : (branches : List (Scalar × Scalar)) →
    WithinBranches row.length branches →
      evalBranches ctx (row ++ more) branches = evalBranches ctx row branches
  | [], _ => rfl
  | (c, r) :: rest, h => by
      rw [evalBranches, evalBranches, eval_append c h.1, eval_append r h.2.1,
        evalBranches_append rest h.2.2]

theorem evalDefault_append : (e : Option Scalar) → WithinDefault row.length e →
    evalDefault ctx (row ++ more) e = evalDefault ctx row e
  | none, _ => rfl
  | some e, h => by rw [evalDefault, evalDefault, eval_append e h]

end

end Scalar

end QueryEngine
