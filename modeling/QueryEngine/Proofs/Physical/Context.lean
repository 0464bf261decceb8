import QueryEngine.Physical.Basic

namespace QueryEngine

variable {ctx ctx' : Context}

namespace Scalar

mutual

theorem eval_congr (h : ctx.params = ctx'.params) (row : Row) :
    (e : Scalar) → eval ctx row e = eval ctx' row e
  | .column _ | .literal _ => rfl
  | .param i => by simp only [eval, Context.param, h]
  | .unary _ e => by rw [eval, eval, eval_congr h row e]
  | .binary _ l r => by rw [eval, eval, eval_congr h row l, eval_congr h row r]
  | .pattern _ e _ => by rw [eval, eval, eval_congr h row e]
  | .between e low high => by
      rw [eval, eval, eval_congr h row e, eval_congr h row low, eval_congr h row high]
  | .tuple es => by rw [eval, eval, evalList_congr h row es]
  | .call _ args => by rw [eval, eval, evalList_congr h row args]
  | .caseWhen branches default => by
      rw [eval, eval, evalBranches_congr h row branches, evalDefault_congr h row default]
  | .cast e _ => by rw [eval, eval, eval_congr h row e]
  | .item e _ => by rw [eval, eval, eval_congr h row e]

theorem evalList_congr (h : ctx.params = ctx'.params) (row : Row) :
    (es : List Scalar) → evalList ctx row es = evalList ctx' row es
  | [] => rfl
  | e :: es => by rw [evalList, evalList, eval_congr h row e, evalList_congr h row es]

theorem evalBranches_congr (h : ctx.params = ctx'.params) (row : Row) :
    (branches : List (Scalar × Scalar)) → evalBranches ctx row branches = evalBranches ctx' row branches
  | [] => rfl
  | (c, r) :: rest => by
      rw [evalBranches, evalBranches, eval_congr h row c, eval_congr h row r,
        evalBranches_congr h row rest]

theorem evalDefault_congr (h : ctx.params = ctx'.params) (row : Row) :
    (e : Option Scalar) → evalDefault ctx row e = evalDefault ctx' row e
  | none => rfl
  | some e => by rw [evalDefault, evalDefault, eval_congr h row e]

end

end Scalar

section

variable (h : ctx.params = ctx'.params)

include h

theorem passes_congr (e : Scalar) : e.passes ctx = e.passes ctx' := by
  funext row
  rw [Scalar.passes, Scalar.passes, Scalar.eval_congr h row]

theorem test_congr (predicate : Option Scalar) :
    Physical.test ctx predicate = Physical.test ctx' predicate := by
  funext row
  cases predicate with
  | none => rfl
  | some e => exact congrFun (passes_congr h e) row

namespace GroupOutput

theorem combineAll_congr (row : Row) (outputs : List GroupOutput) (states : List Value) :
    combineAll ctx row outputs states = combineAll ctx' row outputs states := by
  induction outputs generalizing states with
  | nil => rfl
  | cons output outputs ih =>
      cases states with
      | nil => rfl
      | cons state states =>
          cases output <;> simp only [combineAll, ih, Scalar.evalList_congr h]

theorem finish_congr (first : Row) (outputs : List GroupOutput) (states : List Value) :
    finish ctx first outputs states = finish ctx' first outputs states := by
  induction outputs generalizing states with
  | nil => rfl
  | cons output outputs ih =>
      cases states with
      | nil => rfl
      | cons state states => cases output <;> simp only [finish, ih, Scalar.eval_congr h]

end GroupOutput

namespace Rows

theorem sortOnto_congr (keys : List SortKey) (readRev : List (List Value × Row)) (rows : Rows) :
    rows.sortOnto ctx keys readRev = rows.sortOnto ctx' keys readRev := by
  induction rows generalizing readRev with
  | done => rfl
  | item x tail ih =>
      cases x with
      | error e => rfl
      | ok row => simp only [sortOnto, Scalar.evalList_congr h, ih]
  | step n tail ih => simp only [sortOnto, ih]

theorem group_congr (keys : List Scalar) (outputs : List GroupOutput) (g : Option OpenRun)
    (rows : Rows) : rows.group ctx keys outputs g = rows.group ctx' keys outputs g := by
  induction rows generalizing g with
  | done => cases g <;> simp only [group, OpenRun.result, GroupOutput.finish_congr h]
  | item x tail ih =>
      cases x with
      | error e => simp only [group]
      | ok row =>
          cases g <;>
            simp only [group, Scalar.evalList_congr h, OpenRun.start, OpenRun.add, OpenRun.result,
              GroupOutput.combineAll_congr h, GroupOutput.finish_congr h, ih]
  | step n tail ih => simp only [group, ih]

end Rows

end

namespace Physical

mutual

theorem execute_congr (h : ctx.params = ctx'.params)
    (hb : ctx.config.sideBudget = ctx'.config.sideBudget) :
    (p : Physical) → execute ctx p = execute ctx' p
  | .empty | .scan _ => rfl
  | .filter input none => by rw [execute, execute, execute_congr h hb input]
  | .filter input (some e) => by rw [execute, execute, execute_congr h hb input, passes_congr h]
  | .project input exprs => by
      rw [execute, execute, execute_congr h hb input]
      simp only [Scalar.evalList_congr h]
  | .limit input _ _ => by rw [execute, execute, execute_congr h hb input]
  | .union left right => by rw [execute, execute, execute_congr h hb left, execute_congr h hb right]
  | .sort input keys => by
      rw [execute, execute, execute_congr h hb input]
      simp only [Rows.sortOnto_congr h]
  | .hashJoin left right _ _ _ => by
      rw [execute, execute, execute_congr h hb left, execute_congr h hb right, hb]
  | .nestedJoin left right predicate _ _ => by
      rw [execute, execute, execute_congr h hb left, execute_congr h hb right, hb, test_congr h]
  | .group input keys outputs => by
      rw [execute, execute, execute_congr h hb input]
      simp only [Rows.group_congr h]
  | .tableFunction f args => by rw [execute, execute, inputs_congr h hb args]

theorem inputs_congr (h : ctx.params = ctx'.params)
    (hb : ctx.config.sideBudget = ctx'.config.sideBudget) :
    (args : List (TableArg (Schema × Physical))) → inputs ctx args = inputs ctx' args
  | [] => rfl
  | .constant v :: args => by rw [inputs, inputs, inputs_congr h hb args]
  | .relation (schema, p) :: args => by
      rw [inputs, inputs, execute_congr h hb p, inputs_congr h hb args]

end

end Physical

end QueryEngine
