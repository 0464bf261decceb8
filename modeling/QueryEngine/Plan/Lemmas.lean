import Mathlib.Algebra.Order.BigOperators.Group.List
import Mathlib.Algebra.Order.Ring.Nat
import QueryEngine.Plan.Basic

namespace QueryEngine

namespace Plan

theorem refillArgs_relationArgs (args : List (TableArg Plan)) :
    refillArgs args (relationArgs args) = args := by
  induction args with
  | nil => rfl
  | cons a args ih => cases a <;> simp [relationArgs, refillArgs, ih]

theorem relationArgs_refillArgs (args : List (TableArg Plan)) (ps : List Plan)
    (h : ps.length = (relationArgs args).length) : relationArgs (refillArgs args ps) = ps := by
  induction args generalizing ps with
  | nil => simp_all [relationArgs, refillArgs]
  | cons a args ih =>
    cases a <;> cases ps <;> simp_all [relationArgs, refillArgs]

theorem refillArgs_refillArgs (args : List (TableArg Plan)) (ps qs : List Plan)
    (h : ps.length = qs.length) : refillArgs (refillArgs args ps) qs = refillArgs args qs := by
  induction args generalizing ps qs with
  | nil => rfl
  | cons a args ih =>
    cases a <;> cases ps <;> cases qs <;> simp_all [refillArgs]

@[simp] theorem refill_children (p : Plan) : p.refill p.children = p := by
  cases p <;> simp [refill, children, refillArgs_relationArgs]

theorem children_refill (p : Plan) (ps : List Plan) (h : ps.length = p.children.length) :
    (p.refill ps).children = ps := by
  cases p <;> simp only [children, List.length_cons, List.length_nil] at h
  case load | placeholder => simp_all [refill, children]
  case tableFunction => simp [refill, children, relationArgs_refillArgs, h]
  case join | unionAll => match ps, h with | [l, r], _ => rfl
  all_goals match ps, h with | [i], _ => rfl

theorem refill_refill (p : Plan) (ps qs : List Plan) (h : ps.length = qs.length) :
    (p.refill ps).refill qs = p.refill qs := by
  cases p
  case load | placeholder => simp [refill]
  case tableFunction => simp [refill, refillArgs_refillArgs, h]
  case join | unionAll =>
    match ps, qs, h with
    | [], [], _ | [_], [_], _ | _ :: _ :: _, _ :: _ :: _, _ => rfl
  all_goals
    match ps, qs, h with
    | [], [], _ | _ :: _, _ :: _, _ => rfl

theorem withChildren_shell {p : Plan} {ps : List Plan} (h : ps.length = p.children.length) :
    p.shell.withChildren ps = .ok (p.refill ps) := by
  have hholes : (p.children.map fun _ => placeholder).length = p.children.length := by simp
  rw [shell, withChildren, children_refill _ _ hholes, hholes, if_pos h]
  congr 1
  exact refill_refill _ _ _ (hholes.trans h.symm)

theorem shell_refill {p : Plan} {ps : List Plan} (h : ps.length = p.children.length) :
    (p.refill ps).shell = p.shell := by
  have hholes : ps.map (fun _ => placeholder) = p.children.map fun _ => placeholder := by
    simp [List.map_const', h]
  rw [shell, shell, children_refill p ps h, hholes, refill_refill p ps _ (by simp [h])]

theorem shell_shell (p : Plan) : p.shell.shell = p.shell :=
  shell_refill (by simp)

theorem refill_eq_load {p : Plan} {ps : List Plan} {name : String} {s : Option Schema}
    (h : p.refill ps = .load name s) : p = .load name s := by
  cases p
  case load => exact h
  case join | unionAll => rcases ps with _ | ⟨_, _ | ⟨_, _⟩⟩ <;> cases h
  case tableFunction | placeholder => cases h
  all_goals cases ps <;> cases h

theorem kind_refill (p : Plan) (ps : List Plan) : (p.refill ps).kind = p.kind := by
  cases p
  case join | unionAll => rcases ps with _ | ⟨_, _ | ⟨_, _⟩⟩ <;> rfl
  case load | tableFunction | placeholder => rfl
  all_goals cases ps <;> rfl

theorem schema?_refill (p : Plan) (ps : List Plan) : (p.refill ps).schema? = p.schema? := by
  cases p
  case join | unionAll => rcases ps with _ | ⟨_, _ | ⟨_, _⟩⟩ <;> rfl
  case load | tableFunction | placeholder => rfl
  all_goals cases ps <;> rfl

theorem outputSchema_refill (p : Plan) (ps : List Plan) :
    (p.refill ps).outputSchema = p.outputSchema := by
  rw [outputSchema, outputSchema, schema?_refill, kind_refill]

theorem withSchema_refill (p : Plan) (ps : List Plan) (s : Schema) :
    (p.refill ps).withSchema s = (p.withSchema s).refill ps := by
  cases p
  case join | unionAll => rcases ps with _ | ⟨_, _ | ⟨_, _⟩⟩ <;> rfl
  case load | tableFunction | placeholder => rfl
  all_goals cases ps <;> rfl

theorem sizeArgs_eq (args : List (TableArg Plan)) :
    sizeArgs args = ((relationArgs args).map size).sum := by
  induction args with
  | nil => rfl
  | cons a args ih => cases a <;> simp [sizeArgs, relationArgs, ih]

theorem size_eq (p : Plan) : p.size = (p.children.map size).sum + 1 := by
  cases p <;> simp [size, children, sizeArgs_eq]

theorem size_lt_of_mem_children {p c : Plan} (h : c ∈ p.children) : c.size < p.size := by
  rw [size_eq p]
  exact Nat.lt_succ_of_le (List.le_sum_of_mem (List.mem_map_of_mem h))

theorem notMem_children (p : Plan) : p ∉ p.children :=
  fun h => Nat.lt_irrefl _ (size_lt_of_mem_children h)

theorem inductionOnChildren {motive : Plan → Prop}
    (h : ∀ p : Plan, (∀ c ∈ p.children, motive c) → motive p) (p : Plan) : motive p :=
  h p fun c _ => inductionOnChildren h c
termination_by p.size
decreasing_by exact size_lt_of_mem_children ‹_›

end Plan

end QueryEngine
