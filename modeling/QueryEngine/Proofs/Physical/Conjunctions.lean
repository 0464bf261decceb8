import QueryEngine.Physical.Compile
import QueryEngine.Proofs.Except

namespace QueryEngine

namespace Operation

theorem truth_eq_ok {v : Value} {t : Option Bool} : truth v = .ok t ↔ v = ofTruth t := by
  cases v <;> rcases t with _ | b <;> simp [truth, ofTruth]

theorem isTrue_andTruth (t u : Option Bool) :
    (ofTruth (andTruth t u)).isTrue = ((ofTruth t).isTrue && (ofTruth u).isTrue) := by
  rcases t with _ | _ | _ <;> rcases u with _ | _ | _ <;> rfl

theorem binary_and_eq_ok {a b v : Value} (h : binary .and a b = .ok v) :
    ∃ t u, a = ofTruth t ∧ b = ofTruth u ∧ v = ofTruth (andTruth t u) := by
  obtain ⟨t, ht, h⟩ := bind_eq_ok.1 h
  obtain ⟨u, hu, h⟩ := bind_eq_ok.1 h
  cases h
  exact ⟨t, u, truth_eq_ok.1 ht, truth_eq_ok.1 hu, rfl⟩

theorem binary_and_ofTruth (t u : Option Bool) :
    binary .and (ofTruth t) (ofTruth u) = .ok (ofTruth (andTruth t u)) := by
  have htruth (t : Option Bool) : truth (ofTruth t) = .ok t := truth_eq_ok.2 rfl
  simp [binary, logic, htruth]

end Operation

namespace Scalar

variable {schema : Schema} {functions : FunctionRegistry}

theorem plan_and (l r : Expr) : plan schema functions (.and l r) = do
    let a ← plan schema functions l
    return .binary .and a (← plan schema functions r) := by
  have hconst : constantPattern? .and r = none := by
    unfold constantPattern?
    split <;> rfl
  simp [Expr.and, plan, hconst]

def andAll : List Scalar → Option Scalar
  | [] => none
  | e :: es => some (es.foldl (.binary .and) e)

theorem plan_foldl_and {e : Expr} {s : Scalar} {es : List Expr} {ss : List Scalar}
    (h : plan schema functions e = .ok s) (hes : es.mapM (plan schema functions) = .ok ss) :
    plan schema functions (es.foldl .and e) = .ok (ss.foldl (.binary .and) s) := by
  have hall := mapM_eq_ok.1 hes
  clear hes
  induction hall generalizing e s with
  | nil => exact h
  | cons hx _ ih => exact ih (by simp [plan_and, h, hx])

theorem planPredicate_andAll {es : List Expr} {ss : List Scalar}
    (h : es.mapM (plan schema functions) = .ok ss) :
    Physical.planPredicate functions schema (Expr.andAll es) = .ok (andAll ss) := by
  cases es with
  | nil =>
      cases h
      rfl
  | cons e es =>
      rw [List.mapM_cons] at h
      obtain ⟨s, hs, h⟩ := bind_eq_ok.1 h
      obtain ⟨rest, hrest, h⟩ := bind_eq_ok.1 h
      cases h
      simp [Expr.andAll, andAll, Physical.planPredicate, plan_foldl_and hs hrest]

end Scalar

namespace Typing

variable {schema : Schema} {functions : FunctionRegistry}

theorem fieldOf_and (l r : Expr) : fieldOf schema functions (.and l r) = do
    let _ ← fieldOf schema functions l
    let _ ← fieldOf schema functions r
    return .anonymous .boolean := by
  simp [Expr.and, fieldOf, binaryType, isChecked, BinaryOp.isArithmetic, BinaryOp.isComparison,
    BinaryOp.isLogical]

theorem exists_fieldOf_foldl_and {e : Expr} {es : List Expr}
    (he : ∃ g, fieldOf schema functions e = .ok g)
    (hes : ∀ e ∈ es, ∃ g, fieldOf schema functions e = .ok g) :
    ∃ g, fieldOf schema functions (es.foldl .and e) = .ok g := by
  induction es generalizing e with
  | nil => exact he
  | cons e' es ih =>
      refine ih ?_ fun e he => hes e (List.mem_cons_of_mem _ he)
      obtain ⟨g, hg⟩ := he
      obtain ⟨g', hg'⟩ := hes e' List.mem_cons_self
      exact ⟨_, by rw [fieldOf_and, hg, ok_bind, hg', ok_bind]; rfl⟩

theorem checkPredicate_andAll {es : List Expr}
    (hes : ∀ e ∈ es, ∃ g, fieldOf schema functions e = .ok g) :
    checkPredicate functions schema (Expr.andAll es) = .ok () := by
  cases es with
  | nil => rfl
  | cons e es =>
      obtain ⟨g, hg⟩ := exists_fieldOf_foldl_and (hes e List.mem_cons_self) fun e he =>
        hes e (List.mem_cons_of_mem _ he)
      simp [Expr.andAll, checkPredicate, hg]

end Typing

end QueryEngine
