import QueryEngine.Expr.Lemmas
import QueryEngine.Proofs.Physical.Columns
import QueryEngine.Proofs.Typing.Renaming
import QueryEngine.Proofs.Typing.Scoped

namespace QueryEngine

namespace Scalar

mutual

def renumber (f : Nat → Nat) : Scalar → Scalar
  | column i => column (f i)
  | literal v => literal v
  | param i => param i
  | unary op e => unary op (e.renumber f)
  | binary op l r => binary op (l.renumber f) (r.renumber f)
  | pattern op e r => pattern op (e.renumber f) r
  | between e low high => between (e.renumber f) (low.renumber f) (high.renumber f)
  | tuple es => tuple (renumberList f es)
  | call g args => call g (renumberList f args)
  | caseWhen branches default =>
    caseWhen (renumberBranches f branches) (renumberDefault f default)
  | cast e type => cast (e.renumber f) type
  | item e key => item (e.renumber f) key

def renumberList (f : Nat → Nat) : List Scalar → List Scalar
  | [] => []
  | e :: es => e.renumber f :: renumberList f es

def renumberBranches (f : Nat → Nat) : List (Scalar × Scalar) → List (Scalar × Scalar)
  | [] => []
  | (c, r) :: rest => (c.renumber f, r.renumber f) :: renumberBranches f rest

def renumberDefault (f : Nat → Nat) : Option Scalar → Option Scalar
  | none => none
  | some e => some (e.renumber f)

end

section

variable {s t : Schema} {functions : FunctionRegistry} {rename : String → String}
  {f : Nat → Nat}

/-- The plan over one schema is the plan over the other one, with the columns renumbered. -/
def Renumbers (s t : Schema) (functions : FunctionRegistry) (rename : String → String)
    (f : Nat → Nat) (e : Expr) : Prop :=
  plan s functions e = (plan t functions (e.mapVars rename)).map (renumber f)

theorem Renumbers.eq {e : Expr} (h : Renumbers s t functions rename f e) :
    plan s functions e = (plan t functions (e.mapVars rename)).map (renumber f) := h

theorem planList_renumber {es : List Expr} (h : ∀ e ∈ es, Renumbers s t functions rename f e) :
    planList s functions es =
      (planList t functions (Expr.mapVarsList rename es)).map (renumberList f) := by
  induction es with
  | nil => rfl
  | cons e es ih =>
      have he := h e List.mem_cons_self
      have ih := ih fun e he => h e (List.mem_cons_of_mem _ he)
      simp only [planList, Expr.mapVarsList, he.eq, ih, map_bind, bind_map]
      rfl

theorem planBranches_renumber {branches : List (Expr × Expr)}
    (h : ∀ e ∈ Expr.branchChildren branches, Renumbers s t functions rename f e) :
    planBranches s functions branches =
      (planBranches t functions (Expr.mapVarsBranches rename branches)).map
        (renumberBranches f) := by
  induction branches with
  | nil => rfl
  | cons b rest ih =>
      obtain ⟨c, r⟩ := b
      simp only [Expr.branchChildren, List.mem_cons, forall_eq_or_imp] at h
      obtain ⟨hc, hr, hrest⟩ := h
      simp only [planBranches, Expr.mapVarsBranches, hc.eq, hr.eq, ih hrest, map_bind, bind_map]
      rfl

theorem planDefault_renumber {default : Option Expr}
    (h : ∀ e ∈ default.toList, Renumbers s t functions rename f e) :
    planDefault s functions default =
      (planDefault t functions (Expr.mapVarsDefault rename default)).map (renumberDefault f) := by
  cases default with
  | none => rfl
  | some e =>
      have he := h e (by simp)
      simp only [planDefault, Expr.mapVarsDefault, he.eq, map_bind, bind_map]
      rfl

/-- Where every reference is found at its position under the other path, the whole expression has
the same plan up to the positions, or fails in the same way. -/
theorem renumbers_of_position {e : Expr} (h : ∀ path, e.Reaches Expr.children (.var path) →
    s.position path = (t.position (rename path)).map f) : Renumbers s t functions rename f e := by
  induction e using Expr.inductionOnChildren with
  | h e ih =>
      have ih : ∀ c ∈ e.children, Renumbers s t functions rename f c := fun c hc =>
        ih c hc fun path hpath => h path (.step hc hpath)
      rw [Renumbers]
      cases e with
      | var path =>
          simp only [plan, Expr.mapVars, h path (.refl _), map_bind, bind_map]
          rfl
      | const | param | star => rfl
      | unary op e | item e key | cast e type =>
          have he := ih e (List.mem_singleton_self e)
          simp only [plan, Expr.mapVars, he.eq, map_bind, bind_map]
          rfl
      | rename name e => exact ih e (List.mem_singleton_self e)
      | binary op l r =>
          -- constant patterns have no references, so both plans take the same one
          have hl := ih l List.mem_cons_self
          have hr := ih r (by simp [Expr.children])
          simp only [plan, Expr.mapVars, hl.eq, hr.eq, map_bind, bind_map,
            constantPattern?_mapVars]
          cases constantPattern? op r <;> simp only [bind_map] <;> rfl
      | between e low high =>
          have he := ih e List.mem_cons_self
          have hlow := ih low (by simp [Expr.children])
          have hhigh := ih high (by simp [Expr.children])
          simp only [plan, Expr.mapVars, he.eq, hlow.eq, hhigh.eq, map_bind, bind_map]
          rfl
      | tuple es =>
          have hes :=
            planList_renumber (show ∀ c ∈ es, Renumbers s t functions rename f c from ih)
          simp only [plan, Expr.mapVars, hes, map_bind, bind_map]
          rfl
      | call name args =>
          have hargs :=
            planList_renumber (show ∀ c ∈ args, Renumbers s t functions rename f c from ih)
          simp only [plan, Expr.mapVars, hargs, map_bind]
          split
          · rfl
          · simp only [pure_eq, bind_map]
            rfl
      | caseWhen branches default =>
          have hbranches := planBranches_renumber fun c hc => ih c (List.mem_append_left _ hc)
          have hdefault := planDefault_renumber fun c hc => ih c (List.mem_append_right _ hc)
          simp only [plan, Expr.mapVars, hbranches, hdefault, map_bind, bind_map]
          rfl

end

section

variable {f : Nat → Nat} {ctx : Context} {row full : Row}

/-- The first `n` values of a row, at other positions of a full row. -/
def Gathers (f : Nat → Nat) (n : Nat) (full row : Row) : Prop :=
  ∀ i < n, ∃ v, row[i]? = some v ∧ full[f i]? = some v

mutual

theorem eval_renumber {n : Nat} (h : Gathers f n full row) : (e : Scalar) → e.Within n →
    eval ctx full (e.renumber f) = eval ctx row e
  | .column i, hi => by
      obtain ⟨v, hrow, hfull⟩ := h i hi
      simp [renumber, eval, columnValue, hrow, hfull]
  | .literal _, _ | .param _, _ => rfl
  | .unary _ e, he | .pattern _ e _, he | .cast e _, he | .item e _, he => by
      rw [renumber, eval, eval, eval_renumber h e he]
  | .binary _ l r, he => by
      rw [renumber, eval, eval, eval_renumber h l he.1, eval_renumber h r he.2]
  | .between e low high, he => by
      rw [renumber, eval, eval, eval_renumber h e he.1, eval_renumber h low he.2.1,
        eval_renumber h high he.2.2]
  | .tuple es, he | .call _ es, he => by
      rw [renumber, eval, eval, evalList_renumber h es he]
  | .caseWhen branches default, he => by
      rw [renumber, eval, eval, evalBranches_renumber h branches he.1,
        evalDefault_renumber h default he.2]

theorem evalList_renumber {n : Nat} (h : Gathers f n full row) : (es : List Scalar) →
    WithinList n es → evalList ctx full (renumberList f es) = evalList ctx row es
  | [], _ => rfl
  | e :: es, he => by
      rw [renumberList, evalList, evalList, eval_renumber h e he.1, evalList_renumber h es he.2]

theorem evalBranches_renumber {n : Nat} (h : Gathers f n full row) :
    (branches : List (Scalar × Scalar)) → WithinBranches n branches →
      evalBranches ctx full (renumberBranches f branches) = evalBranches ctx row branches
  | [], _ => rfl
  | (c, r) :: rest, he => by
      rw [renumberBranches, evalBranches, evalBranches, eval_renumber h c he.1,
        eval_renumber h r he.2.1, evalBranches_renumber h rest he.2.2]

theorem evalDefault_renumber {n : Nat} (h : Gathers f n full row) : (e : Option Scalar) →
    WithinDefault n e → evalDefault ctx full (renumberDefault f e) = evalDefault ctx row e
  | none, _ => rfl
  | some e, he => by rw [renumberDefault, evalDefault, evalDefault, eval_renumber h e he]

end

end

end Scalar

end QueryEngine
