import QueryEngine.Physical.Compile
import QueryEngine.Proofs.Except

namespace QueryEngine

/-- Where `p` does not hold, the path that `f` gives finds in the second schema the column that the
path finds in the first, whoever owns it there. -/
def Schema.Renames (s t : Schema) (p : Expr → Bool) (f : String → String) : Prop :=
  ∀ path, p (.var path) = false → ∀ i g, s.resolve path = .ok (i, g) →
    ∃ owner, t.resolve (f path) = .ok (i, { g with schemaName := owner })

variable {s t : Schema} {functions : FunctionRegistry} {p : Expr → Bool} {f : String → String}

namespace Typing

def SameField (g g' : Field) : Prop :=
  ∃ owner, g' = { g with schemaName := owner }

theorem SameField.refl (g : Field) : SameField g g :=
  ⟨g.schemaName, by cases g; rfl⟩

theorem SameField.type_eq {g g' : Field} (h : SameField g g') : g'.type = g.type := by
  obtain ⟨owner, rfl⟩ := h
  rfl

theorem SameField.unaryField {g g' : Field} (h : SameField g g') (op : UnaryOp) :
    unaryField op g' = unaryField op g := by
  obtain ⟨owner, rfl⟩ := h
  cases op <;> rfl

theorem SameField.itemField {g g' : Field} (h : SameField g g') (key : Value) :
    itemField g' key = itemField g key := by
  obtain ⟨owner, rfl⟩ := h
  rfl

theorem resolve_congr {gs gs' : List Field} (h : List.Forall₂ SameField gs gs')
    (r : ReturnField) : r.resolve gs' = r.resolve gs := by
  cases r with
  | fixed g => rfl
  | firstArgument name =>
      cases h with
      | nil => rfl
      | cons hg _ => simp only [ReturnField.resolve, hg.type_eq]

end Typing

open Typing

/-- The field of the results does not depend on the owners of the columns that are the arguments. -/
def ScalarFunction.IgnoresOwners (f : ScalarFunction) : Prop :=
  ∀ gs gs', List.Forall₂ SameField gs gs' → f.returns gs' = f.returns gs

theorem ScalarFunction.ignoresOwners_simple (name : String) (r : ReturnField)
    (invoke : List Value → Except Error Value) : (simple name r invoke).IgnoresOwners :=
  fun _ _ h => resolve_congr h r

def FunctionRegistry.IgnoresOwners (r : FunctionRegistry) : Prop :=
  ∀ name f, r.scalar name = .ok f → f.IgnoresOwners

theorem FunctionRegistry.ignoresOwners_of_scalars {r : FunctionRegistry}
    (h : ∀ f ∈ r.scalars, f.2.IgnoresOwners) : r.IgnoresOwners := by
  intro name f hf
  unfold scalar at hf
  split at hf
  · next g hg =>
      cases hf
      obtain ⟨pair, hpair, rfl⟩ := Option.map_eq_some_iff.1 hg
      exact h pair (List.mem_of_find?_eq_some hpair)
  · cases hf

namespace Typing

theorem callField_congr (hf : functions.IgnoresOwners) {gs gs' : List Field}
    (h : List.Forall₂ SameField gs gs') (name : String) :
    callField functions name gs' = callField functions name gs := by
  simp only [callField, resolve_congr h]
  split
  · rfl
  · cases hscalar : functions.scalar name with
    | error e => rfl
    | ok f => exact hf name f hscalar gs gs' h

mutual

theorem fieldOf_mapVars (hf : functions.IgnoresOwners) (h : s.Renames t p f) : (e : Expr) →
    e.any p = false → ∀ {g : Field}, fieldOf s functions e = .ok g →
      ∃ g', fieldOf t functions (e.mapVars f) = .ok g' ∧ SameField g g'
  | .var path, he, g, hg => by
      obtain ⟨⟨i, field⟩, hfield, hg⟩ := bind_eq_ok.1 hg
      obtain rfl : s.owned field = g := by simpa using hg
      obtain ⟨owner, howner⟩ := h path (by simpa [Expr.any] using he) i field hfield
      exact ⟨_, by simp only [Expr.mapVars, fieldOf, howner, ok_bind]; rfl, _, rfl⟩
  | .const v, _, g, hg => ⟨g, hg, .refl g⟩
  | .param i, _, g, hg => ⟨g, hg, .refl g⟩
  | .unary op e, he, g, hg => by
      obtain ⟨inner, hinner, hg⟩ := bind_eq_ok.1 hg
      obtain ⟨inner', hinner', hsame⟩ := fieldOf_mapVars hf h e (by simp_all [Expr.any]) hinner
      exact ⟨g, by rw [Expr.mapVars, fieldOf, hinner', ok_bind, hsame.unaryField, hg], .refl g⟩
  | .item e key, he, g, hg => by
      obtain ⟨inner, hinner, hg⟩ := bind_eq_ok.1 hg
      obtain ⟨inner', hinner', hsame⟩ := fieldOf_mapVars hf h e (by simp_all [Expr.any]) hinner
      exact ⟨g, by rw [Expr.mapVars, fieldOf, hinner', ok_bind, hsame.itemField, hg], .refl g⟩
  | .binary op l r, he, g, hg => by
      obtain ⟨left, hleft, hg⟩ := bind_eq_ok.1 hg
      obtain ⟨right, hright, hg⟩ := bind_eq_ok.1 hg
      obtain ⟨left', hleft', hl⟩ := fieldOf_mapVars hf h l (by simp_all [Expr.any]) hleft
      obtain ⟨right', hright', hr⟩ := fieldOf_mapVars hf h r (by simp_all [Expr.any]) hright
      exact ⟨g, by rw [Expr.mapVars, fieldOf, hleft', ok_bind, hright', ok_bind, hl.type_eq,
        hr.type_eq, hg], .refl g⟩
  | .between e low high, he, g, hg => by
      obtain ⟨input, hinput, hg⟩ := bind_eq_ok.1 hg
      obtain ⟨lowField, hlow, hg⟩ := bind_eq_ok.1 hg
      obtain ⟨above, habove, hg⟩ := bind_eq_ok.1 hg
      obtain ⟨highField, hhigh, hg⟩ := bind_eq_ok.1 hg
      obtain ⟨input', hinput', hi⟩ := fieldOf_mapVars hf h e (by simp_all [Expr.any]) hinput
      obtain ⟨low', hlow', hl⟩ := fieldOf_mapVars hf h low (by simp_all [Expr.any]) hlow
      obtain ⟨high', hhigh', hh⟩ := fieldOf_mapVars hf h high (by simp_all [Expr.any]) hhigh
      exact ⟨g, by rw [Expr.mapVars, fieldOf, hinput', ok_bind, hlow', ok_bind, hi.type_eq,
        hl.type_eq, habove, ok_bind, hhigh', ok_bind, hh.type_eq, hg], .refl g⟩
  | .tuple es, he, g, hg => by
      obtain ⟨type, htype, hg⟩ := bind_eq_ok.1 hg
      exact ⟨g, by rw [Expr.mapVars, fieldOf, firstType_mapVars hf h es (by simp_all [Expr.any]) htype,
        ok_bind, ← hg], .refl g⟩
  | .call name args, he, g, hg => by
      obtain ⟨gs, hgs, hg⟩ := bind_eq_ok.1 hg
      obtain ⟨gs', hgs', hsame⟩ := fieldsOf_mapVars hf h args (by simp_all [Expr.any]) hgs
      exact ⟨g, by rw [Expr.mapVars, fieldOf, hgs', ok_bind, callField_congr hf hsame, hg], .refl g⟩
  | .rename name e, he, g, hg => by
      obtain ⟨inner, hinner, hg⟩ := bind_eq_ok.1 hg
      obtain ⟨inner', hinner', owner, rfl⟩ := fieldOf_mapVars hf h e (by simp_all [Expr.any]) hinner
      exact ⟨g, by rw [Expr.mapVars, fieldOf, hinner', ok_bind, ← hg], .refl g⟩
  | .star q, _, g, hg => by cases hg
  | .caseWhen branches default, he, g, hg => by
      obtain ⟨results, hresults, hg⟩ := bind_eq_ok.1 hg
      obtain ⟨other, hother, hg⟩ := bind_eq_ok.1 hg
      exact ⟨g, by rw [Expr.mapVars, fieldOf,
        resultTypes_mapVars hf h branches (by simp_all [Expr.any]) hresults, ok_bind,
        defaultTypes_mapVars hf h default (by simp_all [Expr.any]) hother, ok_bind, ← hg], .refl g⟩
  | .cast e type, he, g, hg => by
      obtain ⟨inner, hinner, hg⟩ := bind_eq_ok.1 hg
      obtain rfl : { inner with type, fields := [] } = g := by simpa using hg
      obtain ⟨inner', hinner', owner, rfl⟩ := fieldOf_mapVars hf h e (by simp_all [Expr.any]) hinner
      exact ⟨_, by rw [Expr.mapVars, fieldOf, hinner', ok_bind]; rfl, owner, rfl⟩

theorem fieldsOf_mapVars (hf : functions.IgnoresOwners) (h : s.Renames t p f) :
    (es : List Expr) → Expr.anyList p es = false → ∀ {gs : List Field}, fieldsOf s functions es = .ok gs →
      ∃ gs', fieldsOf t functions (Expr.mapVarsList f es) = .ok gs' ∧ List.Forall₂ SameField gs gs'
  | [], _, gs, hgs => by
      cases hgs
      exact ⟨[], rfl, .nil⟩
  | e :: es, he, gs, hgs => by
      obtain ⟨g, hg, hgs⟩ := bind_eq_ok.1 hgs
      obtain ⟨rest, hrest, hgs⟩ := bind_eq_ok.1 hgs
      cases hgs
      obtain ⟨g', hg', hsame⟩ := fieldOf_mapVars hf h e (by simp_all [Expr.anyList]) hg
      obtain ⟨rest', hrest', hall⟩ := fieldsOf_mapVars hf h es (by simp_all [Expr.anyList]) hrest
      exact ⟨g' :: rest', by simp [Expr.mapVarsList, fieldsOf, hg', hrest'], .cons hsame hall⟩

theorem firstType_mapVars (hf : functions.IgnoresOwners) (h : s.Renames t p f) :
    (es : List Expr) → Expr.anyList p es = false → ∀ {type : DataType}, firstType s functions es = .ok type →
      firstType t functions (Expr.mapVarsList f es) = .ok type
  | [], _, _, htype => htype
  | e :: es, he, type, htype => by
      obtain ⟨g, hg, htype⟩ := bind_eq_ok.1 htype
      obtain ⟨g', hg', hsame⟩ := fieldOf_mapVars hf h e (by simp_all [Expr.anyList]) hg
      rw [Expr.mapVarsList, firstType, hg', ok_bind, hsame.type_eq, htype]

theorem resultTypes_mapVars (hf : functions.IgnoresOwners) (h : s.Renames t p f) :
    (branches : List (Expr × Expr)) → Expr.anyBranches p branches = false → ∀ {types : List DataType},
      resultTypes s functions branches = .ok types →
        resultTypes t functions (Expr.mapVarsBranches f branches) = .ok types
  | [], _, _, htypes => htypes
  | (c, r) :: rest, he, types, htypes => by
      obtain ⟨cond, hcond, htypes⟩ := bind_eq_ok.1 htypes
      obtain ⟨result, hresult, htypes⟩ := bind_eq_ok.1 htypes
      obtain ⟨types', hrest, htypes⟩ := bind_eq_ok.1 htypes
      obtain ⟨cond', hcond', -⟩ := fieldOf_mapVars hf h c (by simp_all [Expr.anyBranches]) hcond
      obtain ⟨result', hresult', hsame⟩ :=
        fieldOf_mapVars hf h r (by simp_all [Expr.anyBranches]) hresult
      rw [Expr.mapVarsBranches, resultTypes, hcond', ok_bind, hresult', ok_bind,
        resultTypes_mapVars hf h rest (by simp_all [Expr.anyBranches]) hrest, ok_bind, hsame.type_eq,
        ← htypes]

theorem defaultTypes_mapVars (hf : functions.IgnoresOwners) (h : s.Renames t p f) :
    (default : Option Expr) → Expr.anyDefault p default = false → ∀ {types : List DataType},
      defaultTypes s functions default = .ok types →
        defaultTypes t functions (Expr.mapVarsDefault f default) = .ok types
  | none, _, _, htypes => htypes
  | some e, he, types, htypes => by
      obtain ⟨g, hg, htypes⟩ := bind_eq_ok.1 htypes
      obtain ⟨g', hg', hsame⟩ := fieldOf_mapVars hf h e (by simp_all [Expr.anyDefault]) hg
      rw [Expr.mapVarsDefault, defaultTypes, hg', ok_bind, hsame.type_eq, htypes]

end

end Typing

namespace Scalar

theorem constantPattern?_mapVars (op : BinaryOp) (e : Expr) :
    constantPattern? op (e.mapVars f) = constantPattern? op e := by
  cases e <;> simp [constantPattern?, Expr.mapVars]

mutual

theorem plan_mapVars (h : s.Renames t p f) : (e : Expr) → e.any p = false → ∀ {sc : Scalar},
    plan s functions e = .ok sc → plan t functions (e.mapVars f) = .ok sc
  | .var path, he, sc, hsc => by
      obtain ⟨i, hi, hsc⟩ := bind_eq_ok.1 hsc
      obtain ⟨⟨j, field⟩, hfield, rfl⟩ := map_eq_ok.1 hi
      obtain ⟨owner, howner⟩ := h path (by simpa [Expr.any] using he) j field hfield
      rw [Expr.mapVars, plan, Schema.position, howner]
      exact hsc
  | .const v, _, _, hsc => hsc
  | .param i, _, _, hsc => hsc
  | .unary op e, he, sc, hsc => by
      obtain ⟨inner, hinner, hsc⟩ := bind_eq_ok.1 hsc
      rw [Expr.mapVars, plan, plan_mapVars h e (by simp_all [Expr.any]) hinner, ok_bind, hsc]
  | .item e key, he, sc, hsc => by
      obtain ⟨inner, hinner, hsc⟩ := bind_eq_ok.1 hsc
      rw [Expr.mapVars, plan, plan_mapVars h e (by simp_all [Expr.any]) hinner, ok_bind, hsc]
  | .binary op l r, he, sc, hsc => by
      obtain ⟨left, hleft, hsc⟩ := bind_eq_ok.1 hsc
      rw [Expr.mapVars, plan, plan_mapVars h l (by simp_all [Expr.any]) hleft, ok_bind,
        constantPattern?_mapVars]
      cases hpattern : constantPattern? op r with
      | some text => simpa only [hpattern] using hsc
      | none =>
          simp only [hpattern] at hsc ⊢
          obtain ⟨right, hright, hsc⟩ := bind_eq_ok.1 hsc
          rw [plan_mapVars h r (by simp_all [Expr.any]) hright, ok_bind, hsc]
  | .between e low high, he, sc, hsc => by
      obtain ⟨input, hinput, hsc⟩ := bind_eq_ok.1 hsc
      obtain ⟨above, habove, hsc⟩ := bind_eq_ok.1 hsc
      obtain ⟨below, hbelow, hsc⟩ := bind_eq_ok.1 hsc
      rw [Expr.mapVars, plan, plan_mapVars h e (by simp_all [Expr.any]) hinput, ok_bind,
        plan_mapVars h low (by simp_all [Expr.any]) habove, ok_bind,
        plan_mapVars h high (by simp_all [Expr.any]) hbelow, ok_bind, hsc]
  | .tuple es, he, sc, hsc => by
      obtain ⟨scs, hscs, hsc⟩ := bind_eq_ok.1 hsc
      rw [Expr.mapVars, plan, planList_mapVars h es (by simp_all [Expr.any]) hscs, ok_bind, hsc]
  | .call name args, he, sc, hsc => by
      rw [plan] at hsc
      rw [Expr.mapVars, plan]
      split at hsc
      · cases hsc
      · simp only [pure_eq] at hsc ⊢
        rw [if_neg ‹_›]
        obtain ⟨g, hg, hsc⟩ := bind_eq_ok.1 hsc
        obtain ⟨scs, hscs, hsc⟩ := bind_eq_ok.1 hsc
        simp only [hg, ok_bind, planList_mapVars h args (by simp_all [Expr.any]) hscs, hsc]
  | .rename _ e, he, sc, hsc => by
      rw [Expr.mapVars, plan]
      exact plan_mapVars h e (by simp_all [Expr.any]) hsc
  | .star q, _, sc, hsc => by cases hsc
  | .caseWhen branches default, he, sc, hsc => by
      obtain ⟨bs, hbs, hsc⟩ := bind_eq_ok.1 hsc
      obtain ⟨other, hother, hsc⟩ := bind_eq_ok.1 hsc
      rw [Expr.mapVars, plan, planBranches_mapVars h branches (by simp_all [Expr.any]) hbs, ok_bind,
        planDefault_mapVars h default (by simp_all [Expr.any]) hother, ok_bind, hsc]
  | .cast e type, he, sc, hsc => by
      obtain ⟨inner, hinner, hsc⟩ := bind_eq_ok.1 hsc
      rw [Expr.mapVars, plan, plan_mapVars h e (by simp_all [Expr.any]) hinner, ok_bind, hsc]

theorem planList_mapVars (h : s.Renames t p f) : (es : List Expr) → Expr.anyList p es = false →
    ∀ {scs : List Scalar}, planList s functions es = .ok scs →
      planList t functions (Expr.mapVarsList f es) = .ok scs
  | [], _, _, hscs => hscs
  | e :: es, he, scs, hscs => by
      obtain ⟨sc, hsc, hscs⟩ := bind_eq_ok.1 hscs
      obtain ⟨rest, hrest, hscs⟩ := bind_eq_ok.1 hscs
      rw [Expr.mapVarsList, planList, plan_mapVars h e (by simp_all [Expr.anyList]) hsc, ok_bind,
        planList_mapVars h es (by simp_all [Expr.anyList]) hrest, ok_bind, hscs]

theorem planBranches_mapVars (h : s.Renames t p f) : (branches : List (Expr × Expr)) →
    Expr.anyBranches p branches = false → ∀ {scs : List (Scalar × Scalar)},
      planBranches s functions branches = .ok scs →
        planBranches t functions (Expr.mapVarsBranches f branches) = .ok scs
  | [], _, _, hscs => hscs
  | (c, r) :: rest, he, scs, hscs => by
      obtain ⟨cond, hcond, hscs⟩ := bind_eq_ok.1 hscs
      obtain ⟨result, hresult, hscs⟩ := bind_eq_ok.1 hscs
      obtain ⟨tail, htail, hscs⟩ := bind_eq_ok.1 hscs
      rw [Expr.mapVarsBranches, planBranches,
        plan_mapVars h c (by simp_all [Expr.anyBranches]) hcond, ok_bind,
        plan_mapVars h r (by simp_all [Expr.anyBranches]) hresult, ok_bind,
        planBranches_mapVars h rest (by simp_all [Expr.anyBranches]) htail, ok_bind, hscs]

theorem planDefault_mapVars (h : s.Renames t p f) : (default : Option Expr) →
    Expr.anyDefault p default = false → ∀ {sc : Option Scalar},
      planDefault s functions default = .ok sc →
        planDefault t functions (Expr.mapVarsDefault f default) = .ok sc
  | none, _, _, hsc => hsc
  | some e, he, sc, hsc => by
      obtain ⟨inner, hinner, hsc⟩ := bind_eq_ok.1 hsc
      rw [Expr.mapVarsDefault, planDefault, plan_mapVars h e (by simp_all [Expr.anyDefault]) hinner,
        ok_bind, hsc]

end

end Scalar

end QueryEngine
