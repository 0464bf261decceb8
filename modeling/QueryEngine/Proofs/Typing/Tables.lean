import QueryEngine.Physical.Compile

namespace QueryEngine

variable (schema : Schema) (functions : FunctionRegistry) (tables : Assoc TableFunction)

namespace Scalar

@[simp] theorem plan_withTables (e : Expr) :
    plan schema { functions with tables } e = plan schema functions e := by
  delta plan
  rfl

@[simp] theorem planList_withTables (es : List Expr) :
    planList schema { functions with tables } es = planList schema functions es := by
  delta planList
  rfl

end Scalar

namespace Typing

@[simp] theorem fieldOf_withTables (e : Expr) :
    fieldOf schema { functions with tables } e = fieldOf schema functions e := by
  delta fieldOf
  rfl

@[simp] theorem checkAll_withTables (es : List Expr) :
    checkAll { functions with tables } schema es = checkAll functions schema es := by
  induction es with
  | nil => rfl
  | cons e es ih => simp only [checkAll, fieldOf_withTables, ih]

@[simp] theorem checkPredicate_withTables (e : Option Expr) :
    checkPredicate { functions with tables } schema e = checkPredicate functions schema e := by
  cases e <;> simp [checkPredicate]

@[simp] theorem projectedFields_withTables (e : Expr) :
    projectedFields schema { functions with tables } e = projectedFields schema functions e := by
  cases e <;> simp only [projectedFields, fieldOf_withTables]

@[simp] theorem projectionFields_withTables (es : List Expr) :
    projectionFields schema { functions with tables } es =
      projectionFields schema functions es := by
  induction es with
  | nil => rfl
  | cons e es ih => simp only [projectionFields, projectedFields_withTables, ih]

@[simp] theorem groupKeysOver_withTables (input output : Schema) (projected keys : List Expr) :
    groupKeysOver { functions with tables } input output projected keys =
      groupKeysOver functions input output projected keys := by
  delta groupKeysOver
  rfl

@[simp] theorem groupKeys_withTables (input : Plan) (keys : List Expr) :
    groupKeys { functions with tables } input keys = groupKeys functions input keys := by
  simp [groupKeys]

@[simp] theorem aggregateBindings_withTables (es : List Expr) :
    aggregateBindings schema { functions with tables } es =
      aggregateBindings schema functions es := by
  delta aggregateBindings aggregateBindingsFrom
  rfl

@[simp] theorem hasAggregates_withTables (es : List Expr) :
    hasAggregates { functions with tables } es = hasAggregates functions es :=
  rfl

end Typing

namespace Physical

@[simp] theorem planProjection_withTables (es : List Expr) :
    planProjection { functions with tables } schema es = planProjection functions schema es := by
  induction es with
  | nil => rfl
  | cons e es ih => cases e <;> simp only [planProjection, Scalar.plan_withTables, ih]

@[simp] theorem planPredicate_withTables (e : Option Expr) :
    planPredicate { functions with tables } schema e = planPredicate functions schema e := by
  cases e <;> simp [planPredicate]

@[simp] theorem groupOutputs_withTables (bindings : List AggregateBinding) (position : Nat)
    (es : List Expr) :
    groupOutputs { functions with tables } schema bindings position es =
      groupOutputs functions schema bindings position es := by
  induction es generalizing position with
  | nil => rfl
  | cons e es ih =>
      have houtput (e : Expr) : groupOutput { functions with tables } schema bindings position e =
          groupOutput functions schema bindings position e := by
        simp only [groupOutput, Scalar.plan_withTables, Scalar.planList_withTables]
        rfl
      cases e <;> simp only [groupOutputs, houtput, ih]

@[simp] theorem sortKeys_withTables (es : List Expr) :
    sortKeys { functions with tables } schema es = sortKeys functions schema es := by
  induction es with
  | nil => rfl
  | cons e es ih => simp only [sortKeys, Scalar.plan_withTables, ih]

@[simp] theorem project?_withTables (input : Physical) (es : List Expr) :
    project? { functions with tables } input schema es = project? functions input schema es := by
  simp only [project?, Typing.hasAggregates_withTables, Typing.aggregateBindings_withTables,
    groupOutputs_withTables, planProjection_withTables]

@[simp] theorem join?_withTables (config : Config) (left right : Physical) (leftSize rightSize : Nat)
    (predicate : Option Expr) (type : JoinType) :
    join? { functions with tables } config left right schema leftSize rightSize predicate type =
      join? functions config left right schema leftSize rightSize predicate type := by
  simp only [join?, planPredicate_withTables]

end Physical

end QueryEngine
