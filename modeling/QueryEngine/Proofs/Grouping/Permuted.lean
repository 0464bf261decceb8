import QueryEngine.Proofs.Grouping.Exact

namespace QueryEngine

open Std Value

section

variable {α : Type} (cmp : α → α → Ordering)

def least (a b : α) : α :=
  if cmp b a == .lt then b else a

variable [TransCmp cmp] {cmp}

theorem least_le_left (a b : α) : (cmp (least cmp a b) a).isLE := by
  unfold least
  split
  · next h => exact Ordering.isLE_of_eq_lt (beq_iff_eq.1 h)
  · exact ReflCmp.isLE_rfl

theorem least_le_right (a b : α) : (cmp (least cmp a b) b).isLE := by
  unfold least
  split
  · exact ReflCmp.isLE_rfl
  · next h =>
      have hswap : cmp a b = (cmp b a).swap := OrientedCmp.eq_swap
      cases hcmp : cmp b a <;> simp_all

omit [TransCmp cmp] in
theorem le_least {a b c : α} (ha : (cmp c a).isLE) (hb : (cmp c b).isLE) :
    (cmp c (least cmp a b)).isLE := by
  unfold least
  split
  · exact hb
  · exact ha

theorem least_congr {a a' : α} (h : cmp a a' = .eq) (b : α) :
    cmp (least cmp a b) (least cmp a' b) = .eq := by
  have hle : (cmp a a').isLE := by simp [h]
  have hge : (cmp a' a).isLE := by simp [OrientedCmp.eq_comm.1 h]
  exact OrientedCmp.isLE_antisymm
    (le_least (TransCmp.isLE_trans (least_le_left a b) hle) (least_le_right a b))
    (le_least (TransCmp.isLE_trans (least_le_left a' b) hge) (least_le_right a' b))

theorem least_right_comm (a b c : α) :
    cmp (least cmp (least cmp a b) c) (least cmp (least cmp a c) b) = .eq := by
  have hle (b c : α) :
      (cmp (least cmp (least cmp a b) c) (least cmp (least cmp a c) b)).isLE := by
    have hab : (cmp (least cmp (least cmp a b) c) (least cmp a b)).isLE := least_le_left _ c
    exact le_least (le_least (TransCmp.isLE_trans hab (least_le_left a b))
      (least_le_right _ c)) (TransCmp.isLE_trans hab (least_le_right a b))
  exact OrientedCmp.isLE_antisymm (hle b c) (hle c b)

end

namespace Aggregate

/-- Two arguments may be combined into a state in either order, up to a relation that later
arguments preserve and results turn into equality. -/
structure OrderFree (a : Aggregate) (R : Value → Value → Prop) : Prop where
  refl : ∀ s, R s s
  trans : ∀ s t u, R s t → R t u → R s u
  combine_related : ∀ args s s' t, R s s' → a.combine s args = .ok t →
    ∃ t', a.combine s' args = .ok t' ∧ R t t'
  combine_swap : ∀ args args' s t,
    (a.combine s args >>= fun s => a.combine s args') = .ok t →
      ∃ t', (a.combine s args' >>= fun s => a.combine s args) = .ok t' ∧ R t t'
  finalize_same : ∀ s s' v, R s s' → a.finalize s = .ok v →
    ∃ v', a.finalize s' = .ok v' ∧ v.same v' = true

/-- What is added for an argument does not depend on it, so that even an overflow comes in every
order. -/
theorem count_orderFree : count.OrderFree (· = ·) where
  refl _ := rfl
  trans _ _ _ h h' := h.trans h'
  combine_related := by
    rintro args s _ t rfl h
    exact ⟨t, h, rfl⟩
  combine_swap args args' s t h := by
    refine ⟨t, ?_, rfl⟩
    rw [← h]
    simp only [count]
    by_cases hnull : args.head?.any Value.isNull = true <;>
      by_cases hnull' : args'.head?.any Value.isNull = true <;>
        simp [hnull, hnull']
  finalize_same := by
    rintro s _ v rfl h
    exact ⟨v, h, by simp [same, ReflCmp.compare_self]⟩

/-- The order in which NULL comes after everything else. -/
def nullsLast (cmp : Value → Value → Ordering) : Value → Value → Ordering :=
  compareLex (compareOn Value.isNull) cmp

instance {cmp : Value → Value → Ordering} [TransCmp cmp] : TransCmp (nullsLast cmp) :=
  inferInstanceAs (TransCmp (compareLex (compareOn Value.isNull) cmp))

/-- An argument is combined into the least of the two, the state where they tie. -/
theorem skipNulls_eq_least (cmp : Value → Value → Ordering) [ReflCmp cmp] (state : Value)
    (args : List Value) :
    skipNulls (fun state arg => .ok (if cmp arg state == .lt then arg else state)) state args =
      .ok (least (nullsLast cmp) state (firstArg args)) := by
  have hcmp (a b : Value) : nullsLast cmp a b = (compare a.isNull b.isNull).then (cmp a b) := rfl
  have hafter : compare true false = .gt := rfl
  have hbefore : compare false true = .lt := rfl
  cases harg : firstArg args with
  | null => cases state <;> simp [skipNulls, least, harg, hcmp, isNull, hafter]
  | _ => cases state <;> simp [skipNulls, least, harg, hcmp, isNull, hbefore]

theorem orderFree_of_least (cmp : Value → Value → Ordering) [TransCmp cmp] {a : Aggregate}
    (hcombine : ∀ s args, a.combine s args = .ok (least (nullsLast cmp) s (firstArg args)))
    (hfinalize : ∀ s, a.finalize s = .ok s) (hsame : ∀ v v', cmp v v' = .eq → v.same v' = true) :
    a.OrderFree fun s s' => nullsLast cmp s s' = .eq where
  refl _ := ReflCmp.compare_self
  trans _ _ _ := TransCmp.eq_trans
  combine_related args s s' t hs h := by
    rw [hcombine] at h
    cases h
    exact ⟨_, hcombine s' args, least_congr hs _⟩
  combine_swap args args' s t h := by
    simp only [hcombine, ok_bind] at h ⊢
    cases h
    exact ⟨_, rfl, least_right_comm s _ _⟩
  finalize_same s s' v hs h := by
    rw [hfinalize] at h
    cases h
    exact ⟨s', hfinalize s', hsame s s' (compareLex_eq_eq.1 hs).2⟩

theorem min_orderFree : min.OrderFree fun s s' => nullsLast Value.cmp s s' = .eq :=
  orderFree_of_least Value.cmp (skipNulls_eq_least Value.cmp) (fun _ => rfl)
    fun _ _ h => by simp [same, h]

/-- The greatest of two values is the least in the opposite order. -/
theorem combine_max : max.combine = skipNulls fun state arg =>
    .ok (if state.cmp arg == .lt then arg else state) := by
  have hflip (state arg : Value) : (state.cmp arg == .lt) = (arg.cmp state == .gt) := by
    have hswap : state.cmp arg = (arg.cmp state).swap := OrientedCmp.eq_swap
    rw [hswap]
    cases arg.cmp state <;> rfl
  simp only [hflip]
  rfl

theorem max_orderFree :
    max.OrderFree fun s s' => nullsLast (fun a b => b.cmp a) s s' = .eq := by
  refine orderFree_of_least (fun a b => b.cmp a) (fun s args => ?_) (fun _ => rfl) fun v v' h => ?_
  · rw [combine_max]
    exact skipNulls_eq_least (fun a b => b.cmp a) s args
  · rw [same_comm]
    simp [same, h]

end Aggregate

theorem headD_mem {rows : List Row} (hne : rows ≠ []) : rows.headD [] ∈ rows := by
  cases rows with
  | nil => exact absurd rfl hne
  | cons r rows => exact List.mem_cons_self

namespace Scalar

theorem exists_eval_of_sameList {ctx : Context} {es : List Scalar} {e : Scalar} (he : e ∈ es)
    {row row' : Row} {vs vs' : List Value} (h : evalList ctx row es = .ok vs)
    (h' : evalList ctx row' es = .ok vs') (hsame : sameList vs vs' = true) :
    ∃ v v', eval ctx row e = .ok v ∧ eval ctx row' e = .ok v' ∧ v.same v' = true := by
  induction es generalizing vs vs' with
  | nil => cases he
  | cons e' es ih =>
      obtain ⟨v, hv, h⟩ := bind_eq_ok.1 h
      obtain ⟨ws, hws, h⟩ := bind_eq_ok.1 h
      obtain ⟨v', hv', h'⟩ := bind_eq_ok.1 h'
      obtain ⟨ws', hws', h'⟩ := bind_eq_ok.1 h'
      cases h
      cases h'
      rw [sameList_cons, Bool.and_eq_true] at hsame
      rcases List.mem_cons.1 he with rfl | he
      · exact ⟨v, v', hv, hv', hsame.1⟩
      · exact ih he hws hws' hsame.2

end Scalar

namespace GroupOutput

/-- Outputs that depend on the rows of a class and not on their order: the keys of the class, and
aggregates that take their arguments in any order. -/
inductive OrderFree (keys : List Scalar) : GroupOutput → Prop
  | key {e} (he : e ∈ keys) : OrderFree keys (.scalar e)
  | fold {a R args} (ha : a.OrderFree R) : OrderFree keys (.aggregate a args)

variable {ctx : Context} {keys : List Scalar} {keyOf : Row → List Value} {c c' : List Row}

section

variable {a : Aggregate} {R : Value → Value → Prop} (ha : a.OrderFree R) (args : List Scalar)

include ha

theorem combine_related (row : Row) (s s' t : Value) (hrel : R s s')
    (h : (aggregate a args).combine ctx row s = .ok t) :
    ∃ t', (aggregate a args).combine ctx row s' = .ok t' ∧ R t t' := by
  obtain ⟨vs, hvs, h⟩ := bind_eq_ok.1 h
  obtain ⟨t', ht', hrel⟩ := ha.combine_related vs s s' t hrel h
  exact ⟨t', bind_eq_ok.2 ⟨vs, hvs, ht'⟩, hrel⟩

theorem combine_swap (row row' : Row) (s t : Value)
    (h : ((aggregate a args).combine ctx row s >>= (aggregate a args).combine ctx row') = .ok t) :
    ∃ t', ((aggregate a args).combine ctx row' s >>= (aggregate a args).combine ctx row) =
      .ok t' ∧ R t t' := by
  obtain ⟨s₁, hs₁, h⟩ := bind_eq_ok.1 h
  obtain ⟨vs, hvs, hs₁⟩ := bind_eq_ok.1 hs₁
  obtain ⟨vs', hvs', h⟩ := bind_eq_ok.1 h
  obtain ⟨t', ht', hrel⟩ := ha.combine_swap vs vs' s t (bind_eq_ok.2 ⟨s₁, hs₁, h⟩)
  obtain ⟨s₂, hs₂, ht'⟩ := bind_eq_ok.1 ht'
  exact ⟨t', bind_eq_ok.2 ⟨s₂, bind_eq_ok.2 ⟨vs', hvs', hs₂⟩, bind_eq_ok.2 ⟨vs, hvs, ht'⟩⟩, hrel⟩

end

theorem exists_valueOver_of_perm {o : GroupOutput} (ho : o.OrderFree keys) (hperm : c.Perm c')
    (hne : c ≠ []) (hkeys : ∀ r ∈ c, Scalar.evalList ctx r keys = .ok (keyOf r))
    (hsame : ∀ r ∈ c, ∀ r' ∈ c, sameList (keyOf r) (keyOf r') = true) {v : Value}
    (h : o.valueOver ctx c = .ok v) :
    ∃ v', o.valueOver ctx c' = .ok v' ∧ v.same v' = true := by
  cases ho with
  | @key e he =>
      have hfirst := headD_mem hne
      have hfirst' := hperm.mem_iff.2 (headD_mem fun hnil => hne (hnil ▸ hperm).eq_nil)
      obtain ⟨w, w', hw, hw', hww'⟩ := Scalar.exists_eval_of_sameList he (hkeys _ hfirst)
        (hkeys _ hfirst') (hsame _ hfirst _ hfirst')
      obtain rfl := Except.ok.inj (hw.symm.trans h)
      exact ⟨w', hw', hww'⟩
  | @fold a R args ha =>
      obtain ⟨s, hs, hv⟩ := bind_eq_ok.1 h
      obtain ⟨s', hs', hrel⟩ := exists_foldlM_of_perm ha.refl ha.trans (combine_related ha args)
        (combine_swap ha args) hperm hs
      obtain ⟨v', hv', hvv'⟩ := ha.finalize_same s s' v hrel hv
      exact ⟨v', bind_eq_ok.2 ⟨s', hs', hv'⟩, hvv'⟩

theorem exists_rowOver_of_perm {outputs : List GroupOutput}
    (hfree : ∀ o ∈ outputs, o.OrderFree keys) (hperm : c.Perm c') (hne : c ≠ [])
    (hkeys : ∀ r ∈ c, Scalar.evalList ctx r keys = .ok (keyOf r))
    (hsame : ∀ r ∈ c, ∀ r' ∈ c, sameList (keyOf r) (keyOf r') = true) {out : Row}
    (h : rowOver ctx outputs c = .ok out) :
    ∃ out', rowOver ctx outputs c' = .ok out' ∧
      List.Forall₂ (fun v v' => v.same v' = true) out out' := by
  have hvalues := exists_mapM_map (h := id) h fun o ho _ hv =>
    exists_valueOver_of_perm (hfree o ho) hperm hne hkeys hsame hv
  rwa [List.map_id] at hvalues

end GroupOutput

namespace Classes

def withKeyOf (keyOf : Row → List Value) (rows c : List Row) : List Row :=
  rows.filter fun r => sameList (keyOf r) (keyOf (c.headD []))

variable {keyOf : Row → List Value} {rows rows' : List Row} {classes : List (List Row)}

theorem perm_withKeyOf (h : Classes keyOf rows classes) (hperm : rows.Perm rows') {c : List Row}
    (hc : c ∈ classes) : c.Perm (withKeyOf keyOf rows' c) := by
  obtain ⟨r, hr, hcr⟩ := h.class_eq c hc
  have hsame := h.same_of_mem hc hr (headD_mem (h.ne_nil hc))
  have hfilter : withKeyOf keyOf rows' c =
      rows'.filter fun r' => sameList (keyOf r') (keyOf r) := by
    refine List.filter_congr fun r' _ => ?_
    rw [sameList_comm, ← sameList_congr_left hsame, sameList_comm]
  rw [hfilter]
  exact hcr ▸ hperm.filter _

/-- The classes of a permuted list are the permuted classes, in the same order. -/
theorem of_perm (h : Classes keyOf rows classes) (hperm : rows.Perm rows') :
    Classes keyOf rows' (classes.map (withKeyOf keyOf rows')) := by
  refine ⟨?_, ?_, ?_⟩
  · rw [List.pairwise_map]
    refine h.ascending.imp_of_mem fun {c d} hc hd hlt r hr r' hr' => ?_
    exact hlt r ((h.perm_withKeyOf hperm hc).mem_iff.2 hr) r'
      ((h.perm_withKeyOf hperm hd).mem_iff.2 hr')
  · intro c' hc'
    obtain ⟨c, hc, rfl⟩ := List.mem_map.1 hc'
    exact ⟨c.headD [], (h.perm_withKeyOf hperm hc).mem_iff.1 (headD_mem (h.ne_nil hc)), rfl⟩
  · intro r hr
    obtain ⟨c, hc, hrc⟩ := h.covers r (hperm.mem_iff.2 hr)
    exact ⟨_, List.mem_map_of_mem hc, (h.perm_withKeyOf hperm hc).mem_iff.1 hrc⟩

end Classes

namespace Physical

open GroupOutput Typing

section

variable {functions : FunctionRegistry} {schema : Schema} {planned : List Scalar}

/-- Projected expressions that are bound to a grouping key, `*` over such columns, and calls of
`count`, `min` or `max`, under any renames. -/
inductive OrderFree (functions : FunctionRegistry) (schema : Schema) (planned : List Scalar) :
    Expr → Prop
  | key {e s} (hplan : Scalar.plan schema functions e = .ok s) (hs : s ∈ planned) :
    OrderFree functions schema planned e
  | star {q positions} (hpositions : schema.selectAll q = .ok positions)
    (hkeys : ∀ i ∈ positions, .column i ∈ planned) : OrderFree functions schema planned (.star q)
  | fold {e name args a} (hcall : e.unaliased = .call name args)
    (ha : functions.aggregate name = .ok a) (hfold : a = .count ∨ a = .min ∨ a = .max) :
    OrderFree functions schema planned e

theorem plan_unaliased (e : Expr) :
    Scalar.plan schema functions e.unaliased = Scalar.plan schema functions e := by
  induction e using Expr.unaliased.induct with
  | case1 name e ih => rw [Expr.unaliased, ih, Scalar.plan]
  | case2 e he => rw [Expr.unaliased]; exact he

theorem isAggregate_of_aggregate {name : String} {a : Aggregate}
    (h : functions.aggregate name = .ok a) : functions.isAggregate name = true := by
  unfold FunctionRegistry.aggregate at h
  split at h
  · next hget => simp [FunctionRegistry.isAggregate, Assoc.contains, hget]
  · cases h

theorem outputOf_of_plan {e : Expr} {s : Scalar} (h : Scalar.plan schema functions e = .ok s) :
    outputOf functions schema e = .ok (.scalar s) := by
  rw [outputOf]
  split
  · next name args hcall =>
      have hagg : functions.isAggregate name = false := by
        rw [← plan_unaliased, hcall, Scalar.plan] at h
        cases hagg : functions.isAggregate name with
        | false => rfl
        | true =>
            rw [hagg] at h
            cases h
      simp [hagg, h]
  · rw [h, ok_bind, pure_eq]

theorem orderFree_of_outputsOf {e : Expr} (he : OrderFree functions schema planned e)
    {os : List GroupOutput} (h : outputsOf functions schema e = .ok os) :
    ∀ o ∈ os, o.OrderFree planned := by
  cases he with
  | @key _ s hplan hs =>
      have hstar (q : Option String) : e ≠ .star q := by
        rintro rfl
        cases hplan
      rw [outputsOf_of_ne hstar, outputOf_of_plan hplan, ok_bind, pure_eq] at h
      cases h
      simpa using .key hs
  | @star q positions hpositions hkeys =>
      simp only [outputsOf, hpositions, ok_bind, pure_eq] at h
      cases h
      intro o ho
      obtain ⟨i, hi, rfl⟩ := List.mem_map.1 ho
      exact .key (hkeys i hi)
  | @fold _ name args a hcall ha hfold =>
      have hstar (q : Option String) : e ≠ .star q := by
        rintro rfl
        cases hcall
      rw [outputsOf_of_ne hstar, outputOf, hcall] at h
      simp only [isAggregate_of_aggregate ha, if_true, ha, ok_bind] at h
      obtain ⟨o, ho, h⟩ := bind_eq_ok.1 h
      obtain ⟨as, has, ho⟩ := bind_eq_ok.1 ho
      cases ho
      cases h
      rw [List.forall_mem_singleton]
      rcases hfold with rfl | rfl | rfl
      · exact .fold Aggregate.count_orderFree
      · exact .fold Aggregate.min_orderFree
      · exact .fold Aggregate.max_orderFree

end

variable {relation relation' : String → Except Error Relation} {functions : FunctionRegistry}
  {config config' : Config} {plan inner : Plan} {exprs : List Expr}
  {bindings : List AggregateBinding} {input input' sorted : Physical} {planned : List Scalar}
  {outputs : List GroupOutput} {ctx : Context} {keyOf : Row → List Value} {rs rs' : List Row}

theorem compile_group_of_input (hplan : Groups functions inner exprs bindings plan)
    (hinput : compile relation functions config inner = .ok input)
    (hinput' : compile relation' functions config' inner = .ok input')
    (hgroup : compile relation functions config plan = .ok (.group sorted planned outputs)) :
    compile relation' functions config' plan =
      .ok (.group (sortedBy input' planned) planned outputs) := by
  cases hplan with
  | @projected schema own _ hschema hbindings =>
      simp only [compile, hschema, hinput, hinput', ok_bind, project?, hbindings] at hgroup ⊢
      split at hgroup
      · next hagg =>
          obtain ⟨outs, houts, h⟩ := bind_eq_ok.1 hgroup
          cases h
          rw [if_pos hagg, houts]
          rfl
      · obtain ⟨columns, -, h⟩ := bind_eq_ok.1 hgroup
        cases h
  | grouped =>
      rw [compile] at hgroup
      obtain ⟨schema, hschema, hgroup⟩ := bind_eq_ok.1 hgroup
      obtain ⟨bound, hbound, hgroup⟩ := bind_eq_ok.1 hgroup
      obtain ⟨keys, hkeys, hgroup⟩ := bind_eq_ok.1 hgroup
      obtain ⟨input, -, hgroup⟩ := bind_eq_ok.1 hgroup
      obtain ⟨outs, houts, h⟩ := bind_eq_ok.1 hgroup
      cases h
      simp [compile, hschema, hbound, hkeys, hinput', houts]

/-- Over permuted input, a grouping that projects only its keys and `count`, `min` and `max` gives
the same rows in the same order, up to equality of values. -/
theorem execute_group_perm {schema : Schema} {fields : List Field}
    (hplan : Groups functions inner exprs bindings plan)
    (hschema : inner.outputSchema = .ok schema)
    (hfields : projectionFields schema functions exprs = .ok fields)
    (hbindings : aggregateBindings schema functions exprs = .ok bindings)
    (hinput : compile relation functions config inner = .ok input)
    (hinput' : compile relation' functions config' inner = .ok input')
    (hgroup : compile relation functions config plan = .ok (.group sorted planned outputs))
    (hfree : ∀ e ∈ exprs, OrderFree functions schema planned e)
    {rows rows' : Rows} (hrows : execute ctx input = .ok rows) (hrs : rows.toList = rs.map .ok)
    (hrows' : execute ctx input' = .ok rows') (hrs' : rows'.toList = rs'.map .ok)
    (hperm : rs.Perm rs')
    (hkeys : ∀ r ∈ rs, Scalar.evalList ctx r planned = .ok (keyOf r))
    (houts : ∀ r ∈ rs, ∃ out,
      rowOver ctx outputs (rs.filter fun r' => sameList (keyOf r') (keyOf r)) = .ok out) :
    ∃ result result' outs outs',
      compile relation' functions config' plan =
        .ok (.group (sortedBy input' planned) planned outputs) ∧
      execute ctx (.group sorted planned outputs) = .ok result ∧ result.toList = outs.map .ok ∧
      execute ctx (.group (sortedBy input' planned) planned outputs) = .ok result' ∧
      result'.toList = outs'.map .ok ∧
      List.Forall₂ (List.Forall₂ fun v v' => v.same v' = true) outs outs' := by
  obtain ⟨schema', bound, hschema', -, -, rfl, houtputs⟩ := compile_eq_group hplan hinput hgroup
  obtain rfl := Except.ok.inj (hschema.symm.trans hschema')
  have hfree' : ∀ o ∈ outputs, o.OrderFree planned := by
    have hnone : ∀ b ∈ ([] : List AggregateBinding), b.position < 0 := by simp
    obtain ⟨parts, hparts, rfl⟩ := groupOutputs_eq hfields hbindings hnone houtputs
    intro o ho
    obtain ⟨os, hos, ho⟩ := List.mem_flatten.1 ho
    obtain ⟨e, he, hpart⟩ := exists_of_mem_mapM hparts hos
    exact orderFree_of_outputsOf (hfree e he) hpart o ho
  obtain ⟨classes, hclasses, -⟩ := exists_classes keyOf rs
  obtain ⟨outs, houts⟩ := hclasses.exists_mapM houts
  obtain ⟨outs', houts', hsame⟩ := exists_mapM_map houts fun c hc _ hout =>
    exists_rowOver_of_perm hfree' (hclasses.perm_withKeyOf hperm hc) (hclasses.ne_nil hc)
      (fun r hr => hkeys r (hclasses.mem_rows hc hr))
      (fun r hr r' hr' => hclasses.same_of_mem hc hr hr') hout
  have hkeys' : ∀ r ∈ rs', Scalar.evalList ctx r planned = .ok (keyOf r) :=
    fun r hr => hkeys r (hperm.mem_iff.2 hr)
  obtain ⟨result, hresult, hlist⟩ := execute_group_of_classes hrows hrs hkeys hclasses houts
  obtain ⟨result', hresult', hlist'⟩ :=
    execute_group_of_classes hrows' hrs' hkeys' (hclasses.of_perm hperm) houts'
  exact ⟨result, result', outs, outs', compile_group_of_input hplan hinput hinput' hgroup, hresult,
    hlist, hresult', hlist', hsame⟩

theorem execute_group_perm_mixed_keys :
    let field (name : String) (type : DataType) : Field := ⟨name, type, .nullable, [], none⟩
    let schema : Schema := ⟨none, [field "key" .float, field "size" .integer]⟩
    let one : Value := .float (Binary64.ofInt 1)
    let zero : Value := .float ⟨0x8000000000000000⟩
    let rs : List Row := [[one, .integer 10], [.null, .integer 20], [.integer 1, .integer 5],
      [.integer 0, .null], [zero, .null]]
    let relation (rs : List Row) (_ : String) : Except Error Relation :=
      .ok ⟨schema, ⟨.ok (.ofRows rs)⟩⟩
    let exprs : List Expr := [.var "key", .rename "rows" (.call "count" []),
      .call "min" [.var "size"], .call "max" [.var "key"]]
    let plan : Plan := .groupBy (.project (.load "table" (some schema)) exprs (some ⟨none,
      [field "key" .float, field "rows" .integer, field "min" .integer, field "max" .float]⟩))
      [.var "key"] [⟨1, "count", []⟩, ⟨2, "min", [.var "size"]⟩, ⟨3, "max", [.var "key"]⟩] none
    let outs (zero one : Value) : List Row := [[.null, .integer 1, .integer 20, .null],
      [zero, .integer 2, .null, zero], [one, .integer 2, .integer 5, one]]
    ∃ p p' result result', compile (relation rs) .builtins {} plan = .ok p ∧
      compile (relation rs.reverse) .builtins {} plan = .ok p' ∧
      execute {} p = .ok result ∧ result.toList = (outs (.integer 0) one).map .ok ∧
      execute {} p' = .ok result' ∧ result'.toList = (outs zero (.integer 1)).map .ok ∧
      List.Forall₂ (List.Forall₂ fun v v' => v.same v' = true)
        (outs (.integer 0) one) (outs zero (.integer 1)) := by
  intro field schema one zero rs relation exprs plan outs
  let keyOf : Row → List Value := fun r => [r.headD .null]
  let input (rs : List Row) : Physical := .scan ⟨.ok (.ofRows rs)⟩
  let outputs : List GroupOutput := [.scalar (.column 0), .aggregate .count [],
    .aggregate .min [.column 1], .aggregate .max [.column 0]]
  have hgroup : compile (relation rs) .builtins {} plan =
      .ok (.group (sortedBy (input rs) [.column 0]) [.column 0] outputs) := rfl
  have hfree : ∀ e ∈ exprs, OrderFree .builtins schema [.column 0] e := by
    simp only [exprs, List.mem_cons, List.not_mem_nil, or_false]
    rintro e (rfl | rfl | rfl | rfl)
    · exact .key rfl List.mem_cons_self
    · exact .fold rfl rfl (.inl rfl)
    · exact .fold rfl rfl (.inr (.inl rfl))
    · exact .fold rfl rfl (.inr (.inr rfl))
  have hinput (rs : List Row) : compile (relation rs) .builtins {} (.load "table" (some schema)) =
      .ok (input rs) := rfl
  have hrows (rs : List Row) : execute {} (input rs) = .ok (.ofRows rs) := rfl
  have hkeys : ∀ r ∈ rs, Scalar.evalList {} r [.column 0] = .ok (keyOf r) := by
    simp only [rs, List.mem_cons, List.not_mem_nil, or_false]
    rintro r (rfl | rfl | rfl | rfl | rfl) <;> rfl
  have houts : ∀ r ∈ rs, ∃ out, rowOver {} outputs
      (rs.filter fun r' => sameList (keyOf r') (keyOf r)) = .ok out := by
    simp only [rs, List.mem_cons, List.not_mem_nil, or_false]
    rintro r (rfl | rfl | rfl | rfl | rfl) <;> exact ⟨_, rfl⟩
  have hperm : rs.Perm rs.reverse := (List.reverse_perm rs).symm
  obtain ⟨result, result', outs₁, outs₂, hgroup', hresult, hlist, hresult', hlist', hsame⟩ :=
    execute_group_perm .grouped rfl rfl rfl (hinput rs) (hinput rs.reverse) hgroup hfree (hrows rs)
      (Rows.toList_ofRows rs) (hrows rs.reverse) (Rows.toList_ofRows rs.reverse) hperm hkeys houts
  have hclasses : Classes keyOf rs [[rs[1]], [rs[3], rs[4]], [rs[0], rs[2]]] := by
    refine ⟨?_, ?_, by simp [rs]⟩
    · simp only [List.pairwise_cons, List.mem_cons, List.not_mem_nil, or_false, forall_eq_or_imp,
        forall_eq]
      exact ⟨⟨⟨rfl, rfl⟩, rfl, rfl⟩, ⟨⟨rfl, rfl⟩, rfl, rfl⟩, by simp⟩
    · simp only [List.mem_cons, List.not_mem_nil, or_false]
      rintro c (rfl | rfl | rfl) <;> exact ⟨_, List.mem_cons_self, rfl⟩
  -- the rows that come out are those over the classes, in either order of the input
  have hunique {rs outs outs' : List Row} {classes : List (List Row)} {result : Rows}
      (hkeys : ∀ r ∈ rs, Scalar.evalList {} r [.column 0] = .ok (keyOf r))
      (hclasses : Classes keyOf rs classes) (houts : classes.mapM (rowOver {} outputs) = .ok outs)
      (hresult : execute {} (.group (sortedBy (input rs) [.column 0]) [.column 0] outputs) =
        .ok result) (hlist : result.toList = outs'.map .ok) : outs' = outs := by
    obtain ⟨result', hresult', hlist'⟩ :=
      execute_group_of_classes (hrows rs) (Rows.toList_ofRows rs) hkeys hclasses houts
    obtain rfl := Except.ok.inj (hresult.symm.trans hresult')
    exact List.map_injective_iff.2 (fun _ _ => Except.ok.inj) (hlist.symm.trans hlist')
  obtain rfl : outs₁ = outs (.integer 0) one := hunique hkeys hclasses rfl hresult hlist
  obtain rfl : outs₂ = outs zero (.integer 1) :=
    hunique (fun r hr => hkeys r (hperm.mem_iff.2 hr)) (hclasses.of_perm hperm) rfl hresult' hlist'
  exact ⟨_, _, result, result', hgroup, hgroup', hresult, hlist, hresult', hlist', hsame⟩

end Physical

end QueryEngine
