import QueryEngine.Proofs.Alignment.Plans
import QueryEngine.Proofs.Resolution.Grouped
import QueryEngine.Proofs.Resolution.Stable
import QueryEngine.Proofs.Typing.Scoped

namespace QueryEngine

open Typing Plan

def Expr.CallsAggregate (functions : FunctionRegistry) (e : Expr) : Prop :=
  ∃ x, Reaches Expr.children e x ∧ isAggregateCall functions x = true

namespace Scalar

variable {schema : Schema} {functions : FunctionRegistry}

theorem exists_of_planList {es : List Expr} {ss : List Scalar}
    (h : planList schema functions es = .ok ss) :
    ∀ e ∈ es, ∃ s, plan schema functions e = .ok s := by
  induction es generalizing ss with
  | nil => simp
  | cons e es ih =>
      obtain ⟨s, hs, h⟩ := bind_eq_ok.1 h
      obtain ⟨rest, hrest, -⟩ := bind_eq_ok.1 h
      exact List.forall_mem_cons.2 ⟨⟨s, hs⟩, ih hrest⟩

theorem exists_of_planBranches {branches : List (Expr × Expr)} {ss : List (Scalar × Scalar)}
    (h : planBranches schema functions branches = .ok ss) :
    ∀ e ∈ Expr.branchChildren branches, ∃ s, plan schema functions e = .ok s := by
  induction branches generalizing ss with
  | nil => simp [Expr.branchChildren]
  | cons branch rest ih =>
      obtain ⟨cond, hcond, h⟩ := bind_eq_ok.1 h
      obtain ⟨result, hresult, h⟩ := bind_eq_ok.1 h
      obtain ⟨tail, htail, -⟩ := bind_eq_ok.1 h
      exact List.forall_mem_cons.2
        ⟨⟨cond, hcond⟩, List.forall_mem_cons.2 ⟨⟨result, hresult⟩, ih htail⟩⟩

/-- Whatever can be planned has children that can be planned. A constant pattern is not planned with
the rest, but could be. -/
theorem exists_of_plan {e : Expr} {s : Scalar} (h : plan schema functions e = .ok s) :
    ∀ c ∈ e.children, ∃ s, plan schema functions c = .ok s := by
  cases e with
  | var | const | param | star => simp [Expr.children]
  | unary _ e | item e _ | cast e _ =>
      obtain ⟨s, hs, -⟩ := bind_eq_ok.1 h
      simpa [Expr.children] using ⟨s, hs⟩
  | rename _ e => simpa [Expr.children] using ⟨s, h⟩
  | binary op l r =>
      obtain ⟨left, hleft, h⟩ := bind_eq_ok.1 h
      have hright : ∃ s, plan schema functions r = .ok s := by
        split at h
        · next text hpattern =>
            unfold constantPattern? at hpattern
            split at hpattern
            · exact ⟨_, rfl⟩
            · cases hpattern
        · obtain ⟨right, hright, -⟩ := bind_eq_ok.1 h
          exact ⟨right, hright⟩
      simpa [Expr.children] using ⟨⟨left, hleft⟩, hright⟩
  | between e low high =>
      obtain ⟨input, hinput, h⟩ := bind_eq_ok.1 h
      obtain ⟨above, habove, h⟩ := bind_eq_ok.1 h
      obtain ⟨below, hbelow, -⟩ := bind_eq_ok.1 h
      simpa [Expr.children] using ⟨⟨input, hinput⟩, ⟨above, habove⟩, ⟨below, hbelow⟩⟩
  | tuple es =>
      obtain ⟨ss, hss, -⟩ := bind_eq_ok.1 h
      exact exists_of_planList hss
  | call name args =>
      rw [plan] at h
      split at h
      · cases h
      · obtain ⟨f, -, h⟩ := bind_eq_ok.1 h
        obtain ⟨ss, hss, -⟩ := bind_eq_ok.1 h
        exact exists_of_planList hss
  | caseWhen branches default =>
      obtain ⟨bs, hbs, h⟩ := bind_eq_ok.1 h
      obtain ⟨other, hother, -⟩ := bind_eq_ok.1 h
      intro c hc
      rcases List.mem_append.1 hc with hc | hc
      · exact exists_of_planBranches hbs c hc
      · obtain rfl := Option.mem_toList.1 hc
        obtain ⟨s, hs, -⟩ := bind_eq_ok.1 hother
        exact ⟨s, hs⟩

theorem isAggregateCall_eq_false {e : Expr} {s : Scalar} (h : plan schema functions e = .ok s) :
    isAggregateCall functions e = false := by
  induction e using Expr.unaliased.induct with
  | case1 name e ih => exact ih h
  | case2 e he =>
      cases e with
      | call name args =>
          rw [plan] at h
          split at h
          · cases h
          · next hagg => simpa [isAggregateCall, Expr.unaliased] using hagg
      | rename name e => exact absurd rfl (he name e)
      | _ => rfl

theorem not_callsAggregate {e : Expr} {s : Scalar} (h : plan schema functions e = .ok s) :
    ¬ e.CallsAggregate functions := by
  rintro ⟨x, hx, hcall⟩
  induction hx generalizing s with
  | refl e => rw [isAggregateCall_eq_false h] at hcall; cases hcall
  | step hc _ ih =>
      obtain ⟨s', hs'⟩ := exists_of_plan h _ hc
      exact ih hs' hcall

end Scalar

/-- Over the plan the name is found in its output only, and there it stands for an aggregate. -/
def NamesAggregate (functions : FunctionRegistry) (input : Plan) (path : String) : Prop :=
  ∃ inner projected s out i f e, groupedProjection input = .ok (inner, projected) ∧
    inner.outputSchema = .ok s ∧ input.outputSchema = .ok out ∧ s.resolve? path = .ok none ∧
    out.resolve? path = .ok (some (i, f)) ∧ projectedAt s i 0 projected = .ok e ∧
    isAggregateCall functions e = true

namespace Plan

/-- The keys of a grouping bind, and none of them is a name for an aggregate. -/
def KeysBind (functions : FunctionRegistry) : Plan → Prop
  | groupBy input keys _ _ => (∃ bound, groupKeys functions input keys = .ok bound) ∧
    ∀ path, .var path ∈ keys → ¬ NamesAggregate functions input path
  | _ => True

/-- No key of a grouping calls an aggregate in what it binds to. -/
def KeysCallNone (functions : FunctionRegistry) : Plan → Prop
  | groupBy input keys _ _ => ∀ bound, groupKeys functions input keys = .ok bound →
    ∀ e ∈ bound, ¬ e.CallsAggregate functions
  | _ => True

end Plan

namespace Typing

variable {functions : FunctionRegistry} {schemaOf : String → Except Error Schema} {input : Plan}
  {path : String} {before : List Expr}

theorem groupKeysOver_append (s out : Schema) (projected before after : List Expr) :
    groupKeysOver functions s out projected (before ++ after) = do
      let bound ← groupKeysOver functions s out projected before
      return bound ++ (← groupKeysOver functions s out projected after) := by
  induction before with
  | nil => simp [groupKeysOver]
  | cons key before ih => simp [groupKeysOver, ih]

theorem exists_of_groupKeys_append {after bound : List Expr}
    (h : groupKeys functions input (before ++ after) = .ok bound) :
    ∃ bound', groupKeys functions input before = .ok bound' := by
  obtain ⟨⟨inner, projected⟩, hgrouped, h⟩ := bind_eq_ok.1 h
  obtain ⟨s, hs, h⟩ := bind_eq_ok.1 h
  obtain ⟨out, hout, h⟩ := bind_eq_ok.1 h
  rw [groupKeysOver_append] at h
  obtain ⟨bound', hbound', -⟩ := bind_eq_ok.1 h
  exact ⟨bound', by simp [groupKeys, hgrouped, hs, hout, hbound']⟩

/-- A name for an aggregate is rejected, unless a key before it is. -/
theorem groupKeys_of_namesAggregate {bound : List Expr}
    (hbefore : groupKeys functions input before = .ok bound)
    (h : NamesAggregate functions input path) (after : List Expr) :
    groupKeys functions input (before ++ .var path :: after) =
      .error (.invalidPlan (.groupByAggregate path)) := by
  obtain ⟨inner, projected, s, out, i, f, e, hgrouped, hs, hout, hinput, houtput, hat, hcall⟩ := h
  have hover (keys : List Expr) :
      groupKeys functions input keys = groupKeysOver functions s out projected keys := by
    simp [groupKeys, hgrouped, hs, hout]
  rw [hover] at hbefore
  have hkey : groupKey functions s out projected (.var path) =
      .error (.invalidPlan (.groupByAggregate path)) := by
    simp [groupKey, hinput, houtput, hat, hcall]
  simp [hover, groupKeysOver_append, hbefore, groupKeysOver, hkey]

theorem resolveNode_of_namesAggregate {bound : List Expr}
    (hbefore : groupKeys functions input before = .ok bound)
    (h : NamesAggregate functions input path) (after : List Expr)
    (bindings : List AggregateBinding) (own : Option Schema) :
    resolveNode functions schemaOf (.groupBy input (before ++ .var path :: after) bindings own) =
      .error (.invalidPlan (.groupByAggregate path)) := by
  have hkeys := groupKeys_of_namesAggregate hbefore h after
  obtain ⟨inner, projected, s, out, i, f, e, hgrouped, hs, -⟩ := h
  simp [resolveNode, nodeSchema, hgrouped, hs, hkeys]

theorem keysBind_of_resolveNode {p : Plan} (h : resolveNode functions schemaOf p = .ok p) :
    p.KeysBind functions := by
  cases p with
  | groupBy input keys =>
      obtain ⟨_, hschema, -⟩ := bind_eq_ok.1 h
      obtain ⟨_, -, hschema⟩ := bind_eq_ok.1 hschema
      obtain ⟨_, -, hschema⟩ := bind_eq_ok.1 hschema
      obtain ⟨bound, hbound, -⟩ := bind_eq_ok.1 hschema
      refine ⟨⟨bound, hbound⟩, fun path hpath hnames => ?_⟩
      obtain ⟨before, after, rfl⟩ := List.append_of_mem hpath
      obtain ⟨_, hbefore⟩ := exists_of_groupKeys_append hbound
      cases hbound.symm.trans (groupKeys_of_namesAggregate hbefore hnames after)
  | _ => trivial

theorem everywhere_of_annotate {p : Plan} (h : annotate functions schemaOf p = .ok p) :
    p.Everywhere (KeysBind functions) := by
  induction p using Plan.inductionOnChildren with
  | h p ih =>
      refine .node ?_ fun c hc => ih c hc (annotate_of_mem_children h c hc)
      by_cases hhole : p = .placeholder
      · subst hhole
        trivial
      · exact keysBind_of_resolveNode (resolveNode_of_annotate h hhole)

end Typing

namespace Physical

variable {relation : String → Except Error Relation} {functions : FunctionRegistry}
  {config : Config}

theorem exists_of_mem_relationArgs {args : List (TableArg Plan)}
    {compiled : List (TableArg (Schema × Physical))}
    (h : compileArgs relation functions config args = .ok compiled) :
    ∀ p ∈ relationArgs args, ∃ P, compile relation functions config p = .ok P := by
  have hargs := forall₂_of_compileArgs h
  clear h
  induction hargs with
  | nil => simp [relationArgs]
  | cons ha _ ih =>
      cases ha with
      | constant v => exact ih
      | relation hs hP => exact List.forall_mem_cons.2 ⟨⟨_, hP⟩, ih⟩

/-- The children of a compiled node are compiled, but for the projection that a grouping groups:
there it is the input of the projection. -/
theorem exists_of_compile {p : Plan} {P : Physical}
    (h : compile relation functions config p = .ok P) :
    ∀ c ∈ p.children, (∃ Q, compile relation functions config c = .ok Q) ∨
      ∃ inner es own, c = .project inner es own ∧
        ∃ Q, compile relation functions config inner = .ok Q := by
  cases p with
  | load | placeholder => simp [children]
  | aliased _ input => simpa [children] using .inl ⟨P, h⟩
  | project input =>
      obtain ⟨_, -, h⟩ := bind_eq_ok.1 h
      obtain ⟨I, hI, -⟩ := bind_eq_ok.1 h
      simpa [children] using .inl ⟨I, hI⟩
  | select input predicate =>
      cases predicate with
      | none =>
          obtain ⟨I, hI, -⟩ := bind_eq_ok.1 h
          simpa [children] using .inl ⟨I, hI⟩
      | some e =>
          obtain ⟨_, -, h⟩ := bind_eq_ok.1 h
          obtain ⟨_, -, h⟩ := bind_eq_ok.1 h
          obtain ⟨I, hI, -⟩ := bind_eq_ok.1 h
          simpa [children] using .inl ⟨I, hI⟩
  | join left right =>
      obtain ⟨_, -, h⟩ := bind_eq_ok.1 h
      obtain ⟨_, -, h⟩ := bind_eq_ok.1 h
      obtain ⟨_, -, h⟩ := bind_eq_ok.1 h
      obtain ⟨L, hL, h⟩ := bind_eq_ok.1 h
      obtain ⟨R, hR, -⟩ := bind_eq_ok.1 h
      simpa [children] using ⟨.inl ⟨L, hL⟩, .inl ⟨R, hR⟩⟩
  | unionAll left right =>
      obtain ⟨L, hL, h⟩ := bind_eq_ok.1 h
      obtain ⟨R, hR, -⟩ := bind_eq_ok.1 h
      simpa [children] using ⟨.inl ⟨L, hL⟩, .inl ⟨R, hR⟩⟩
  | orderBy input =>
      obtain ⟨_, -, h⟩ := bind_eq_ok.1 h
      obtain ⟨_, -, h⟩ := bind_eq_ok.1 h
      obtain ⟨I, hI, -⟩ := bind_eq_ok.1 h
      simpa [children] using .inl ⟨I, hI⟩
  | groupBy input =>
      -- the projection below a grouping is not compiled by itself, but its input is
      cases input with
      | project inner es own =>
          obtain ⟨_, -, h⟩ := bind_eq_ok.1 h
          obtain ⟨_, -, h⟩ := bind_eq_ok.1 h
          obtain ⟨_, -, h⟩ := bind_eq_ok.1 h
          obtain ⟨I, hI, -⟩ := bind_eq_ok.1 h
          intro c hc
          obtain rfl := List.mem_singleton.1 hc
          exact .inr ⟨inner, es, own, rfl, I, hI⟩
      | _ => cases h
  | slice input =>
      obtain ⟨I, hI, -⟩ := bind_eq_ok.1 h
      simpa [children] using .inl ⟨I, hI⟩
  | tableFunction name args =>
      obtain ⟨_, -, h⟩ := bind_eq_ok.1 h
      obtain ⟨compiled, hcompiled, -⟩ := bind_eq_ok.1 h
      exact fun c hc => .inl (exists_of_mem_relationArgs hcompiled c hc)

theorem keysCallNone_of_compile {p : Plan} {P : Physical}
    (h : compile relation functions config p = .ok P) : p.KeysCallNone functions := by
  cases p with
  | groupBy input =>
      cases input with
      | project inner es own =>
          obtain ⟨s, -, h⟩ := bind_eq_ok.1 h
          obtain ⟨bound, hbound, h⟩ := bind_eq_ok.1 h
          obtain ⟨planned, hplanned, -⟩ := bind_eq_ok.1 h
          intro bound' hbound' e he
          obtain rfl := Except.ok.inj (hbound.symm.trans hbound')
          obtain ⟨_, hs⟩ := Scalar.exists_of_planList hplanned e he
          exact Scalar.not_callsAggregate hs
      | _ => cases h
  | _ => trivial

theorem everywhere_of_compile {p : Plan} {P : Physical}
    (h : compile relation functions config p = .ok P) : p.Everywhere (KeysCallNone functions) := by
  suffices hall : (∀ P, compile relation functions config p = .ok P →
      p.Everywhere (KeysCallNone functions)) ∧ ∀ c ∈ p.children, ∀ Q,
        compile relation functions config c = .ok Q → c.Everywhere (KeysCallNone functions) from
    hall.1 P h
  clear h
  -- with the children, as a grouping compiles the child of its projection
  induction p using Plan.inductionOnChildren with
  | h p ih =>
      refine ⟨fun P hP => ?_, fun c hc => (ih c hc).1⟩
      refine .node (keysCallNone_of_compile hP) fun c hc => ?_
      rcases exists_of_compile hP c hc with ⟨Q, hQ⟩ | ⟨inner, es, own, rfl, Q, hQ⟩
      · exact (ih c hc).1 Q hQ
      · refine .node trivial fun c' hc' => ?_
        obtain rfl := List.mem_singleton.1 hc'
        exact (ih _ hc).2 _ List.mem_cons_self Q hQ

end Physical

namespace Query

open Dataset

/-- If adapters ask for visits, then over the plan of a query a grouping by a name for an aggregate
is an invalid plan, and so the plan has none. If adapters stop at groupings, the same is said of the
grouping over the plan as it was written, four more steps given. Where a query groups by a call of an
aggregate in another way, it is not executed. -/
theorem rejects_aggregate_keys {d : Dataset} (hd : ∀ a ∈ d.adapters, a.AsksForVisits) {steps : Nat}
    {p : Plan} {q : Query} (h : Query.ofIn d steps p = .ok q) :
    (∀ before path after bindings own bound, groupKeys d.functions q.plan before = .ok bound →
      NamesAggregate d.functions q.plan path →
      Query.of d (.groupBy q.plan (before ++ .var path :: after) bindings own) =
        .error (.invalidPlan (.groupByAggregate path)) ∧
      ((∀ a ∈ d.adapters, a.StopsAtGroupings) → ∀ steps', steps + 4 ≤ steps' →
        Query.ofIn d steps' (.groupBy p (before ++ .var path :: after) bindings own) =
          .error (.invalidPlan (.groupByAggregate path)))) ∧
    q.plan.Everywhere (KeysBind d.functions) ∧
    ((∃ config params rows, q.executeWith d config params = .ok rows) →
      q.plan.Everywhere (KeysCallNone d.functions)) := by
  obtain ⟨hplan, -⟩ := Query.ofIn_eq_ok.1 h
  have hfixed := annotate_of_resolveIn hd hplan
  refine ⟨?_, everywhere_of_annotate hfixed, ?_⟩
  · intro before path after bindings own bound hbefore hnames
    have hrejected : annotateNode d.functions d.schema
        (.groupBy q.plan (before ++ .var path :: after) bindings own) =
          .error (.invalidPlan (.groupByAggregate path)) := by
      rw [annotateNode_of_ne (by simp), resolveNode_of_namesAggregate hbefore hnames after]
    refine ⟨?_, fun hstops steps' hsteps => ?_⟩
    · have hannotated :
          (Plan.groupBy q.plan (before ++ .var path :: after) bindings own).Annotated :=
        .ofChild rfl (annotated_of_annotate hfixed)
      have hresolve : d.resolve (.groupBy q.plan (before ++ .var path :: after) bindings own) =
          .error (.invalidPlan (.groupByAggregate path)) := by
        rw [resolve_of_annotated hannotated, annotate_eq, children, List.mapM_cons, hfixed,
          List.mapM_nil]
        exact hrejected
      exact congrArg (· >>= _) hresolve
    · rw [Query.ofIn, resolveIn_groupBy hstops hplan hsteps, hrejected]
      rfl
  · rintro ⟨config, params, rows, hrows⟩
    obtain ⟨P, hP, -⟩ := bind_eq_ok.1 hrows
    exact Physical.everywhere_of_compile hP

/-- The alias of a count is no key, and a count as a key keeps the query from being executed. -/
theorem rejects_aggregate_keys_count :
    let m : MemoryStore := ⟨"memory",
      [("t", ⟨⟨some "t", [⟨"id", .integer, .nullable, [], none⟩]⟩, [[.integer 1]]⟩)]⟩
    let d := Dataset.withBuiltins.addAdapter m.adapter
    let counts : Plan := .project (.load "t" none)
      [.var "id", .rename "n" (.call "count" [])] none
    (∀ a ∈ d.adapters, a.AsksForVisits) ∧ (∃ q, Query.of d counts = .ok q ∧
        Query.of d (.groupBy q.plan [.var "id", .var "n"] [] none) =
          .error (.invalidPlan (.groupByAggregate "n"))) ∧
      Query.of d (.groupBy counts [.var "id", .var "n"] [] none) =
        .error (.invalidPlan (.groupByAggregate "n")) ∧
      ∃ q, Query.of d (.groupBy counts [.cast (.call "count" []) .string] [] none) = .ok q ∧
        ∀ config params rows, q.executeWith d config params ≠ .ok rows := by
  intro m d counts
  have hd : ∀ a ∈ d.adapters, a.AsksForVisits := by
    intro a ha
    obtain rfl := List.mem_singleton.1 ha
    exact m.asksForVisits_adapter
  have hstops : ∀ a ∈ d.adapters, a.StopsAtGroupings := by
    intro a ha
    obtain rfl := List.mem_singleton.1 ha
    exact m.stopsAtGroupings_adapter
  obtain ⟨q, hq⟩ : ∃ q, Query.of d counts = .ok q := ⟨_, rfl⟩
  obtain ⟨hover, hwritten⟩ : Query.of d (.groupBy q.plan [.var "id", .var "n"] [] none) =
        .error (.invalidPlan (.groupByAggregate "n")) ∧
      Query.of d (.groupBy counts [.var "id", .var "n"] [] none) =
        .error (.invalidPlan (.groupByAggregate "n")) := by
    obtain ⟨hover, hwritten⟩ := (rejects_aggregate_keys hd hq).1 [.var "id"] "n" [] [] none _
      (by cases hq; rfl) (by cases hq; exact ⟨_, _, _, _, _, _, _, rfl, rfl, rfl, rfl, rfl, rfl, rfl⟩)
    exact ⟨hover, hwritten hstops _ (by decide)⟩
  refine ⟨hd, ⟨q, hq, hover⟩, hwritten, ?_⟩
  obtain ⟨q, hq⟩ :
      ∃ q, Query.of d (.groupBy counts [.cast (.call "count" []) .string] [] none) = .ok q :=
    ⟨_, rfl⟩
  refine ⟨q, hq, fun config params rows hrows => ?_⟩
  have hnone := (rejects_aggregate_keys hd hq).2.2 ⟨config, params, rows, hrows⟩
  cases hq
  exact hnone.here _ rfl _ List.mem_cons_self ⟨_, .step List.mem_cons_self (.refl _), rfl⟩

/-- A query may group by a call of an aggregate that is no bare name. -/
theorem of_groupBy_call :
    let m : MemoryStore := ⟨"memory",
      [("t", ⟨⟨some "t", [⟨"id", .integer, .nullable, [], none⟩]⟩, [[.integer 1]]⟩)]⟩
    let d := Dataset.withBuiltins.addAdapter m.adapter
    let count : Expr := .call "count" []
    count.CallsAggregate d.functions ∧ ∃ q,
      Query.of d (.groupBy (.project (.load "t" none) [.var "id", count] none) [count] [] none) =
        .ok q ∧
      ∀ params, q.execute d params = .error (.execution (.aggregateInScalar "count")) := by
  intro m d count
  exact ⟨⟨count, .refl _, rfl⟩, _, rfl, fun params => rfl⟩

end Query

end QueryEngine
