import QueryEngine.Proofs.Pushdown.Preservation
import QueryEngine.Proofs.Resolution.Visited
import QueryEngine.Proofs.Typing.Scoped

namespace QueryEngine

open Typing

namespace Plan

/-- The expressions of a node are scoped over the rows they are evaluated on. Sort keys are taken
without their direction and the keys of a grouping as they are bound, and a projection may have
stars. -/
def NodeScoped (functions : FunctionRegistry) (next : Expr → List Expr) : Plan → Prop
  | project input es _ => ∃ s, input.outputSchema = .ok s ∧
    ∀ e ∈ es, (∃ q, e = .star q) ∨ e.Scoped s functions next
  | select input predicate _ => ∃ s, input.outputSchema = .ok s ∧
    ∀ e ∈ predicate, e.Scoped s functions next
  | join left right predicate type _ => ∃ l r, left.outputSchema = .ok l ∧
    right.outputSchema = .ok r ∧ ∀ e ∈ predicate, e.Scoped (joinSchema type l r) functions next
  | orderBy input keys _ => ∃ s, input.outputSchema = .ok s ∧
    ∀ k ∈ keys, (sortKey k).1.Scoped s functions next
  | groupBy input keys aggregates _ => ∃ inner projected s bound,
    groupedProjection input = .ok (inner, projected) ∧ inner.outputSchema = .ok s ∧
      groupKeys functions input keys = .ok bound ∧ (∀ e ∈ bound, e.Scoped s functions next) ∧
      ∀ b ∈ aggregates, functions.isAggregate b.function = true ∧
        ∀ e ∈ b.args, e.Scoped s functions next
  | _ => True

inductive Scoped (functions : FunctionRegistry) (next : Expr → List Expr) : Plan → Prop
  | node {p : Plan} (hp : p.NodeScoped functions next)
      (h : ∀ c ∈ p.children, Scoped functions next c) : Scoped functions next p

end Plan

open Plan

namespace Typing

variable {schema : Schema} {functions : FunctionRegistry}
  {relation : String → Except Error Schema}

theorem scoped_of_checkAll {es : List Expr} (h : checkAll functions schema es = .ok ()) :
    ∀ e ∈ es, e.Scoped schema functions Expr.typedChildren := by
  induction es with
  | nil => simp
  | cons e es ih =>
      obtain ⟨f, hf, h⟩ := bind_eq_ok.1 h
      intro e' he'
      rcases List.mem_cons.1 he' with rfl | he'
      · exact scoped_of_fieldOf hf
      · exact ih h e' he'

theorem scoped_of_checkPredicate {predicate : Option Expr}
    (h : checkPredicate functions schema predicate = .ok ()) :
    ∀ e ∈ predicate, e.Scoped schema functions Expr.typedChildren := by
  rintro e he
  cases he
  obtain ⟨f, hf, -⟩ := bind_eq_ok.1 h
  exact scoped_of_fieldOf hf

theorem scoped_of_projectionFields {es : List Expr} {fs : List Field}
    (h : projectionFields schema functions es = .ok fs) :
    ∀ e ∈ es, (∃ q, e = .star q) ∨ e.Scoped schema functions Expr.typedChildren := by
  induction es generalizing fs with
  | nil => simp
  | cons e es ih =>
      obtain ⟨own, hown, h⟩ := bind_eq_ok.1 h
      obtain ⟨rest, hrest, -⟩ := bind_eq_ok.1 h
      intro e' he'
      rcases List.mem_cons.1 he' with rfl | he'
      · unfold projectedFields at hown
        split at hown
        · exact .inl ⟨_, rfl⟩
        · obtain ⟨f, hf, -⟩ := bind_eq_ok.1 hown
          exact .inr (scoped_of_fieldOf hf)
      · exact ih hrest e' he'

theorem mem_of_aggregateBindingsFrom {position : Nat} {es : List Expr}
    {bindings : List AggregateBinding}
    (h : aggregateBindingsFrom schema functions position es = .ok bindings) :
    ∀ b ∈ bindings, functions.isAggregate b.function = true ∧
      ∃ e ∈ es, e.unaliased = .call b.function b.args := by
  induction es generalizing position bindings with
  | nil =>
      cases h
      simp
  | cons e es ih =>
      have hskip {n : Nat} {rest : List AggregateBinding}
          (h : aggregateBindingsFrom schema functions n es = .ok rest) (b : AggregateBinding)
          (hb : b ∈ rest) : functions.isAggregate b.function = true ∧
            ∃ e' ∈ e :: es, e'.unaliased = .call b.function b.args := by
        obtain ⟨haggregate, e', he', hcall⟩ := ih h b hb
        exact ⟨haggregate, e', List.mem_cons_of_mem _ he', hcall⟩
      rw [aggregateBindingsFrom] at h
      split at h
      · obtain ⟨positions, -, h⟩ := bind_eq_ok.1 h
        exact hskip h
      · next name args hcall =>
          obtain ⟨rest, hrest, h⟩ := bind_eq_ok.1 h
          split at h <;> cases h
          · next haggregate =>
              intro b hb
              rcases List.mem_cons.1 hb with rfl | hb
              · exact ⟨haggregate, e, List.mem_cons_self, hcall⟩
              · exact hskip hrest b hb
          · exact hskip hrest
      · exact hskip h

theorem scoped_of_aggregateBindings {es : List Expr} {bindings : List AggregateBinding}
    (h : aggregateBindings schema functions es = .ok bindings)
    (hes : ∀ e ∈ es, (∃ q, e = .star q) ∨ e.Scoped schema functions Expr.typedChildren) :
    ∀ b ∈ bindings, functions.isAggregate b.function = true ∧
      ∀ e ∈ b.args, e.Scoped schema functions Expr.typedChildren := by
  intro b hb
  obtain ⟨haggregate, e, he, hcall⟩ := mem_of_aggregateBindingsFrom h b hb
  refine ⟨haggregate, fun arg harg => ?_⟩
  rcases hes e he with ⟨q, rfl⟩ | hscoped
  · cases hcall
  · have hscoped := hscoped.unaliased
    rw [hcall] at hscoped
    exact hscoped.ofChild harg

theorem eq_of_groupedProjection {input inner : Plan} {projected : List Expr}
    (h : groupedProjection input = .ok (inner, projected)) :
    ∃ s, input = .project inner projected s := by
  unfold groupedProjection at h
  split at h <;> cases h
  exact ⟨_, rfl⟩

theorem nodeScoped_of_resolveNode {p q : Plan}
    (hp : ∀ c ∈ p.children, c.NodeScoped functions Expr.typedChildren)
    (h : resolveNode functions relation p = .ok q) :
    q.NodeScoped functions Expr.typedChildren := by
  obtain ⟨own, hown, h⟩ := bind_eq_ok.1 h
  obtain ⟨b, hb, h⟩ := bind_eq_ok.1 h
  cases h
  cases p with
  | project input es =>
      cases hb
      obtain ⟨s, hs, hown⟩ := bind_eq_ok.1 hown
      obtain ⟨fs, hfs, -⟩ := bind_eq_ok.1 hown
      exact ⟨s, hs, scoped_of_projectionFields hfs⟩
  | select input predicate =>
      cases hb
      obtain ⟨s, hs, hown⟩ := bind_eq_ok.1 hown
      obtain ⟨_, hpredicate, -⟩ := bind_eq_ok.1 hown
      exact ⟨s, hs, scoped_of_checkPredicate hpredicate⟩
  | join left right predicate type =>
      cases hb
      obtain ⟨l, hl, hown⟩ := bind_eq_ok.1 hown
      obtain ⟨r, hr, hown⟩ := bind_eq_ok.1 hown
      obtain ⟨_, hpredicate, -⟩ := bind_eq_ok.1 hown
      exact ⟨l, r, hl, hr, scoped_of_checkPredicate hpredicate⟩
  | orderBy input keys =>
      cases hb
      obtain ⟨s, hs, hown⟩ := bind_eq_ok.1 hown
      obtain ⟨_, hkeys, -⟩ := bind_eq_ok.1 hown
      exact ⟨s, hs, fun k hk => scoped_of_checkAll hkeys _ (List.mem_map_of_mem hk)⟩
  | groupBy input keys =>
      obtain ⟨⟨inner, projected⟩, hgrouped, hown⟩ := bind_eq_ok.1 hown
      obtain ⟨s, hs, hown⟩ := bind_eq_ok.1 hown
      obtain ⟨bound, hbound, hown⟩ := bind_eq_ok.1 hown
      obtain ⟨_, hkeys, -⟩ := bind_eq_ok.1 hown
      simp only [bindAggregates, hgrouped, hs, ok_bind] at hb
      obtain ⟨bindings, hbindings, hb⟩ := bind_eq_ok.1 hb
      cases hb
      obtain ⟨own', rfl⟩ := eq_of_groupedProjection hgrouped
      obtain ⟨s', hs', hprojected⟩ := hp _ List.mem_cons_self
      obtain rfl := Except.ok.inj (hs.symm.trans hs')
      exact ⟨inner, projected, s, bound, rfl, hs, hbound, scoped_of_checkAll hkeys,
        scoped_of_aggregateBindings hbindings hprojected⟩
  | load | aliased | unionAll | slice | tableFunction | placeholder =>
      cases hb
      trivial

theorem scoped_of_annotateNode {p q : Plan}
    (hp : ∀ c ∈ p.children, c.Scoped functions Expr.typedChildren)
    (h : annotateNode functions relation p = .ok q) : q.Scoped functions Expr.typedChildren := by
  have hchildren := (annotateNode_eq_ok h).1
  refine .node ?_ (hchildren ▸ hp)
  by_cases hhole : p = .placeholder
  · subst hhole
    cases h
    trivial
  · rw [annotateNode_of_ne hhole] at h
    refine nodeScoped_of_resolveNode (fun c hc => ?_) h
    obtain ⟨hnode, -⟩ := hp c hc
    exact hnode

end Typing

namespace Query

/-- If adapters ask for visits, the names in the plan of a query have a meaning, but for those in
the elements of a tuple after the first, which typing does not look at. -/
theorem scoped_of {d : Dataset} (hd : ∀ a ∈ d.adapters, a.AsksForVisits) {steps : Nat} {p : Plan}
    {q : Query} (h : Query.ofIn d steps p = .ok q) :
    q.plan.Scoped d.functions Expr.typedChildren :=
  Dataset.of_resolveIn (fun _ _ => scoped_of_annotateNode) hd (Query.ofIn_eq_ok.1 h).1

theorem scoped_of_grouped :
    let fields : List Field := [⟨"kind", .string, .nullable, [], none⟩,
      ⟨"price", .integer, .nullable, [], none⟩]
    let m : MemoryStore := ⟨"memory", [("items", ⟨⟨some "items", fields⟩, []⟩)]⟩
    let d := Dataset.withBuiltins.addAdapter m.adapter
    let totals : Plan := .groupBy (.project (.load "items" none)
      [.rename "group" (.var "kind"), .rename "total" (.call "sum" [.var "items.price"])] none)
      [.var "group"] [] none
    (∀ a ∈ d.adapters, a.AsksForVisits) ∧
      ∃ q, Query.of d (.orderBy totals [.desc (.var "total")] none) = .ok q ∧
        q.plan.Scoped d.functions Expr.typedChildren := by
  intro fields m d totals
  have hd : ∀ a ∈ d.adapters, a.AsksForVisits := by
    intro a ha
    obtain rfl := List.mem_singleton.1 ha
    exact m.asksForVisits_adapter
  obtain ⟨q, hq⟩ : ∃ q, Query.of d (.orderBy totals [.desc (.var "total")] none) = .ok q :=
    ⟨_, rfl⟩
  exact ⟨hd, q, hq, scoped_of hd hq⟩

/-- The direction of a sort in the second element of a tuple is not found. -/
theorem not_scoped_of_tuple :
    let m : MemoryStore := ⟨"memory",
      [("t", ⟨⟨some "t", [⟨"id", .integer, .nullable, [], none⟩]⟩, [[.integer 1]]⟩)]⟩
    let d := Dataset.withBuiltins.addAdapter m.adapter
    let p : Plan := .select (.load "t" none)
      (some (.inList (.var "id") [.const (.integer 1), .desc (.var "id")])) none
    p.Bare ∧ ∃ q, Query.of d p = .ok q ∧ ¬ q.plan.Scoped d.functions Expr.children := by
  intro m d p
  have hp : p.Bare := .unary rfl (.load _)
  refine ⟨hp, _, rfl, fun h => ?_⟩
  obtain ⟨⟨s, -, hpredicate⟩, -⟩ := h
  have hscoped := hpredicate _ rfl
  have htuple := hscoped.ofChild (List.mem_cons_of_mem _ List.mem_cons_self)
  have hdesc := htuple.ofChild (List.mem_cons_of_mem _ List.mem_cons_self)
  exact (hdesc _ (.refl _)).2 rfl

end Query

end QueryEngine
