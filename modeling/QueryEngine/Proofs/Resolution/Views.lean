import Mathlib.Tactic.Ring
import QueryEngine.Adapter.Memory
import QueryEngine.Proofs.Resolution.Walk

namespace QueryEngine

namespace Plan

mutual

/-- The plan with others in place of its loads without schema. -/
def substitute (f : String → Option Plan) : Plan → Plan
  | .load n none => (f n).getD (.load n none)
  | .load n (some s) => .load n (some s)
  | .aliased n i s => .aliased n (i.substitute f) s
  | .project i es s => .project (i.substitute f) es s
  | .select i e s => .select (i.substitute f) e s
  | .join l r e t s => .join (l.substitute f) (r.substitute f) e t s
  | .unionAll l r s => .unionAll (l.substitute f) (r.substitute f) s
  | .orderBy i ks s => .orderBy (i.substitute f) ks s
  | .groupBy i ks as s => .groupBy (i.substitute f) ks as s
  | .slice i a b s => .slice (i.substitute f) a b s
  | .tableFunction n args s => .tableFunction n (substituteArgs f args) s
  | .placeholder => .placeholder

def substituteArgs (f : String → Option Plan) : List (TableArg Plan) → List (TableArg Plan)
  | [] => []
  | .constant v :: args => .constant v :: substituteArgs f args
  | .relation p :: args => .relation (p.substitute f) :: substituteArgs f args

end

/-- The plan with another written out at each load of a name. -/
def inlined (p : Plan) (name : String) (t : Plan) : Plan :=
  p.substitute fun n => if n = name then some t else none

variable (f : String → Option Plan)

theorem substituteArgs_eq (args : List (TableArg Plan)) :
    substituteArgs f args = refillArgs args ((relationArgs args).map (substitute f)) := by
  induction args with
  | nil => rfl
  | cons a args ih => cases a <;> simp [substituteArgs, relationArgs, refillArgs, ih]

theorem substitute_node {p : Plan} (hp : ∀ name, p ≠ .load name none) :
    p.substitute f = p.refill (p.children.map (substitute f)) := by
  cases p with
  | load name schema =>
      cases schema with
      | none => exact absurd rfl (hp name)
      | some s => simp [substitute, refill]
  | tableFunction => simp [substitute, refill, children, substituteArgs_eq]
  | _ => simp [substitute, refill, children]

theorem substitute_none (p : Plan) : (p.substitute fun _ => none) = p := by
  induction p using inductionOnChildren with
  | h p ih =>
      by_cases hp : ∃ name, p = .load name none
      · obtain ⟨name, rfl⟩ := hp
        rfl
      · rw [substitute_node _ fun name h => hp ⟨name, h⟩, List.map_congr_left ih, List.map_id',
          refill_children]

end Plan

namespace Dataset

open Plan Typing

variable {d : Dataset}

def KeepsLoads (d : Dataset) : Prop :=
  ∀ a ∈ d.adapters, ∀ c, a.evaluate c = .ok c

def ViewsAnnotated (d : Dataset) : Prop :=
  ∀ name v, d.view? name = some v → v.Annotated

theorem Visits.substituted (hd : d.KeepsLoads) (hv : d.ViewsAnnotated) {weight : Nat}
    (hw : 4 ≤ weight) (hviews : ∀ name v, d.view? name = some v → 4 * v.size + 1 ≤ weight)
    (p : Plan) (path : List Frame) :
    d.Visits path p (annotate d.functions d.schema (p.substitute d.view?)) (weight * p.size) := by
  induction p using inductionOnChildren generalizing path with
  | h p ih =>
      by_cases hp : ∃ name, p = .load name none
      · obtain ⟨name, rfl⟩ := hp
        cases hview : d.view? name with
        | none =>
            simp only [substitute, hview, Option.getD_none]
            exact (Visits.load hview fun a ha => hd a (List.mem_of_find?_eq_some ha)).mono
              (by simpa [size] using hw)
        | some v =>
            simp only [substitute, hview, Option.getD_some]
            exact (Visits.view hview (Visits.annotated (hv name v hview) path)).mono
              (by simpa [size] using hviews name v hview)
      · have hp' : ∀ name, p ≠ .load name none := fun name h => hp ⟨name, h⟩
        rw [substitute_node _ hp', annotate_refill (by simp), List.mapM_map]
        exact Visits.weighted hp' hw fun c hc _ _ _ => ih c hc _

theorem le_foldr_views (views : Assoc Plan) :
    8 ≤ views.foldr (fun v n => v.2.size + n) 8 ∧
      ∀ v ∈ views, v.2.size + 8 ≤ views.foldr (fun v n => v.2.size + n) 8 := by
  induction views with
  | nil => simp
  | cons v views ih =>
      simp only [List.foldr_cons, List.mem_cons, forall_eq_or_imp]
      refine ⟨by omega, by omega, fun w hw => ?_⟩
      have := ih.2 w hw
      omega

theorem size_le_of_view? {name : String} {v : Plan} (h : d.view? name = some v) :
    v.size + 8 ≤ d.views.foldr (fun v n => v.2.size + n) 8 := by
  obtain ⟨entry, hentry, rfl⟩ := Option.map_eq_some_iff.1 h
  exact (le_foldr_views d.views).2 entry (List.mem_of_find?_eq_some hentry)

/-- Resolution substitutes all views at once and then annotates the plan. -/
theorem resolve_eq_annotate (hd : d.KeepsLoads) (hv : d.ViewsAnnotated) (p : Plan) :
    d.resolve p = annotate d.functions d.schema (p.substitute d.view?) := by
  let total := d.views.foldr (fun v n => v.2.size + n) 8
  have hviews : ∀ name v, d.view? name = some v → 4 * v.size + 1 ≤ 4 * total := by
    intro name v hview
    have := size_le_of_view? hview
    omega
  have hweight : 4 ≤ 4 * total := by
    have := (le_foldr_views d.views).1
    omega
  refine (Visits.substituted hd hv hweight hviews p []).resolveIn ?_
  have hfuel : d.walkFuel p = 4 * total * p.size + (4 * total * p.size + 8 * total) := by
    simp only [walkFuel, total]
    ring
  omega

/-- The datasets that the operations of a dataset lead to, with the queries made on the way. -/
inductive Reachable : Dataset → List Query → Prop
  | new : Reachable {} []
  | withBuiltins : Reachable withBuiltins []
  | withConfig {d : Dataset} {qs : List Query} (config : Config) :
      Reachable d qs → Reachable { d with config } qs
  | addAdapter {d : Dataset} {qs : List Query} (a : Adapter) :
      Reachable d qs → Reachable (d.addAdapter a) qs
  | addScalar {d : Dataset} {qs : List Query} (f : ScalarFunction) :
      Reachable d qs → Reachable { d with functions := d.functions.addScalar f } qs
  | addAggregate {d : Dataset} {qs : List Query} (a : Aggregate) :
      Reachable d qs → Reachable { d with functions := d.functions.addAggregate a } qs
  | addTable {d : Dataset} {qs : List Query} (f : TableFunction) :
      Reachable d qs → Reachable { d with functions := d.functions.addTable f } qs
  | createView {d d' : Dataset} {qs : List Query} (name : String) (p : Plan) :
      Reachable d qs → d.createView name p = .ok d' → Reachable d' qs
  | dropView {d : Dataset} {qs : List Query} (name : String) :
      Reachable d qs → Reachable (d.dropView name) qs
  | query {d : Dataset} {qs : List Query} (p : Plan) (q : Query) :
      Reachable d qs → Query.of d p = .ok q → Reachable d (q :: qs)
  | storeQuery {d : Dataset} {qs : List Query} (name : String) (q : Query) :
      Reachable d qs → q ∈ qs → Reachable (d.insertView name q.plan) qs

theorem view?_insertView (name n : String) (v : Plan) :
    (d.insertView name v).view? n = if n = name then some v else d.view? n :=
  Assoc.get?_insert d.views name n v

theorem forall_view?_insertView {P : Plan → Prop} (h : ∀ n w, d.view? n = some w → P w)
    {v : Plan} (hv : P v) (name : String) :
    ∀ n w, (d.insertView name v).view? n = some w → P w := by
  intro n w hw
  rw [view?_insertView] at hw
  split at hw
  · cases hw
    exact hv
  · exact h n w hw

theorem view?_of_dropView {name n : String} {v : Plan}
    (h : (d.dropView name).view? n = some v) : d.view? n = some v := by
  rw [view?, dropView, Assoc.get?_erase] at h
  split at h
  · cases h
  · exact h

theorem ViewsAnnotated.insertView (h : d.ViewsAnnotated) {v : Plan} (hv : v.Annotated)
    (name : String) : (d.insertView name v).ViewsAnnotated :=
  forall_view?_insertView h hv name

theorem annotated_of_resolve (hd : d.KeepsLoads) (hv : d.ViewsAnnotated) {p q : Plan}
    (h : d.resolve p = .ok q) : q.Annotated := by
  rw [resolve_eq_annotate hd hv] at h
  exact annotated_of_annotate h

theorem Reachable.annotated_of {A : Adapter → Prop} (hresolve : ∀ {d : Dataset} {p q : Plan},
    (∀ a ∈ d.adapters, A a) → d.ViewsAnnotated → d.resolve p = .ok q → q.Annotated)
    {qs : List Query} (h : Reachable d qs) (hd : ∀ a ∈ d.adapters, A a) :
    d.ViewsAnnotated ∧ ∀ q ∈ qs, q.plan.Annotated := by
  induction h with
  | new | withBuiltins =>
      refine ⟨fun _ _ h => ?_, by simp⟩
      cases h
  | withConfig _ _ ih | addScalar _ _ ih | addAggregate _ _ ih | addTable _ _ ih => exact ih hd
  | addAdapter a _ ih => exact ih fun b hb => hd b (List.mem_append_left _ hb)
  | @createView d _ _ name p _ hcreate ih =>
      obtain ⟨v, hv, rfl⟩ := createView_eq_ok.1 hcreate
      have hd : ∀ a ∈ d.adapters, A a := hd
      obtain ⟨hviews, hqueries⟩ := ih hd
      exact ⟨hviews.insertView (hresolve hd hviews hv) name, hqueries⟩
  | dropView name _ ih =>
      obtain ⟨hviews, hqueries⟩ := ih hd
      exact ⟨fun n v hv => hviews n v (view?_of_dropView hv), hqueries⟩
  | query p q _ hquery ih =>
      obtain ⟨hplan, -⟩ := Query.of_eq_ok.1 hquery
      obtain ⟨hviews, hqueries⟩ := ih hd
      refine ⟨hviews, fun q hq => ?_⟩
      rcases List.mem_cons.1 hq with rfl | hq
      · exact hresolve hd hviews hplan
      · exact hqueries q hq
  | storeQuery name q _ hq ih =>
      obtain ⟨hviews, hqueries⟩ := ih hd
      exact ⟨hviews.insertView (hqueries q hq) name, hqueries⟩

theorem Reachable.annotated {qs : List Query} (h : Reachable d qs) (hd : d.KeepsLoads) :
    d.ViewsAnnotated ∧ ∀ q ∈ qs, q.plan.Annotated :=
  h.annotated_of (fun hd hviews hq => annotated_of_resolve hd hviews hq) hd

/-- At each load, a stored view annotates to what its plan, written out, does. -/
theorem annotate_insertView (hv : d.ViewsAnnotated) {name : String} {t v : Plan}
    (ht : annotate d.functions d.schema (t.substitute d.view?) = .ok v) (p : Plan) :
    annotate d.functions (d.insertView name v).schema
        (p.substitute (d.insertView name v).view?) =
      annotate d.functions d.schema ((p.inlined name t).substitute d.view?) := by
  induction p using inductionOnChildren with
  | h p ih =>
      by_cases hp : ∃ n, p = .load n none
      · obtain ⟨n, rfl⟩ := hp
        by_cases hn : n = name
        · subst hn
          simp only [inlined, substitute, view?_insertView, if_true, Option.getD_some]
          -- what has been stored is its own annotation, whatever its loads would mean now
          rw [ht, annotate_congr_of_annotated d.schema (annotated_of_annotate ht),
            annotate_annotate ht]
        · simp only [inlined, substitute, view?_insertView, if_neg hn, Option.getD_none]
          cases hview : d.view? n with
          | some w =>
              exact annotate_congr_of_annotated d.schema (hv n w hview)
          | none =>
              have hschema : (d.insertView name v).schema n = d.schema n := by
                rw [schema, schema, view?_insertView, if_neg hn, hview]
                rfl
              simp only [Option.getD_none, annotate, resolveNode, nodeSchema, hschema]
      · have hp' : ∀ n, p ≠ .load n none := fun n h => hp ⟨n, h⟩
        have hrefill : ∀ n, p.refill (p.children.map (·.inlined name t)) ≠ .load n none :=
          fun n h => hp' n (refill_eq_load h)
        have hinlined : p.inlined name t = p.refill (p.children.map (·.inlined name t)) :=
          substitute_node _ hp'
        have hchildren := children_refill p (p.children.map (·.inlined name t)) (by simp)
        have hright : (p.inlined name t).substitute d.view? =
            p.refill (p.children.map fun c => (c.inlined name t).substitute d.view?) := by
          rw [hinlined, substitute_node _ hrefill, hchildren, refill_refill _ _ _ (by simp),
            List.map_map]
          rfl
        -- the schemas of relations matter at bare loads only
        have hnode (cs : List Plan) : annotateNode d.functions (d.insertView name v).schema
            (p.refill cs) = annotateNode d.functions d.schema (p.refill cs) :=
          annotateNode_congr _ fun n h => hp' n (refill_eq_load h)
        have hcs := mapM_congr ih
        rw [substitute_node _ hp', hright, annotate_refill (by simp), annotate_refill (by simp),
          List.mapM_map, List.mapM_map]
        simp only [hnode]
        exact congrArg (· >>= _) hcs

/-- After the creation of a view, a plan resolves as it did before with the plan of the view
written out at each load of its name, to the same plan or the same error. The name may be one that
the plan of the view loads itself. -/
theorem resolve_createView {queries : List Query} (h : Reachable d queries) (hd : d.KeepsLoads)
    {name : String} {t : Plan} {d' : Dataset} (hcreate : d.createView name t = .ok d') (p : Plan) :
    d'.resolve p = d.resolve (p.inlined name t) := by
  obtain ⟨v, hv, rfl⟩ := createView_eq_ok.1 hcreate
  have hviews := (h.annotated hd).1
  have hviews' := hviews.insertView (annotated_of_resolve hd hviews hv) name
  have hd' : (d.insertView name v).KeepsLoads := hd
  rw [resolve_eq_annotate hd hviews] at hv
  rw [resolve_eq_annotate hd' hviews', resolve_eq_annotate hd hviews]
  exact annotate_insertView hviews hv p

theorem resolve_createView_shadowing :
    let numbers : MemoryTable := ⟨⟨some "numbers", [{ name := "n", type := .integer }]⟩, []⟩
    let d := ({} : Dataset).addAdapter (MemoryStore.adapter ⟨"memory", [("numbers", numbers)]⟩)
    let large : Plan := .select (.load "numbers" none)
      (some (.binary .gt (.var "n") (.const (.integer 1)))) none
    ∃ d', d.createView "numbers" large = .ok d' ∧
      ∀ p : Plan, d'.resolve p = d.resolve (p.inlined "numbers" large) := by
  intro numbers d large
  have hreachable : Reachable d [] := .addAdapter _ .new
  have hkeeps : d.KeepsLoads := by
    intro a ha c
    obtain rfl : a = MemoryStore.adapter ⟨"memory", [("numbers", numbers)]⟩ := List.mem_singleton.1 ha
    rfl
  obtain ⟨d', hcreate⟩ : ∃ d', d.createView "numbers" large = .ok d' := ⟨_, rfl⟩
  exact ⟨d', hcreate, resolve_createView hreachable hkeeps hcreate⟩

end Dataset

end QueryEngine
