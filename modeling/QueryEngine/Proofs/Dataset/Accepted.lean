import QueryEngine.Proofs.Alignment.Plans
import QueryEngine.Proofs.Dataset.Roots
import QueryEngine.Proofs.Resolution.Stable

namespace QueryEngine

open Plan Typing

namespace Plan

def HasSchema (p : Plan) : Prop :=
  ∃ s, p.schema? = some s

theorem hasSchema_iff {p : Plan} : p.HasSchema ↔ ∃ s, p.outputSchema = .ok s := by
  unfold HasSchema outputSchema
  cases p.schema? <;> simp

theorem HasSchema.ne_placeholder {p : Plan} (h : p.HasSchema) : p ≠ .placeholder := by
  rintro rfl
  obtain ⟨s, hs⟩ := h
  cases hs

end Plan

namespace Typing

variable {functions : FunctionRegistry} {relation : String → Except Error Schema}

theorem hasSchema_of_argSchemas {args : List (TableArg Plan)} {ss : List (TableArg Schema)}
    (h : argSchemas args = .ok ss) : ∀ c ∈ relationArgs args, c.HasSchema := by
  induction args generalizing ss with
  | nil => simp [relationArgs]
  | cons arg args ih =>
      cases arg with
      | constant v =>
          obtain ⟨rest, hrest, -⟩ := bind_eq_ok.1 h
          exact ih hrest
      | relation p =>
          obtain ⟨s, hs, h⟩ := bind_eq_ok.1 h
          obtain ⟨rest, hrest, -⟩ := bind_eq_ok.1 h
          intro c hc
          rcases List.mem_cons.1 hc with rfl | hc
          · exact hasSchema_iff.2 ⟨s, hs⟩
          · exact ih hrest c hc

theorem hasSchema_of_nodeSchema {p : Plan} {s : Schema}
    (h : nodeSchema functions relation p = .ok s) : ∀ c ∈ p.children, c.HasSchema := by
  cases p with
  | load | placeholder => simp [children]
  | aliased _ i | project i | select i | orderBy i =>
      obtain ⟨s', hs', -⟩ := bind_eq_ok.1 h
      simpa [children] using hasSchema_iff.2 ⟨s', hs'⟩
  | slice i => simpa [children] using hasSchema_iff.2 ⟨s, h⟩
  | join l r | unionAll l r =>
      obtain ⟨s₁, hs₁, h⟩ := bind_eq_ok.1 h
      obtain ⟨s₂, hs₂, -⟩ := bind_eq_ok.1 h
      simpa [children] using ⟨hasSchema_iff.2 ⟨s₁, hs₁⟩, hasSchema_iff.2 ⟨s₂, hs₂⟩⟩
  | groupBy i =>
      obtain ⟨_, -, h⟩ := bind_eq_ok.1 h
      obtain ⟨_, -, h⟩ := bind_eq_ok.1 h
      obtain ⟨_, -, h⟩ := bind_eq_ok.1 h
      obtain ⟨_, -, h⟩ := bind_eq_ok.1 h
      simpa [children] using hasSchema_iff.2 ⟨s, h⟩
  | tableFunction _ args =>
      obtain ⟨_, -, h⟩ := bind_eq_ok.1 h
      obtain ⟨ss, hss, -⟩ := bind_eq_ok.1 h
      exact hasSchema_of_argSchemas hss

/-- Only a hole is resolved without a schema, and nothing is resolved above one. -/
theorem everywhere_hasSchema_of_annotate {p : Plan} (h : annotate functions relation p = .ok p)
    (hp : p ≠ .placeholder) : p.Everywhere HasSchema := by
  induction p using inductionOnChildren with
  | h p ih =>
      obtain ⟨s, hs, hnode⟩ := bind_eq_ok.1 (resolveNode_of_annotate h hp)
      obtain ⟨b, -, hnode⟩ := bind_eq_ok.1 hnode
      have hb : b.withSchema s = p := Except.ok.inj hnode
      refine .node ⟨s, ?_⟩ fun c hc => ih c hc (annotate_of_mem_children h c hc) ?_
      · rw [← hb] at hp ⊢
        cases b <;> first | rfl | exact absurd rfl hp
      · exact (hasSchema_of_nodeSchema hs c hc).ne_placeholder

end Typing

namespace Dataset

variable {d d' : Dataset} {qs : List Query} {steps : Nat}

theorem everywhere_hasSchema_of_resolveIn (hd : ∀ a ∈ d.adapters, a.AsksForVisits) {p q : Plan}
    (h : d.resolveIn steps p = .ok q) (hq : q ≠ .placeholder) : q.Everywhere HasSchema :=
  everywhere_hasSchema_of_annotate (annotate_of_resolveIn hd h) hq

theorem everywhere_hasSchema_of_query (hd : ∀ a ∈ d.adapters, a.AsksForVisits) {p : Plan}
    {q : Query} (h : Query.ofIn d steps p = .ok q) : q.plan.Everywhere HasSchema := by
  obtain ⟨hplan, hs⟩ := Query.ofIn_eq_ok.1 h
  exact everywhere_hasSchema_of_resolveIn hd hplan (hasSchema_iff.2 ⟨_, hs⟩).ne_placeholder

/-- The datasets that the operations of a dataset lead to, with the queries made on the way, where no
view is made from a hole and no adapter puts one at a root. -/
inductive Assembled : Dataset → List Query → Prop
  | new : Assembled {} []
  | withBuiltins : Assembled withBuiltins []
  | withConfig {d : Dataset} {qs : List Query} (config : Config) :
      Assembled d qs → Assembled { d with config } qs
  | addAdapter {d : Dataset} {qs : List Query} (a : Adapter) :
      Assembled d qs → a.AsksForVisits → a.KeepsRooted → Assembled (d.addAdapter a) qs
  | addScalar {d : Dataset} {qs : List Query} (f : ScalarFunction) :
      Assembled d qs → Assembled { d with functions := d.functions.addScalar f } qs
  | addAggregate {d : Dataset} {qs : List Query} (a : Aggregate) :
      Assembled d qs → Assembled { d with functions := d.functions.addAggregate a } qs
  | addTable {d : Dataset} {qs : List Query} (f : TableFunction) :
      Assembled d qs → Assembled { d with functions := d.functions.addTable f } qs
  | createView {d d' : Dataset} {qs : List Query} (steps : Nat) (name : String) (p : Plan) :
      Assembled d qs → p ≠ .placeholder → d.createViewIn steps name p = .ok d' → Assembled d' qs
  | dropView {d : Dataset} {qs : List Query} (name : String) :
      Assembled d qs → Assembled (d.dropView name) qs
  | query {d : Dataset} {qs : List Query} (steps : Nat) (p : Plan) (q : Query) :
      Assembled d qs → Query.ofIn d steps p = .ok q → Assembled d (q :: qs)
  | storeQuery {d : Dataset} {qs : List Query} (name : String) (q : Query) :
      Assembled d qs → q ∈ qs → Assembled (d.insertView name q.plan) qs

namespace Assembled

theorem of_mem_adapters (h : Assembled d qs) :
    ∀ a ∈ d.adapters, a.AsksForVisits ∧ a.KeepsRooted := by
  induction h with
  | new | withBuiltins => exact fun a ha => absurd ha List.not_mem_nil
  | withConfig _ _ ih | addScalar _ _ ih | addAggregate _ _ ih | addTable _ _ ih | dropView _ _ ih
  | query _ _ _ _ _ ih | storeQuery _ _ _ _ ih => exact ih
  | addAdapter a _ hasks hkeeps ih =>
      intro b hb
      rcases List.mem_append.1 hb with hb | hb
      · exact ih b hb
      · exact List.mem_singleton.1 hb ▸ ⟨hasks, hkeeps⟩
  | createView _ _ _ _ _ hcreate ih =>
      obtain ⟨v, -, rfl⟩ := createViewIn_eq_ok.1 hcreate
      exact ih

theorem asksForVisits (h : Assembled d qs) : ∀ a ∈ d.adapters, a.AsksForVisits :=
  fun a ha => (h.of_mem_adapters a ha).1

theorem keepsRooted (h : Assembled d qs) : ∀ a ∈ d.adapters, a.KeepsRooted :=
  fun a ha => (h.of_mem_adapters a ha).2

theorem everywhere (h : Assembled d qs) :
    (∀ name v, d.view? name = some v → v.Everywhere HasSchema) ∧
      ∀ q ∈ qs, q.plan.Everywhere HasSchema := by
  induction h with
  | new | withBuiltins => exact ⟨fun _ _ h => (by cases h), by simp⟩
  | withConfig _ _ ih | addScalar _ _ ih | addAggregate _ _ ih | addTable _ _ ih
  | addAdapter _ _ _ _ ih => exact ih
  | @createView d _ _ steps name p h hp hcreate ih =>
      obtain ⟨v, hv, rfl⟩ := createViewIn_eq_ok.1 hcreate
      have hviews : ∀ n w, d.view? n = some w → w ≠ .placeholder := fun n w hw =>
        (ih.1 n w hw).here.ne_placeholder
      have hhole := ne_placeholder_of_resolveIn h.keepsRooted hviews hp hv
      have heverywhere := everywhere_hasSchema_of_resolveIn h.asksForVisits hv hhole
      exact ⟨forall_view?_insertView ih.1 heverywhere name, ih.2⟩
  | dropView name _ ih =>
      exact ⟨fun n v hv => ih.1 n v (view?_of_dropView hv), ih.2⟩
  | query _ p q h hquery ih =>
      refine ⟨ih.1, fun q' hq' => ?_⟩
      rcases List.mem_cons.1 hq' with rfl | hq'
      · exact everywhere_hasSchema_of_query h.asksForVisits hquery
      · exact ih.2 q' hq'
  | storeQuery name q _ hq ih => exact ⟨forall_view?_insertView ih.1 (ih.2 q hq) name, ih.2⟩

theorem ne_placeholder (h : Assembled d qs) {p q : Plan} (hp : p ≠ .placeholder)
    (hq : d.resolveIn steps p = .ok q) : q ≠ .placeholder :=
  ne_placeholder_of_resolveIn h.keepsRooted
    (fun name v hv => (h.everywhere.1 name v hv).here.ne_placeholder) hp hq

end Assembled

/-- A plan that is no hole is made a view exactly if it can be queried, and fails with the same error
otherwise, whatever number of steps resolution may take. The view is the plan of the query, and all
its nodes have schemas. -/
theorem createView_eq_query (h : Assembled d qs) (steps : Nat) (name : String) {p : Plan}
    (hp : p ≠ .placeholder) :
    d.createViewIn steps name p = (Query.ofIn d steps p).map (fun q => d.insertView name q.plan) ∧
      ∀ d', d.createViewIn steps name p = .ok d' → ∃ q, Query.ofIn d steps p = .ok q ∧
        d'.view? name = some q.plan ∧ q.plan.Everywhere HasSchema := by
  have heq : d.createViewIn steps name p =
      (Query.ofIn d steps p).map fun q => d.insertView name q.plan := by
    unfold Dataset.createViewIn Query.ofIn
    cases hv : d.resolveIn steps p with
    | error e => rfl
    | ok v =>
        have hhole := h.ne_placeholder hp hv
        have heverywhere := everywhere_hasSchema_of_resolveIn h.asksForVisits hv hhole
        obtain ⟨s, hs⟩ := hasSchema_iff.1 heverywhere.here
        simp [hs, Except.map]
  refine ⟨heq, fun d' hcreate => ?_⟩
  rw [heq] at hcreate
  obtain ⟨q, hq, rfl⟩ := map_eq_ok.1 hcreate
  exact ⟨q, hq, by simp [view?_insertView], everywhere_hasSchema_of_query h.asksForVisits hq⟩

theorem createView_eq_query_documents :
    let docs := [Document.of "2022" "alpha" "Alpha" 10, Document.of "2023" "beta" "Beta" 200]
    let d : Dataset := { adapters := [Document.adapter], functions := Document.register docs {} }
    let recent : Plan := .select (.load "docs" none)
      (some (.binary .gt (.var "year") (.const (.string "2022")))) none
    Assembled d [] ∧ recent ≠ .placeholder ∧ ∃ d' q, d.createView "docs" recent = .ok d' ∧
      Query.of d recent = .ok q ∧ d'.view? "docs" = some q.plan ∧ q.plan.Everywhere HasSchema := by
  intro docs d recent
  have hassembled : Assembled d [] :=
    .addAdapter _ (.addTable _ (.addTable _ .new)) Document.asksForVisits_adapter
      Document.keepsRooted_adapter
  have hrecent : recent ≠ .placeholder := by simp [recent]
  obtain ⟨d', hcreate⟩ : ∃ d', d.createView "docs" recent = .ok d' := by
    simp only [docs, d, recent]
    exact ⟨_, rfl⟩
  obtain ⟨q, hq, hview, heverywhere⟩ :=
    (createView_eq_query hassembled (d.walkFuel recent) "docs" hrecent).2 d' hcreate
  exact ⟨hassembled, hrecent, d', q, hcreate, hq, hview, heverywhere⟩

/-- A hole is made a view, which has no schema and cannot be queried. It hides a relation from lookup
that is still listed. -/
theorem createView_placeholder :
    let numbers : MemoryTable := ⟨⟨some "numbers", [{ name := "n", type := .integer }]⟩, []⟩
    let d := ({} : Dataset).addAdapter (MemoryStore.adapter ⟨"memory", [("numbers", numbers)]⟩)
    Reachable d [] ∧ Query.of d .placeholder = .error (.internal (.unresolved "Placeholder")) ∧
      ∃ d', d.createView "numbers" .placeholder = .ok d' ∧
        d'.view? "numbers" = some .placeholder ∧
          d'.schema "numbers" = .error (.internal (.unresolved "Placeholder")) ∧
            d'.relations = [("numbers", numbers.schema)] := by
  intro numbers d
  have hreachable : Reachable d [] := .addAdapter _ .new
  refine ⟨hreachable, rfl, d.insertView "numbers" .placeholder, rfl, rfl, rfl, ?_⟩
  simp [d, relations, addAdapter, Dataset.insertView, Assoc.insert, Assoc.erase, Assoc.sorted,
    MemoryStore.adapter, schema?, unseen]

end Dataset

end QueryEngine
