import QueryEngine.Proofs.Resolution.Views
import QueryEngine.Proofs.Resolution.Visited

namespace QueryEngine.Dataset

open Plan Typing

/-- The datasets that another one becomes while views are created, replaced and dropped and
adapters are added. -/
inductive Later (d : Dataset) : Dataset → Prop
  | refl : Later d d
  | insertView {d' : Dataset} (name : String) (v : Plan) :
      Later d d' → Later d (d'.insertView name v)
  | dropView {d' : Dataset} (name : String) : Later d d' → Later d (d'.dropView name)
  | addAdapter {d' : Dataset} (a : Adapter) : Later d d' → Later d (d'.addAdapter a)

variable {d d' : Dataset} {steps : Nat} {p q : Plan}

theorem Later.createView {d'' : Dataset} (h : Later d d') {name : String}
    (hcreate : d'.createView name p = .ok d'') : Later d d'' := by
  obtain ⟨v, -, rfl⟩ := createView_eq_ok.1 hcreate
  exact h.insertView name v

theorem Later.functions_eq (h : Later d d') : d'.functions = d.functions := by
  induction h with
  | refl => rfl
  | insertView _ _ _ ih | dropView _ _ ih | addAdapter _ _ ih => exact ih

/-- Whatever views and adapters took part in it, resolution ends in a plan that is its own
annotation. -/
theorem annotate_of_resolveIn (hd : ∀ a ∈ d.adapters, a.AsksForVisits)
    (h : d.resolveIn steps p = .ok q) : annotate d.functions d.schema q = .ok q := by
  refine of_resolveIn (P := fun q => annotate d.functions d.schema q = .ok q) ?_ hd h
  intro p q hchildren hnode
  obtain ⟨hsame, hagain⟩ := annotateNode_eq_ok hnode
  have hcs : q.children.mapM (annotate d.functions d.schema) = .ok q.children := by
    rw [hsame, mapM_eq_ok, List.forall₂_same]
    exact hchildren
  rw [annotate_eq, hcs, ok_bind, refill_children, hagain]

theorem resolve_of_annotated (h : q.Annotated) :
    d.resolve q = annotate d.functions d.schema q := by
  refine (Visits.annotated h []).resolveIn ?_
  have hviews := (le_foldr_views d.views).1
  calc 4 * q.size ≤ 8 * (q.size + 1) * 1 := by omega
    _ ≤ d.walkFuel q := Nat.mul_le_mul_left _ (by omega)

theorem resolve_load_of_view? (h : q.Annotated) {name : String} (hview : d.view? name = some q) :
    d.resolve (.load name none) = annotate d.functions d.schema q := by
  refine (Visits.view hview (Visits.annotated h [])).resolveIn ?_
  have hsize := size_le_of_view? hview
  simp only [walkFuel, Plan.size]
  omega

/-- If adapters ask for visits, a resolved plan resolves to itself in any later state of its dataset,
with the same schema and the same aggregates at each node, however many steps its own resolution
took. Where it is stored as a view, so does a load of that view. -/
theorem resolve_later (hd : ∀ a ∈ d.adapters, a.AsksForVisits) (h : d.resolveIn steps p = .ok q)
    (hlater : Later d d') :
    d'.resolve q = .ok q ∧
      ∀ name, d'.view? name = some q → d'.resolve (.load name none) = .ok q := by
  have hfixed := annotate_of_resolveIn hd h
  have hannotated : q.Annotated := annotated_of_annotate hfixed
  have hfixed' : annotate d'.functions d'.schema q = .ok q := by
    rw [hlater.functions_eq, annotate_congr_of_annotated d.schema hannotated, hfixed]
  refine ⟨?_, fun name hview => ?_⟩
  · rw [resolve_of_annotated hannotated, hfixed']
  · rw [resolve_load_of_view? hannotated hview, hfixed']

/-- A grouping of documents over a view, whose key predicate was moved. Later on the view is gone
and another one hides the documents. -/
theorem resolve_later_hidden :
    let docs := [Document.of "2022" "alpha" "Alpha" 10, Document.of "2023" "beta" "Beta" 200]
    let d : Dataset := { adapters := [Document.adapter], functions := Document.register docs .builtins }
    let recent : Plan := .select (.load "docs" none)
      (some (.binary .gt (.var "year") (.const (.string "2022")))) none
    let totals : Plan := .groupBy (.project (.load "recent" none)
      [.var "year", .rename "total" (.call "sum" [.var "size"])] none) [.var "year"] [] none
    (∀ a ∈ d.adapters, a.AsksForVisits) ∧ ∃ d₁ d₂ q, d.createView "recent" recent = .ok d₁ ∧
      d₁.resolve totals = .ok q ∧ (d₁.dropView "recent").createView "docs" (.load "" none) = .ok d₂ ∧
        d₂.resolve q = .ok q ∧ (d₂.insertView "totals" q).resolve (.load "totals" none) = .ok q := by
  intro docs d recent totals
  have hd : ∀ a ∈ d.adapters, a.AsksForVisits := by
    intro a ha
    obtain rfl := List.mem_singleton.1 ha
    exact Document.asksForVisits_adapter
  obtain ⟨d₁, d₂, q, hrecent, hq, hhidden⟩ : ∃ d₁ d₂ q, d.createView "recent" recent = .ok d₁ ∧
      d₁.resolve totals = .ok q ∧
        (d₁.dropView "recent").createView "docs" (.load "" none) = .ok d₂ := by
    simp only [docs, d, recent, totals]
    exact ⟨_, _, _, rfl, rfl, rfl⟩
  have hadapters : ∀ a ∈ d₁.adapters, a.AsksForVisits := by
    obtain ⟨v, -, rfl⟩ := createView_eq_ok.1 hrecent
    exact hd
  have hlater : Later d₁ d₂ := (Later.refl.dropView "recent").createView hhidden
  have hstored : (d₂.insertView "totals" q).view? "totals" = some q := by
    simp [view?_insertView]
  exact ⟨hd, d₁, d₂, q, hrecent, hq, hhidden, (resolve_later hadapters hq hlater).1,
    (resolve_later hadapters hq (hlater.insertView "totals" q)).2 "totals" hstored⟩

end QueryEngine.Dataset
