import Mathlib.Tactic.Ring
import QueryEngine.Adapter.Memory
import QueryEngine.Proofs.Pushdown.Chain

namespace QueryEngine

open Link

namespace Document

mutual

/-- What a chain of nodes on a plan becomes, with all loads of documents replaced. -/
def pushdown : List Link → Plan → Plan
  | above, .select i e s => pushdown (.select e s :: above) i
  | above, .orderBy i ks s => pushdown (.orderBy ks s :: above) i
  | above, .aliased n i s => pushdown (.aliased n s :: above) i
  | above, .load n none => if n = relationName then pushed above else wrapAll above (.load n none)
  | above, .load n (some s) => wrapAll above (.load n (some s))
  | above, .project i es s => wrapAll above (.project (pushdown [] i) es s)
  | above, .join l r e t s => wrapAll above (.join (pushdown [] l) (pushdown [] r) e t s)
  | above, .unionAll l r s => wrapAll above (.unionAll (pushdown [] l) (pushdown [] r) s)
  | above, .groupBy i ks as s => wrapAll above (.groupBy (pushdown [] i) ks as s)
  | above, .slice i a b s => wrapAll above (.slice (pushdown [] i) a b s)
  | above, .tableFunction n args s => wrapAll above (.tableFunction n (pushdownArgs args) s)
  | above, .placeholder => wrapAll above .placeholder

def pushdownArgs : List (TableArg Plan) → List (TableArg Plan)
  | [] => []
  | .constant v :: args => .constant v :: pushdownArgs args
  | .relation p :: args => .relation (pushdown [] p) :: pushdownArgs args

end

theorem pushdownArgs_eq (args : List (TableArg Plan)) :
    pushdownArgs args = Plan.refillArgs args ((Plan.relationArgs args).map (pushdown [])) := by
  induction args with
  | nil => rfl
  | cons a args ih => cases a <;> simp [pushdownArgs, Plan.relationArgs, Plan.refillArgs, ih]

variable (above : List Link) (p : Plan)

theorem pushdown_wrap (l : Link) : pushdown above (l.wrap p) = pushdown (l :: above) p := by
  cases l <;> rfl

theorem pushdown_load : pushdown above (.load relationName none) = pushed above := by
  rw [pushdown, if_pos rfl]

variable {p}

theorem pushdown_node (hlink : ∀ l i, p ≠ wrap l i) (hload : p ≠ .load relationName none) :
    pushdown above p = wrapAll above (p.refill (p.children.map (pushdown []))) := by
  cases p with
  | load n s =>
      cases s with
      | none =>
          have hn : n ≠ relationName := fun h => hload (h ▸ rfl)
          simp [pushdown, Plan.refill, hn]
      | some s => simp [pushdown, Plan.refill]
  | select i e s => exact absurd rfl (hlink (.select e s) i)
  | orderBy i ks s => exact absurd rfl (hlink (.orderBy ks s) i)
  | aliased n i s => exact absurd rfl (hlink (.aliased n s) i)
  | tableFunction => simp [pushdown, pushdownArgs_eq, Plan.refill, Plan.children]
  | _ => simp [pushdown, Plan.refill, Plan.children]

def store (docs : List Document) : MemoryStore :=
  ⟨"memory", [(relationName, ⟨schema, docs.map row⟩)]⟩

/-- A dataset with the table of the documents. -/
def plain (functions : FunctionRegistry) (docs : List Document) : Dataset :=
  { adapters := [(store docs).adapter], functions }

/-- A dataset with the same documents served by their adapter. -/
def served (functions : FunctionRegistry) (docs : List Document) : Dataset :=
  { adapters := [adapter], functions := register docs functions }

open Dataset Typing

variable {functions : FunctionRegistry} {docs : List Document}

theorem adapterFor?_served {name : String} {a : Adapter}
    (h : (served functions docs).adapterFor? name = some a) : name = relationName ∧ a = adapter := by
  have ha : a ∈ [adapter] := List.mem_of_find?_eq_some h
  obtain rfl := List.mem_singleton.1 ha
  have hhas := List.find?_some h
  simp only [Adapter.has, adapter] at hhas
  split at hhas
  · exact ⟨‹_›, rfl⟩
  · cases hhas

theorem annotated_wrapAll (h : p.Annotated) (links : List Link) : (wrapAll links p).Annotated := by
  induction links generalizing p with
  | nil => exact h
  | cons l links ih => exact ih (.ofChild (children_wrap l p) h)

theorem annotated_pushed (links : List Link) : (pushed links).Annotated := by
  have hkeys : (Plan.tableFunction keysFunction [] none).Annotated :=
    .node (by simp) (by simp [Plan.children, Plan.relationArgs])
  have hselected (es : List Expr) :
      (Cursor.selected es (.tableFunction keysFunction [] none)).Annotated := by
    unfold Cursor.selected
    split
    · exact .ofChild rfl hkeys
    · exact hkeys
  exact annotated_wrapAll (.ofChild rfl (hselected _)) _

theorem size_wrapAll (links : List Link) (p : Plan) :
    (wrapAll links p).size = links.length + p.size := by
  induction links generalizing p with
  | nil => simp
  | cons l links ih =>
      rw [wrapAll_cons, ih, Plan.size_eq (l.wrap p)]
      simp
      omega

theorem length_splitAll (k : KeyFields) (links : List Link) :
    (splitAll k links).1.length ≤ links.length := by
  induction links generalizing k with
  | nil => rfl
  | cons l links ih =>
      have hkept : (l.split k).1.toList.length ≤ 1 := by
        cases (l.split k).1 <;> simp
      have := ih (l.keys k)
      simp only [splitAll, List.length_append, List.length_cons]
      omega

theorem size_pushed (links : List Link) : (pushed links).size ≤ links.length + 3 := by
  have hselected (es : List Expr) :
      (Cursor.selected es (.tableFunction keysFunction [] none)).size ≤ 2 := by
    unfold Cursor.selected
    split <;> simp [Plan.size, Plan.sizeArgs]
  have hkept := length_splitAll (KeyFields.ofRelation relationName keyNames) links
  have hkeys := hselected (splitAll (KeyFields.ofRelation relationName keyNames) links).2
  simp only [pushed, decoding, size_wrapAll, Plan.size, Plan.sizeArgs]
  omega

theorem visits_load {path : List Frame} (h : Cursor.Stops path) (links : List Link) :
    (served functions docs).Visits path (wrapAll links (.load relationName none))
      (annotate (served functions docs).functions (served functions docs).schema (pushed links))
      (4 * (pushed links).size + 2) := by
  obtain ⟨n, hn, hrun⟩ := Visits.annotated (d := served functions docs) (annotated_pushed links) path
  refine ⟨n + 2, by omega, fun fuel => ?_⟩
  have hstart : (⟨wrapAll links (.load relationName none), path, false⟩ : Cursor).descendLeftmost =
      ⟨.load relationName none, links.map frame ++ path, false⟩ := by
    rw [descendLeftmost_wrapAll, Cursor.descendLeftmost_leaf rfl]
  have hview : ((served functions docs).viewRule : Rule (Except Error)).applies
      ⟨.load relationName none, links.map frame ++ path, false⟩ = false := rfl
  have hadapter : ((served functions docs).adapterRule : Rule (Except Error)).applies
      ⟨.load relationName none, links.map frame ++ path, false⟩ = true := rfl
  have hmove : ((served functions docs).adapterRule : Rule (Except Error)).transform
      ⟨.load relationName none, links.map frame ++ path, false⟩ =
        .ok (⟨pushed links, path, false⟩ : Cursor).leftmostDescendant := by
    have hevaluate := evaluate_links h links (.load relationName none)
    change Walk.lift (evaluate _) = _
    rw [hevaluate]
    rfl
  rw [← hrun, ← Cursor.leftmostDescendant_visit (pushed links), Nat.add_right_comm, hstart,
    Walk.run, if_neg (by simp [hview]), Walk.run, if_pos hadapter, hmove]
  rfl

theorem visits_wrapAll {d : Dataset} {q : Plan} {weight : Nat} (hw : 4 ≤ weight) (links : List Link)
    {path : List Frame}
    (h : d.Visits (links.map frame ++ path) p (annotate d.functions d.schema q) (weight * p.size)) :
    d.Visits path (wrapAll links p) (annotate d.functions d.schema (wrapAll links q))
      (weight * (wrapAll links p).size) := by
  induction links using List.reverseRecOn generalizing path with
  | nil => exact h
  | append_singleton links l ih =>
      rw [wrapAll_append, wrapAll_append]
      simp only [wrapAll_cons, wrapAll_nil]
      have hchild : d.Visits (l.frame :: path) (wrapAll links p)
          (annotate d.functions d.schema (wrapAll links q)) (weight * (wrapAll links p).size) :=
        ih (by simpa using h)
      have hresult : annotate d.functions d.schema (l.wrap (wrapAll links q)) =
          (l.wrap (wrapAll links p)).children.mapM
            (fun _ => annotate d.functions d.schema (wrapAll links q)) >>= fun cs =>
              annotateNode d.functions d.schema ((l.wrap (wrapAll links p)).refill cs) := by
        rw [annotate_wrap, children_wrap]
        cases annotate d.functions d.schema (wrapAll links q) <;> simp
      rw [hresult]
      refine Visits.weighted (by cases l <;> simp [wrap]) hw fun c hc before after hlength => ?_
      obtain rfl : c = wrapAll links p := by simpa using hc
      obtain ⟨rfl, rfl⟩ : before = [] ∧ after = [] := by
        rw [children_wrap, List.length_singleton] at hlength
        exact ⟨List.eq_nil_of_length_eq_zero (by omega), List.eq_nil_of_length_eq_zero (by omega)⟩
      simpa [frame] using hchild

theorem visits_pushdown (p : Plan) (above : List Link) {path : List Frame} (h : Cursor.Stops path) :
    (served functions docs).Visits path (wrapAll above p)
      (annotate (served functions docs).functions (served functions docs).schema (pushdown above p))
      (14 * (wrapAll above p).size) := by
  induction p using Plan.inductionOnChildren generalizing above path with
  | h p ih =>
      by_cases hlink : ∃ l i, p = wrap l i
      · obtain ⟨l, i, rfl⟩ := hlink
        rw [pushdown_wrap, ← wrapAll_cons]
        exact ih i (by simp) (l :: above) h
      · have hlink : ∀ l i, p ≠ wrap l i := fun l i hp => hlink ⟨l, i, hp⟩
        by_cases hload : p = .load relationName none
        · subst hload
          rw [pushdown_load]
          refine (visits_load h above).mono ?_
          have := size_pushed above
          simp only [size_wrapAll, Plan.size]
          omega
        · rw [pushdown_node above hlink hload]
          refine visits_wrapAll (by omega) above ?_
          by_cases hbare : ∃ name, p = .load name none
          · obtain ⟨name, rfl⟩ := hbare
            refine (Visits.load rfl fun a ha => ?_).mono (by simp [Plan.size])
            obtain ⟨rfl, -⟩ := adapterFor?_served ha
            exact absurd rfl hload
          · have hbare : ∀ name, p ≠ .load name none := fun name hp => hbare ⟨name, hp⟩
            rw [annotate_refill (by simp), List.mapM_map]
            exact Visits.weighted hbare (by omega) fun c hc before after hlength =>
              ih c hc [] (.node hlink hlength _)

/-- Where an adapter serves the documents, resolution replaces their loads and annotates. -/
theorem resolve_served (p : Plan) : (served functions docs).resolve p =
    annotate (served functions docs).functions (served functions docs).schema (pushdown [] p) := by
  refine (visits_pushdown p [] .root).resolveIn ?_
  have hfuel : (served functions docs).walkFuel p = 64 * (p.size + 1) := by
    simp only [walkFuel, served, List.foldr_nil]
    ring
  rw [wrapAll_nil, hfuel]
  omega

end Document

end QueryEngine
