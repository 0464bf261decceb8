import QueryEngine.Plan.Lemmas
import QueryEngine.Proofs.Except
import QueryEngine.Typing.Plan

namespace QueryEngine

namespace Plan

/-- Every load carries a schema, so nothing is left to substitute. -/
inductive Annotated : Plan → Prop
  | load (name : String) (s : Schema) : Annotated (.load name (some s))
  | node {p : Plan} (hp : ∀ name s, p ≠ .load name s) (h : ∀ c ∈ p.children, Annotated c) :
      Annotated p

theorem Annotated.ofChild {p c : Plan} (hp : p.children = [c]) (h : c.Annotated) : p.Annotated := by
  refine .node (fun name s => ?_) fun c' hc' => ?_
  · rintro rfl
    cases hp
  · rw [hp, List.mem_singleton] at hc'
    exact hc' ▸ h

end Plan

namespace Typing

open Plan

variable (functions : FunctionRegistry) (relation : String → Except Error Schema)

def annotateNode : Plan → Except Error Plan
  | .placeholder => .ok .placeholder
  | p => resolveNode functions relation p

variable {functions relation} in
theorem annotateNode_of_ne {p : Plan} (hp : p ≠ .placeholder) :
    annotateNode functions relation p = resolveNode functions relation p := by
  cases p <;> first | rfl | exact absurd rfl hp

mutual

/-- Resolve all nodes of a plan from the leaves up. -/
def annotate : Plan → Except Error Plan
  | .load n s => resolveNode functions relation (.load n s)
  | .aliased n i s => do resolveNode functions relation (.aliased n (← annotate i) s)
  | .project i es s => do resolveNode functions relation (.project (← annotate i) es s)
  | .select i e s => do resolveNode functions relation (.select (← annotate i) e s)
  | .join l r e t s => do
    let l ← annotate l
    resolveNode functions relation (.join l (← annotate r) e t s)
  | .unionAll l r s => do
    let l ← annotate l
    resolveNode functions relation (.unionAll l (← annotate r) s)
  | .orderBy i ks s => do resolveNode functions relation (.orderBy (← annotate i) ks s)
  | .groupBy i ks as s => do resolveNode functions relation (.groupBy (← annotate i) ks as s)
  | .slice i a b s => do resolveNode functions relation (.slice (← annotate i) a b s)
  | .tableFunction n args s => do
    resolveNode functions relation (.tableFunction n (← annotateArgs args) s)
  | .placeholder => .ok .placeholder

def annotateArgs : List (TableArg Plan) → Except Error (List (TableArg Plan))
  | [] => .ok []
  | .constant v :: args => do return .constant v :: (← annotateArgs args)
  | .relation p :: args => do
    let p ← annotate p
    return .relation p :: (← annotateArgs args)

end

theorem annotateArgs_eq (args : List (TableArg Plan)) :
    annotateArgs functions relation args =
      ((relationArgs args).mapM (annotate functions relation)).map (refillArgs args) := by
  induction args with
  | nil => rfl
  | cons a args ih =>
      cases a with
      | constant v =>
          cases h : (relationArgs args).mapM (annotate functions relation) <;>
            simp [annotateArgs, relationArgs, refillArgs, ih, h, Except.map]
      | relation p =>
          cases hp : annotate functions relation p <;>
            cases h : (relationArgs args).mapM (annotate functions relation) <;>
              simp [annotateArgs, relationArgs, refillArgs, ih, hp, h, Except.map]

theorem annotate_eq (p : Plan) :
    annotate functions relation p =
      p.children.mapM (annotate functions relation) >>= fun cs =>
        annotateNode functions relation (p.refill cs) := by
  cases p with
  | load | placeholder => rfl
  | join l r | unionAll l r =>
      rw [annotate, children, List.mapM_cons, List.mapM_cons, List.mapM_nil]
      cases annotate functions relation l <;> cases annotate functions relation r <;> rfl
  | tableFunction n args s =>
      rw [annotate, annotateArgs_eq, children]
      cases (relationArgs args).mapM (annotate functions relation) <;> rfl
  | aliased _ i | project i | select i | orderBy i | groupBy i | slice i =>
      rw [annotate, children, List.mapM_cons, List.mapM_nil]
      cases annotate functions relation i <;> rfl

variable {functions relation}

theorem annotate_refill {p : Plan} {ps : List Plan} (h : ps.length = p.children.length) :
    annotate functions relation (p.refill ps) =
      ps.mapM (annotate functions relation) >>= fun cs =>
        annotateNode functions relation (p.refill cs) := by
  rw [annotate_eq, children_refill p ps h]
  cases hcs : ps.mapM (annotate functions relation) with
  | error e => rfl
  | ok cs => rw [ok_bind, ok_bind, refill_refill p ps cs (length_of_mapM hcs).symm]

/-- A schema follows from the children alone, not from the schema that a node had before. -/
theorem nodeSchema_withSchema {p : Plan} (hp : ∀ name s, p ≠ .load name s) (s : Schema) :
    nodeSchema functions relation (p.withSchema s) = nodeSchema functions relation p := by
  cases p with
  | load name schema => exact absurd rfl (hp name schema)
  | _ => rfl

theorem bindAggregates_withSchema (p : Plan) (s : Schema) :
    bindAggregates functions (p.withSchema s) =
      (bindAggregates functions p).map (·.withSchema s) := by
  cases p with
  | groupBy input keys as schema =>
      cases h : groupedProjection input with
      | error e => simp [withSchema, bindAggregates, h, Except.map]
      | ok g =>
          cases hs : g.1.outputSchema with
          | error e => simp [withSchema, bindAggregates, h, hs, Except.map]
          | ok s =>
              cases ha : aggregateBindings s functions g.2 <;>
                simp [withSchema, bindAggregates, h, hs, ha, Except.map]
  | _ => rfl

theorem of_bindAggregates {p q : Plan} (h : bindAggregates functions p = .ok q) :
    q.children = p.children ∧ nodeSchema functions relation q = nodeSchema functions relation p ∧
      bindAggregates functions q = .ok q := by
  cases p with
  | groupBy input keys as schema =>
      obtain ⟨g, hg, h⟩ := bind_eq_ok.1 h
      obtain ⟨s, hs, h⟩ := bind_eq_ok.1 h
      obtain ⟨bindings, hb, h⟩ := bind_eq_ok.1 h
      cases h
      exact ⟨rfl, rfl, by simp [bindAggregates, hg, hs, hb]⟩
  | _ => cases h; exact ⟨rfl, rfl, rfl⟩

theorem nodeSchema_load {name : String} {schema : Option Schema} {s : Schema}
    (h : nodeSchema functions relation (.load name schema) = .ok s) :
    nodeSchema functions relation (.load name (some s)) = .ok s := by
  by_cases hn : name = ""
  · simpa [nodeSchema, hn] using h
  · simp [nodeSchema, hn]

theorem children_withSchema (p : Plan) (s : Schema) : (p.withSchema s).children = p.children := by
  cases p <;> rfl

theorem resolveNode_eq_ok {p q : Plan} (h : resolveNode functions relation p = .ok q) :
    q.children = p.children ∧ resolveNode functions relation q = .ok q := by
  obtain ⟨s, hs, h⟩ := bind_eq_ok.1 h
  obtain ⟨b, hb, h⟩ := bind_eq_ok.1 h
  obtain rfl : b.withSchema s = q := by simpa using h
  obtain ⟨hchildren, hschema, hagain⟩ := @of_bindAggregates _ relation _ _ hb
  refine ⟨by rw [children_withSchema, hchildren], ?_⟩
  have hnode : nodeSchema functions relation (b.withSchema s) = .ok s := by
    cases b with
    | load name schema => exact nodeSchema_load (hschema.trans hs)
    | _ => rw [nodeSchema_withSchema (by simp), hschema, hs]
  have hsame : (b.withSchema s).withSchema s = b.withSchema s := by
    cases b <;> rfl
  simp [resolveNode, hnode, bindAggregates_withSchema, hagain, Except.map, hsame]

theorem annotateNode_eq_ok {p q : Plan} (h : annotateNode functions relation p = .ok q) :
    q.children = p.children ∧ annotateNode functions relation q = .ok q := by
  unfold annotateNode at h
  split at h
  · cases h
    exact ⟨rfl, rfl⟩
  · obtain ⟨hchildren, hagain⟩ := resolveNode_eq_ok h
    refine ⟨hchildren, ?_⟩
    unfold annotateNode
    split
    · rfl
    · exact hagain

theorem kind_of_annotateNode {p q : Plan} (h : annotateNode functions relation p = .ok q) :
    q.kind = p.kind := by
  by_cases hhole : p = .placeholder
  · subst hhole
    cases h
    rfl
  · rw [annotateNode_of_ne hhole] at h
    obtain ⟨s, -, h⟩ := bind_eq_ok.1 h
    obtain ⟨b, hb, h⟩ := bind_eq_ok.1 h
    cases h
    have hkind : (b.withSchema s).kind = b.kind := by
      cases b <;> rfl
    rw [hkind]
    cases p with
    | groupBy =>
        obtain ⟨_, -, hb⟩ := bind_eq_ok.1 hb
        obtain ⟨_, -, hb⟩ := bind_eq_ok.1 hb
        obtain ⟨_, -, hb⟩ := bind_eq_ok.1 hb
        cases hb
        rfl
    | _ =>
        cases hb
        rfl

theorem kind_of_annotate {p q : Plan} (h : annotate functions relation p = .ok q) :
    q.kind = p.kind := by
  rw [annotate_eq] at h
  obtain ⟨cs, -, h⟩ := bind_eq_ok.1 h
  rw [kind_of_annotateNode h, kind_refill]

theorem annotate_annotate {p q : Plan} (h : annotate functions relation p = .ok q) :
    annotate functions relation q = .ok q := by
  induction p using inductionOnChildren generalizing q with
  | h p ih =>
      rw [annotate_eq] at h
      obtain ⟨cs, hcs, h⟩ := bind_eq_ok.1 h
      obtain ⟨hchildren, hagain⟩ := annotateNode_eq_ok h
      rw [children_refill _ _ (length_of_mapM hcs)] at hchildren
      have hcs' : cs.mapM (annotate functions relation) = .ok cs := by
        rw [mapM_eq_ok, List.forall₂_same]
        intro c' hc'
        obtain ⟨c, hc, hcc'⟩ := exists_of_mem_mapM hcs hc'
        exact ih c hc hcc'
      rw [annotate_eq, hchildren, hcs', ok_bind, ← hchildren, refill_children, hagain]

theorem annotated_of_annotate {p q : Plan} (h : annotate functions relation p = .ok q) :
    q.Annotated := by
  induction p using inductionOnChildren generalizing q with
  | h p ih =>
      rw [annotate_eq] at h
      obtain ⟨cs, hcs, h⟩ := bind_eq_ok.1 h
      obtain ⟨hchildren, hagain⟩ := annotateNode_eq_ok h
      rw [children_refill _ _ (length_of_mapM hcs)] at hchildren
      cases q with
      | load name schema =>
          obtain ⟨s, -, hload⟩ := bind_eq_ok.1 hagain
          obtain rfl : some s = schema := by simpa [bindAggregates, withSchema] using hload
          exact .load name s
      | _ =>
          refine .node (by simp) fun c' hc' => ?_
          rw [hchildren] at hc'
          obtain ⟨c, hc, hcc'⟩ := exists_of_mem_mapM hcs hc'
          exact ih c hc hcc'

theorem annotateNode_congr (relation' : String → Except Error Schema) {p : Plan}
    (hp : ∀ name, p ≠ .load name none) :
    annotateNode functions relation p = annotateNode functions relation' p := by
  cases p with
  | load name schema =>
      cases schema with
      | none => exact absurd rfl (hp name)
      | some s => rfl
  | _ => rfl

/-- Where all loads carry schemas, no relation is looked up. -/
theorem annotate_congr_of_annotated (relation' : String → Except Error Schema) {p : Plan}
    (h : p.Annotated) : annotate functions relation p = annotate functions relation' p := by
  induction h with
  | load name s => rfl
  | @node p hp h ih =>
      have hnode (cs : List Plan) : annotateNode functions relation (p.refill cs) =
          annotateNode functions relation' (p.refill cs) :=
        annotateNode_congr relation' fun name h => hp name none (refill_eq_load h)
      rw [annotate_eq, annotate_eq, mapM_congr ih]
      simp only [hnode]

end Typing

end QueryEngine
