import Mathlib.Algebra.BigOperators.Ring.List
import QueryEngine.Dataset.Query
import QueryEngine.Proofs.Cursor.Steps
import QueryEngine.Proofs.Resolution.Annotate

namespace QueryEngine

namespace Dataset

open Walk Typing

theorem createViewIn_eq_ok {d d' : Dataset} {steps : Nat} {name : String} {p : Plan} :
    d.createViewIn steps name p = .ok d' ↔
      ∃ v, d.resolveIn steps p = .ok v ∧ d.insertView name v = d' :=
  bind_eq_ok.trans (by simp)

theorem createView_eq_ok {d d' : Dataset} {name : String} {p : Plan} :
    d.createView name p = .ok d' ↔ ∃ v, d.resolve p = .ok v ∧ d.insertView name v = d' :=
  createViewIn_eq_ok

variable (d : Dataset)

abbrev rules : List (Rule (Except Error)) :=
  [d.viewRule, d.adapterRule, d.resolverRule]

/-- The visit of a subtree under the nodes of `path`, from its leftmost leaf until all rules have
been tried at its root, leaves `result` there. It takes less than `bound` steps. -/
def Visits (path : List Frame) (p : Plan) (result : Except Error Plan) (bound : Nat) : Prop :=
  ∃ n < bound, ∀ fuel, run d.rules (n + fuel) d.rules (Cursor.descendLeftmost ⟨p, path, false⟩) =
    result >>= fun q => run d.rules fuel [] ⟨q, path, false⟩

variable {d} {path : List Frame} {p : Plan} {result : Except Error Plan} {bound : Nat}

theorem of_viewRule {c c' : Cursor} (happlies : (d.viewRule : Rule (Except Error)).applies c)
    (h : (d.viewRule : Rule (Except Error)).transform c = .ok c') : ∃ name v,
      c.node = .load name none ∧ d.view? name = some v ∧
        c' = (c.replace v).leftmostDescendant := by
  unfold viewRule at happlies h
  dsimp only at happlies h
  split at happlies
  · next name hnode =>
      rw [hnode] at h
      cases hview : d.view? name with
      | none =>
          rw [hasView, Assoc.contains, ← view?, hview] at happlies
          cases happlies
      | some v =>
          simp only [hview] at h
          cases h
          exact ⟨name, v, hnode, hview, rfl⟩
  · cases happlies

theorem of_adapterRule {c c' : Cursor} (happlies : (d.adapterRule : Rule (Except Error)).applies c)
    (h : (d.adapterRule : Rule (Except Error)).transform c = .ok c') : ∃ name,
      c.node = .load name none ∧ ∃ a ∈ d.adapters, a.evaluate c = .ok c' := by
  unfold adapterRule at happlies h
  dsimp only at happlies h
  split at happlies
  · next name hnode =>
      rw [hnode] at h
      cases ha : d.adapterFor? name with
      | none => simp [ha] at happlies
      | some a =>
          simp only [ha] at h
          refine ⟨name, hnode, a, List.mem_of_find?_eq_some ha, ?_⟩
          cases he : a.evaluate c <;> rw [he] at h <;> cases h
          rfl
  · cases happlies

theorem of_run_nil {rules : List (Rule (Except Error))} {fuel : Nat} {c c' : Cursor}
    (h : run rules (fuel + 1) [] c = .ok (some c')) : c.next = .ok none ∧ c' = c ∨
      ∃ c₁, c.next = .ok (some c₁) ∧ run rules fuel rules c₁ = .ok (some c') := by
  rw [run] at h
  obtain ⟨moved, hmoved, h⟩ := bind_eq_ok.1 h
  have hmove : c.next = .ok moved := by
    cases hn : c.next <;> rw [hn] at hmoved <;> cases hmoved
    rfl
  cases moved with
  | none =>
      cases h
      exact .inl ⟨hmove, rfl⟩
  | some c₁ => exact .inr ⟨c₁, hmove, h⟩

theorem of_run_cons {rules pending : List (Rule (Except Error))} {r : Rule (Except Error)}
    {fuel : Nat} {c c' : Cursor} (h : run rules (fuel + 1) (r :: pending) c = .ok (some c')) :
    r.applies c = false ∧ run rules fuel pending c = .ok (some c') ∨
      r.applies c = true ∧ ∃ c₁, r.transform c = .ok c₁ ∧
        (if c₁.repositioned then run rules fuel rules { c₁ with repositioned := false }
          else run rules fuel pending c₁) = .ok (some c') := by
  rw [run] at h
  split at h
  · next happlies => exact .inr ⟨happlies, bind_eq_ok.1 h⟩
  · next happlies => exact .inl ⟨by simpa using happlies, h⟩

theorem Visits.mono {bound' : Nat} (h : d.Visits path p result bound) (hb : bound ≤ bound') :
    d.Visits path p result bound' := by
  obtain ⟨n, hn, hrun⟩ := h
  exact ⟨n, Nat.lt_of_lt_of_le hn hb, hrun⟩

theorem run_resolver (p : Plan) (path : List Frame) (fuel : Nat) :
    run d.rules (fuel + 1) [d.resolverRule] ⟨p, path, false⟩ =
      annotateNode d.functions d.schema p >>= fun q => run d.rules fuel [] ⟨q, path, false⟩ := by
  rw [run]
  by_cases hhole : p = .placeholder
  · subst hhole
    rfl
  · have happlies : (d.resolverRule : Rule (Except Error)).applies ⟨p, path, false⟩ = true := by
      cases p <;> first | rfl | exact absurd rfl hhole
    rw [if_pos happlies, annotateNode_of_ne hhole]
    cases h : resolveNode d.functions d.schema p <;>
      simp [resolverRule, Typing.rule, h, Walk.lift, Cursor.replace]
    rfl

theorem run_node (hp : ∀ name, p ≠ .load name none) (path : List Frame) (fuel : Nat) :
    run d.rules (fuel + 3) d.rules ⟨p, path, false⟩ =
      annotateNode d.functions d.schema p >>= fun q => run d.rules fuel [] ⟨q, path, false⟩ := by
  have hview : (d.viewRule : Rule (Except Error)).applies ⟨p, path, false⟩ = false := by
    unfold viewRule
    dsimp only
    split
    · exact absurd rfl (hp _)
    · rfl
  have hadapter : (d.adapterRule : Rule (Except Error)).applies ⟨p, path, false⟩ = false := by
    unfold adapterRule
    dsimp only
    split
    · exact absurd rfl (hp _)
    · rfl
  rw [run, if_neg (by simp [hview]), run, if_neg (by simp [hadapter]), run_resolver]

theorem run_children {f : Plan → Except Error Plan} {bounds : Plan → Nat} {shell c : Plan}
    {cs : List Plan} (before : List Plan) (h : ∀ c' ∈ c :: cs, ∀ before' after,
      before'.length + after.length = before.length + cs.length →
        d.Visits (⟨shell, before', after⟩ :: path) c' (f c') (bounds c')) :
    ∃ n ≤ ((c :: cs).map bounds).sum, ∀ fuel,
      run d.rules (n + fuel) d.rules
          (Cursor.descendLeftmost ⟨c, ⟨shell, before, cs⟩ :: path, false⟩) =
        (c :: cs).mapM f >>= fun qs => shell.withChildren (before.reverse ++ qs) >>= fun node =>
          run d.rules fuel d.rules ⟨node, path, false⟩ := by
  induction cs generalizing c before with
  | nil =>
      -- no sibling comes after the last child, so the walk goes up
      obtain ⟨n, hn, hrun⟩ := h c List.mem_cons_self before [] rfl
      refine ⟨n + 1, by simpa using Nat.succ_le_of_lt hn, fun fuel => ?_⟩
      rw [Nat.add_assoc, hrun]
      cases hc : f c with
      | error e => simp [hc]
      | ok q =>
          simp only [ok_bind, List.mapM_cons, hc, List.mapM_nil, pure_eq]
          cases hup : shell.withChildren (before.reverse ++ [q]) with
          | error e =>
              simp [Nat.add_comm 1, run, Cursor.next, Cursor.right, Cursor.up, Frame.rebuild, hup,
                Walk.lift]
              rfl
          | ok node => exact run_next (by simp [Cursor.next, Cursor.right, Cursor.up,
              Frame.rebuild, hup]) fuel
  | cons c' cs ih =>
      -- the visited child joins the siblings before, and the next one is visited
      obtain ⟨n, hn, hrun⟩ := h c List.mem_cons_self before (c' :: cs) rfl
      cases hc : f c with
      | error e =>
          refine ⟨n, by simp only [List.map_cons, List.sum_cons]; omega, fun fuel => ?_⟩
          simp [hrun, hc]
      | ok q =>
          obtain ⟨m, hm, hrest⟩ := ih (q :: before) fun c hmem before' after hlength =>
            h c (List.mem_cons_of_mem _ hmem) before' after
              (by simp only [List.length_cons] at hlength ⊢; omega)
          refine ⟨n + (1 + m), ?_, fun fuel => ?_⟩
          · simp only [List.map_cons, List.sum_cons] at hm ⊢
            omega
          have hnext : (⟨q, ⟨shell, before, c' :: cs⟩ :: path, false⟩ : Cursor).next =
              .ok (some (Cursor.descendLeftmost ⟨c', ⟨shell, q :: before, cs⟩ :: path, false⟩)) := rfl
          rw [Nat.add_assoc, Nat.add_assoc, hrun, hc, ok_bind, run_next hnext, hrest,
            List.mapM_cons (a := c), hc]
          cases (c' :: cs).mapM f <;> simp

theorem Visits.node {f : Plan → Except Error Plan} {bounds : Plan → Nat}
    (hp : ∀ name, p ≠ .load name none) (h : ∀ c ∈ p.children, ∀ before after,
      before.length + 1 + after.length = p.children.length →
        d.Visits (⟨p.shell, before, after⟩ :: path) c (f c) (bounds c))
    (hb : (p.children.map bounds).sum + 3 < bound) :
    d.Visits path p (p.children.mapM f >>= fun cs =>
      annotateNode d.functions d.schema (p.refill cs)) bound := by
  cases hc : p.children with
  | nil =>
      refine ⟨3, by omega, fun fuel => ?_⟩
      have hrefill := Plan.refill_children p
      rw [hc] at hrefill
      rw [Cursor.descendLeftmost_leaf hc, Nat.add_comm, run_node hp]
      simp [hrefill]
  | cons c cs =>
      obtain ⟨n, hn, hrun⟩ := run_children [] fun c' hmem before after hlength =>
        h c' (hc ▸ hmem) before after (by
          simp only [hc, List.length_cons, List.length_nil] at hlength ⊢
          omega)
      refine ⟨n + 3, by rw [hc] at hb; omega, fun fuel => ?_⟩
      rw [Cursor.descendLeftmost_node hc, Nat.add_assoc, hrun]
      cases hqs : (c :: cs).mapM f with
      | error e => rfl
      | ok qs =>
          have hlength : qs.length = p.children.length := by
            rw [hc, length_of_mapM hqs]
          have hload (name : String) : p.refill qs ≠ .load name none :=
            fun hr => hp name (Plan.refill_eq_load hr)
          rw [ok_bind, ok_bind, List.reverse_nil, List.nil_append,
            Plan.withChildren_shell hlength, ok_bind, Nat.add_comm 3, run_node hload]

theorem Visits.weighted {f : Plan → Except Error Plan} {weight : Nat}
    (hp : ∀ name, p ≠ .load name none) (hw : 4 ≤ weight)
    (h : ∀ c ∈ p.children, ∀ before after, before.length + 1 + after.length = p.children.length →
      d.Visits (⟨p.shell, before, after⟩ :: path) c (f c) (weight * c.size)) :
    d.Visits path p (p.children.mapM f >>= fun cs =>
      annotateNode d.functions d.schema (p.refill cs)) (weight * p.size) := by
  refine Visits.node hp h ?_
  rw [List.sum_map_mul_left, Plan.size_eq p, Nat.mul_add]
  omega

theorem Visits.annotated (h : p.Annotated) (path : List Frame) :
    d.Visits path p (annotate d.functions d.schema p) (4 * p.size) := by
  induction h generalizing path with
  | load name s =>
      rw [annotate_eq]
      exact Visits.weighted (by simp) (Nat.le_refl 4) (by simp [Plan.children])
  | node hp _ ih =>
      rw [annotate_eq]
      exact Visits.weighted (fun name => hp name none) (Nat.le_refl 4) fun c hc _ _ _ => ih c hc _

theorem Visits.view {name : String} {v : Plan} (hv : d.view? name = some v)
    (h : d.Visits path v result bound) :
    d.Visits path (.load name none) result (bound + 1) := by
  obtain ⟨n, hn, hrun⟩ := h
  refine ⟨n + 1, by omega, fun fuel => ?_⟩
  have happlies : (d.viewRule : Rule (Except Error)).applies ⟨.load name none, path, false⟩ := by
    simpa [viewRule, hasView, Assoc.contains, view?] using congrArg Option.isSome hv
  have hmove : (d.viewRule : Rule (Except Error)).transform ⟨.load name none, path, false⟩ =
      .ok (⟨v, path, false⟩ : Cursor).leftmostDescendant := by
    simp [viewRule, hv, Cursor.replace]
  have hstart : (⟨.load name none, path, false⟩ : Cursor).descendLeftmost =
      ⟨.load name none, path, false⟩ := Cursor.descendLeftmost_leaf rfl _ _
  rw [← hrun, ← Cursor.leftmostDescendant_visit v, Nat.add_right_comm, hstart, run,
    if_pos happlies, hmove]
  rfl

theorem Visits.load {name : String} (hv : d.view? name = none)
    (ha : ∀ a, d.adapterFor? name = some a → ∀ c, a.evaluate c = .ok c) :
    d.Visits path (.load name none)
      (annotateNode d.functions d.schema (.load name none)) 4 := by
  refine ⟨3, by omega, fun fuel => ?_⟩
  have hview : (d.viewRule : Rule (Except Error)).applies ⟨.load name none, path, false⟩ = false := by
    simpa [viewRule, hasView, Assoc.contains, view?] using hv
  have hadapter : (d.adapterRule : Rule (Except Error)).transform ⟨.load name none, path, false⟩ =
      .ok ⟨.load name none, path, false⟩ := by
    cases hf : d.adapterFor? name with
    | none => simp [adapterRule, hf]
    | some a => simp [adapterRule, hf, ha a hf, Walk.lift]
  rw [Cursor.descendLeftmost_leaf rfl, Nat.add_comm, run, if_neg (by simp [hview]), run]
  split
  · rw [hadapter, ok_bind, if_neg (by simp)]
    exact run_resolver _ path fuel
  · exact run_resolver _ path fuel

theorem Visits.resolveIn {steps : Nat} (h : d.Visits [] p result bound) (hb : bound ≤ steps) :
    d.resolveIn steps p = result := by
  obtain ⟨n, hn, hrun⟩ := h
  obtain ⟨fuel, rfl⟩ : ∃ fuel, steps = n + (1 + fuel) := ⟨steps - n - 1, by omega⟩
  have hroot (q : Plan) : run d.rules (1 + fuel) [] ⟨q, [], false⟩ = .ok (some ⟨q, [], false⟩) := by
    rw [Nat.add_comm]
    rfl
  rw [Dataset.resolveIn, walk, Cursor.ofPlan, hrun]
  cases result with
  | error e => rfl
  | ok q =>
      rw [ok_bind, hroot]
      rfl

end Dataset

namespace Query

theorem ofIn_eq_ok {d : Dataset} {steps : Nat} {p : Plan} {q : Query} :
    ofIn d steps p = .ok q ↔
      d.resolveIn steps p = .ok q.plan ∧ q.plan.outputSchema = .ok q.schema := by
  refine ⟨fun h => ?_, fun ⟨hplan, hs⟩ => by simp [ofIn, hplan, hs]⟩
  obtain ⟨plan, hplan, h⟩ := bind_eq_ok.1 h
  obtain ⟨s, hs, h⟩ := bind_eq_ok.1 h
  cases h
  exact ⟨hplan, hs⟩

theorem of_eq_ok {d : Dataset} {p : Plan} {q : Query} :
    of d p = .ok q ↔ d.resolve p = .ok q.plan ∧ q.plan.outputSchema = .ok q.schema :=
  ofIn_eq_ok

end Query

end QueryEngine
