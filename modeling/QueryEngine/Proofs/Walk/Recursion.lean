import Mathlib.Tactic.Choose
import QueryEngine.Plan.Walk
import QueryEngine.Proofs.Cursor.Steps
import QueryEngine.Proofs.Except
import QueryEngine.Proofs.Walk.Expansion

namespace QueryEngine

structure NodeRule (m : Type → Type) where
  applies : Plan → Bool
  transform : Plan → m Plan

namespace NodeRule

variable {m : Type → Type} [Monad m]

def inPlace (r : NodeRule m) : Rule m where
  applies c := r.applies c.node
  transform c := c.replace <$> r.transform c.node

def applyAll (rules : List (NodeRule m)) (p : Plan) : m Plan :=
  rules.foldlM (fun p r => if r.applies p then r.transform p else pure p) p

/-- Append each node to the nodes seen. -/
def recording : NodeRule (StateT (List Plan) (Except Error)) where
  applies _ := true
  transform p := do
    modify (· ++ [p])
    return p

end NodeRule

namespace Expansion

variable {m : Type → Type} [Monad m] (e : Expansion)

def rule : Rule m where
  applies c := (e.of? c.node).isSome
  transform c :=
    match e.of? c.node with
    | some p => pure (c.replace p).leftmostDescendant
    | none => pure c

/-- Expand loads, and apply the rules at each other node, with its children done before it from left
to right. -/
def process (rules : List (NodeRule m)) (p : Plan) : m Plan :=
  match _h : e.of? p with
  | some q => process rules q
  | none => do
    let cs ← p.children.attach.mapM fun c => process rules c.1
    NodeRule.applyAll rules (p.refill cs)
termination_by e.wellFounded_below.wrap p
decreasing_by
  · exact .inl ‹_›
  · exact .inr c.2

variable {e} {rules : List (NodeRule m)}

theorem process_of_some {p q : Plan} (h : e.of? p = some q) :
    e.process rules p = e.process rules q := by
  rw [process]
  split
  · next hq =>
      obtain rfl := Option.some.inj (h.symm.trans hq)
      rfl
  · next hnone => cases h.symm.trans hnone

theorem process_of_none [LawfulMonad m] {p : Plan} (h : e.of? p = none) :
    e.process rules p = p.children.mapM (e.process rules) >>= fun cs =>
      NodeRule.applyAll rules (p.refill cs) := by
  rw [process]
  split
  · next hq => cases h.symm.trans hq
  · rw [List.mapM_subtype (g := e.process rules) (fun _ _ => rfl), List.unattach_attach]

end Expansion

namespace Walk

variable {m : Type → Type} [Monad m] [MonadExceptOf Error m]

/-- The visit of a subtree under whatever nodes, from its leftmost leaf until all rules have been
tried at its root, takes so many steps and leaves `result` there. -/
def Takes (rules : List (Rule m)) (p : Plan) (result : m Plan) (steps : Nat) : Prop :=
  ∀ path fuel, run rules (steps + fuel) rules (Cursor.descendLeftmost ⟨p, path, false⟩) =
    result >>= fun q => run rules fuel [] ⟨q, path, false⟩

variable [LawfulMonad m] {rules : List (Rule m)} {p : Plan}

theorem run_siblings {f : Plan → m Plan} {steps : Plan → Nat} {path : List Frame} {c : Plan}
    {cs : List Plan} (before : List Plan)
    (hlength : before.length + 1 + cs.length = p.children.length)
    (h : ∀ c' ∈ c :: cs, Takes rules c' (f c') (steps c')) (fuel : Nat) :
    run rules (((c :: cs).map fun c => steps c + 1).sum + fuel) rules
        (Cursor.descendLeftmost ⟨c, ⟨p.shell, before, cs⟩ :: path, false⟩) =
      (c :: cs).mapM f >>= fun qs =>
        run rules fuel rules ⟨p.refill (before.reverse ++ qs), path, false⟩ := by
  induction cs generalizing c before with
  | nil =>
      have hup (q : Plan) : (⟨q, ⟨p.shell, before, []⟩ :: path, false⟩ : Cursor).next =
          .ok (some ⟨p.refill (before.reverse ++ [q]), path, false⟩) := by
        have hfull : (before.reverse ++ [q]).length = p.children.length := by
          simpa using hlength
        simp [Cursor.next, Cursor.right, Cursor.up, Frame.rebuild, Plan.withChildren_shell hfull]
      simp only [List.map_cons, List.map_nil, List.sum_cons, List.sum_nil, Nat.add_zero,
        Nat.add_assoc]
      rw [h c List.mem_cons_self]
      simp [run_next (hup _)]
  | cons c' cs ih =>
      have hright (q : Plan) : (⟨q, ⟨p.shell, before, c' :: cs⟩ :: path, false⟩ : Cursor).next =
          .ok (some (Cursor.descendLeftmost ⟨c', ⟨p.shell, q :: before, cs⟩ :: path, false⟩)) := rfl
      have hrest (q : Plan) := ih (q :: before)
        (by simp only [List.length_cons] at hlength ⊢; omega)
        fun c hmem => h c (List.mem_cons_of_mem _ hmem)
      rw [List.map_cons, List.sum_cons, Nat.add_assoc, Nat.add_assoc, h c List.mem_cons_self,
        List.mapM_cons, bind_assoc]
      refine bind_congr fun q => ?_
      rw [run_next (hright q), hrest]
      simp

theorem Takes.node {f g : Plan → m Plan} {steps : Plan → Nat} {n : Nat}
    (hnode : ∀ cs path fuel, run rules (n + fuel) rules ⟨p.refill cs, path, false⟩ =
      g (p.refill cs) >>= fun q => run rules fuel [] ⟨q, path, false⟩)
    (h : ∀ c ∈ p.children, Takes rules c (f c) (steps c)) :
    Takes rules p (p.children.mapM f >>= fun cs => g (p.refill cs))
      ((p.children.map fun c => steps c + 1).sum + n) := by
  intro path fuel
  cases hc : p.children with
  | nil =>
      have hrefill := Plan.refill_children p
      rw [hc] at hrefill
      have hleaf := hnode [] path fuel
      rw [hrefill] at hleaf
      simp [Cursor.descendLeftmost_leaf hc, hleaf, hrefill]
  | cons c cs =>
      rw [hc] at h
      rw [Cursor.descendLeftmost_node hc, Nat.add_assoc, bind_assoc,
        run_siblings [] (by simp [hc]; omega) h]
      exact bind_congr fun qs => hnode qs path fuel

theorem Takes.moved {rule : Rule m} {rest : List (Rule m)} {q : Plan} {result : m Plan} {n : Nat}
    (hleaf : p.children = []) (happlies : ∀ path, rule.applies ⟨p, path, false⟩)
    (hmove : ∀ path, rule.transform ⟨p, path, false⟩ =
      pure (⟨q, path, false⟩ : Cursor).leftmostDescendant)
    (h : Takes (rule :: rest) q result n) : Takes (rule :: rest) p result (n + 1) := by
  intro path fuel
  rw [← h, ← Cursor.leftmostDescendant_visit q, Nat.add_right_comm,
    Cursor.descendLeftmost_leaf hleaf, run, if_pos (happlies path), hmove, pure_bind]
  rfl

theorem Takes.walk {result : m Plan} {n fuel : Nat} (h : Takes rules p result n)
    (hfuel : n + 1 ≤ fuel) : walk fuel rules p = result := by
  obtain ⟨rest, rfl⟩ : ∃ rest, fuel = n + (1 + rest) := ⟨fuel - n - 1, by omega⟩
  have hroot (q : Plan) : run rules (1 + rest) [] ⟨q, [], false⟩ =
      pure (some ⟨q, [], false⟩) := by
    simp [Nat.add_comm 1, run, Cursor.next, Cursor.right, Cursor.up, lift]
  rw [QueryEngine.walk, Cursor.ofPlan, h]
  simp [hroot, Cursor.toPlan, Cursor.rebuildAll, lift]

theorem run_inPlace (pending : List (NodeRule m)) (p : Plan) (path : List Frame) (fuel : Nat) :
    run rules (pending.length + fuel) (pending.map NodeRule.inPlace) ⟨p, path, false⟩ =
      NodeRule.applyAll pending p >>= fun q => run rules fuel [] ⟨q, path, false⟩ := by
  induction pending generalizing p with
  | nil => simp [NodeRule.applyAll]
  | cons r pending ih =>
      rw [List.length_cons, Nat.add_right_comm, List.map_cons, run]
      rw [NodeRule.applyAll, List.foldlM_cons]
      by_cases hr : r.applies p = true
      · have happlies : r.inPlace.applies ⟨p, path, false⟩ = true := hr
        rw [if_pos happlies]
        simp [if_pos hr, NodeRule.inPlace, Cursor.replace, ih, NodeRule.applyAll]
      · have happlies : ¬ r.inPlace.applies ⟨p, path, false⟩ = true := hr
        rw [if_neg happlies]
        simp [if_neg hr, ih, NodeRule.applyAll]

end Walk

namespace Expansion

open Walk

variable (e : Expansion)

theorem of?_refill {p : Plan} (h : e.of? p = none) (ps : List Plan) :
    e.of? (p.refill ps) = none := by
  cases hr : p.refill ps with
  | load name s =>
      rw [← Plan.refill_eq_load hr, h]
  | _ => rfl

theorem takes_process {m : Type → Type} [Monad m] [LawfulMonad m] [MonadExceptOf Error m]
    (rules : List (NodeRule m)) (p : Plan) :
    ∃ n, Takes (e.rule :: rules.map NodeRule.inPlace) p (e.process rules p) n := by
  induction p using e.wellFounded_below.induction with
  | h p ih =>
      cases hp : e.of? p with
      | some q =>
          obtain ⟨n, hn⟩ := ih q (.inl hp)
          have hleaf : p.children = [] := by
            cases p <;> first | rfl | cases hp
          rw [process_of_some hp]
          exact ⟨n + 1, hn.moved hleaf (by simp [rule, hp]) (by simp [rule, hp, Cursor.replace])⟩
      | none =>
          choose! steps hsteps using fun c hc => ih c (.inr hc)
          rw [process_of_none hp]
          refine ⟨_, Takes.node (n := rules.length + 1) (fun cs path fuel => ?_) hsteps⟩
          have hrule : (e.rule : Rule m).applies ⟨p.refill cs, path, false⟩ = false := by
            simp [rule, e.of?_refill hp]
          rw [Nat.add_right_comm, run, if_neg (by simp [hrule]), run_inPlace]

theorem run_mapM_recording {f : Plan → StateT (List Plan) (Except Error) Plan} {g : Plan → Plan}
    {cs : List Plan}
    (h : ∀ c ∈ cs, ∀ seen, (f c).run seen = .ok (g c, seen ++ (g c).postorder))
    (seen : List Plan) : (cs.mapM f).run seen =
      .ok (cs.map g, seen ++ ((cs.map g).map Plan.postorder).flatten) := by
  induction cs generalizing seen with
  | nil => simp
  | cons c cs ih =>
      have hrest := ih (fun c hc => h c (List.mem_cons_of_mem _ hc)) (seen ++ (g c).postorder)
      rw [List.mapM_cons, StateT.run_bind, h c List.mem_cons_self, ok_bind, StateT.run_bind, hrest,
        ok_bind]
      simp

theorem process_recording (p : Plan) (seen : List Plan) :
    (e.process [NodeRule.recording] p).run seen =
      .ok (e.expand p, seen ++ (e.expand p).postorder) := by
  induction p using e.wellFounded_below.induction generalizing seen with
  | h p ih =>
      cases hp : e.of? p with
      | some q => rw [process_of_some hp, e.expand_of_some hp, ih q (.inl hp)]
      | none =>
          have hchildren : (p.refill (p.children.map e.expand)).children =
              p.children.map e.expand := Plan.children_refill _ _ (List.length_map _)
          rw [process_of_none hp, e.expand_of_none hp, Plan.postorder_eq, hchildren,
            StateT.run_bind, run_mapM_recording fun c hc => ih c (.inr hc)]
          simp [NodeRule.applyAll, NodeRule.recording]

/-- A walk that expands loads ends, and is the recursion. Where all that is done besides is to
record nodes, it sees those of the expanded plan, each once and after its children. -/
theorem walk_eq_process (p : Plan) :
    (∀ (m : Type → Type) [Monad m] [LawfulMonad m] [MonadExceptOf Error m]
      (rules : List (NodeRule m)), ∃ n, ∀ fuel ≥ n,
        walk fuel (e.rule :: rules.map NodeRule.inPlace) p = e.process rules p) ∧
    ∃ n, ∀ fuel ≥ n, ∀ seen, (walk fuel [e.rule, NodeRule.recording.inPlace] p).run seen =
      .ok (e.expand p, seen ++ (e.expand p).postorder) := by
  have hwalk (m : Type → Type) [Monad m] [LawfulMonad m] [MonadExceptOf Error m]
      (rules : List (NodeRule m)) : ∃ n, ∀ fuel ≥ n,
        walk fuel (e.rule :: rules.map NodeRule.inPlace) p = e.process rules p := by
    obtain ⟨n, hn⟩ := e.takes_process rules p
    exact ⟨n + 1, fun fuel hfuel => hn.walk hfuel⟩
  refine ⟨hwalk, ?_⟩
  obtain ⟨n, hn⟩ := hwalk _ [NodeRule.recording]
  refine ⟨n, fun fuel hfuel seen => ?_⟩
  rw [← e.process_recording p seen, ← hn fuel hfuel]
  rfl

theorem walk_eq_process_nested :
    let a := Plan.load "a" none
    let first := Plan.slice a none (some 1) none
    let b := Plan.load "b" none
    let pair := Plan.unionAll first b none
    ∃ n, ∀ fuel ≥ n,
      (walk fuel [nested.rule, NodeRule.recording.inPlace]
        (.aliased "p" (.load "pair" none) none)).run [] =
      .ok (.aliased "p" pair none, [a, first, b, pair, .aliased "p" pair none]) := by
  intro a first b pair
  obtain ⟨n, hn⟩ := (walk_eq_process nested (.aliased "p" (.load "pair" none) none)).2
  have hexpand : nested.expand (.aliased "p" (.load "pair" none) none) = .aliased "p" pair none := by
    have ha : nested.expand (.load "a" none) = a := nested.expand_of_none rfl
    have hb : nested.expand (.load "b" none) = b := nested.expand_of_none rfl
    have hfirst : nested.expand (.load "first" none) = first := by
      rw [nested.expand_of_some rfl, nested.expand_of_none rfl]
      simp [first, Plan.children, Plan.refill, ha]
    have hpair : nested.expand (.load "pair" none) = pair := by
      rw [nested.expand_of_some rfl, nested.expand_of_none rfl]
      simp [pair, Plan.children, Plan.refill, hb, hfirst]
    rw [nested.expand_of_none rfl]
    simp [Plan.children, Plan.refill, hpair]
  refine ⟨n, fun fuel hfuel => ?_⟩
  rw [hn fuel hfuel [], hexpand]
  simp [Plan.postorder_eq, Plan.children, pair, first, a, b]

end Expansion

end QueryEngine
