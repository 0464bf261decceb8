import QueryEngine.Adapter.Documents
import QueryEngine.Adapter.Memory
import QueryEngine.Proofs.Resolution.Walk

namespace QueryEngine

namespace Cursor

def behind (c : Cursor) : List Plan :=
  c.path.flatMap (·.before)

/-- What a walk in post-order has visited when it comes to the focus. -/
def visited (c : Cursor) : List Plan :=
  c.node.children ++ c.behind

theorem behind_of_down {c c' : Cursor} (h : c.down 0 = some c') : c'.behind = c.behind := by
  simp [behind, (of_down h).2]

theorem behind_downFirst (n : Nat) (c : Cursor) : (downFirst n c).behind = c.behind := by
  exact downFirst_induction (P := fun c' => c'.behind = c.behind)
    (fun _ _ hc h => (behind_of_down h).trans hc) rfl n

theorem children_downFirst {n : Nat} {c : Cursor} (h : c.node.size ≤ n) :
    (downFirst n c).node.children = [] := by
  induction n generalizing c with
  | zero =>
      have := Plan.size_eq c.node
      omega
  | succ n ih =>
      rw [downFirst]
      cases hdown : c.down 0 with
      | none => simpa using of_down_eq_none hdown
      | some c' =>
          have hsize := Plan.size_lt_of_mem_children (List.mem_of_getElem? (of_down hdown).1)
          exact ih (by omega)

theorem visited_descendLeftmost (c : Cursor) : c.descendLeftmost.visited = c.behind := by
  rw [visited, descendLeftmost, children_downFirst (Nat.le_refl _), behind_downFirst,
    List.nil_append]

theorem visited_leftmostDescendant (c : Cursor) : c.leftmostDescendant.visited = c.behind :=
  visited_descendLeftmost c

theorem children_of_up {c c' : Cursor} (h : c.up = .ok (some c')) : ∃ f path, c.path = f :: path ∧
    c'.path = path ∧ c'.node.children = f.before.reverse ++ c.node :: f.after := by
  obtain ⟨f, path, hpath, rfl, hlength⟩ := of_up h
  exact ⟨f, path, hpath, rfl, Plan.children_refill _ _ hlength⟩

/-- Going on in post-order, nothing is behind but the focus and what was behind before. -/
theorem of_next {c c' : Cursor} (h : c.next = .ok (some c')) :
    ∀ p ∈ c'.visited, p = c.node ∨ p ∈ c.behind := by
  intro p hp
  unfold next at h
  split at h
  · next c₁ hright =>
      cases h
      obtain ⟨f, path, node, after, hpath, -, rfl⟩ := of_right hright
      rw [visited_descendLeftmost] at hp
      simpa [behind, hpath, or_assoc] using hp
  · next hright =>
      obtain ⟨f, path, hpath, hpath', hchildren⟩ := children_of_up h
      have hlast := of_right_eq_none hright hpath
      simp only [visited, hchildren, hlast, behind, hpath', hpath, List.mem_append,
        List.mem_reverse, List.mem_singleton, List.flatMap_cons] at hp ⊢
      tauto

theorem repositioned_next {c c' : Cursor} (h : c.next = .ok (some c')) :
    c'.repositioned = c.repositioned := by
  unfold next at h
  split at h
  · next c₁ hright =>
      cases h
      obtain ⟨_, _, _, _, -, -, rfl⟩ := of_right hright
      exact downFirst_repositioned _ _
  · obtain ⟨_, _, -, rfl, -⟩ := of_up h
    rfl

theorem path_of_next {c : Cursor} (h : c.next = .ok none) : c.path = [] := by
  unfold next at h
  split at h
  · cases h
  · exact of_up_eq_none h

theorem behind_of_up {c c' : Cursor} (h : c.up = .ok (some c')) : c'.behind ⊆ c.behind := by
  obtain ⟨f, path, hpath, hpath', -⟩ := children_of_up h
  simp [behind, hpath, hpath']

theorem behind_of_up_down {c c' : Cursor} (h : c.up = .ok (some c')) {position : Nat}
    (hposition : c.position? = some position) :
    ((c'.down position).getD c').behind ⊆ c.behind := by
  obtain ⟨f, path, hpath, hpath', hchildren⟩ := children_of_up h
  obtain rfl : f.before.length = position := by simpa [position?, hpath] using hposition
  cases hdown : c'.down f.before.length with
  | none => exact behind_of_up h
  | some c'' => simp [behind, (of_down hdown).2, hpath, hpath', hchildren]

/-- What a climb keeps. A node that stays is one level more, perhaps with another predicate, a
selection may be removed, and a node that stops the climb is left the way it was entered. -/
theorem climb_invariant {I : Climb → Prop}
    (hstays : ∀ k c input p taken, I k → k.cursor.up = .ok (some c) → c.node.children = [input] →
      p.children = [input] → I ⟨k.levels + 1, taken, { c with node := p }⟩)
    (hgoes : ∀ k c input taken, I k → k.cursor.up = .ok (some c) → c.node.children = [input] →
      I ⟨k.levels, taken, { c with node := input }⟩)
    (hback : ∀ k c position, I k → k.cursor.up = .ok (some c) →
      k.cursor.position? = some position → I { k with cursor := (c.down position).getD c })
    {n : Nat} {keys : KeyFields} {k k' : Climb} (hk : I k) (h : climb n keys k = .ok k') : I k' := by
  induction n generalizing keys k with
  | zero =>
      cases h
      exact hk
  | succ n ih =>
      rw [climb] at h
      split at h
      · cases h
        exact hk
      · next position hposition =>
          obtain ⟨moved, hup, h⟩ := bind_eq_ok.1 h
          cases moved with
          | none =>
              cases h
              exact hk
          | some c =>
              have hkept {input : Plan} (hinput : c.node.children = [input]) :
                  I { k with levels := k.levels + 1, cursor := c } :=
                hstays k c input c.node k.taken hk hup hinput hinput
              dsimp only at h
              split at h
              · next input predicate schema hnode =>
                  have hinput : c.node.children = [input] := congrArg Plan.children hnode
                  split at h
                  · exact ih (hkept hinput) h
                  · exact ih (hstays k c input _ _ hk hup hinput rfl) h
                  · exact ih (hgoes k c input _ hk hup hinput) h
              · next hnode => exact ih (hkept (congrArg Plan.children hnode)) h
              · next hnode => exact ih (hkept (congrArg Plan.children hnode)) h
              · next hnode => exact ih (hkept (congrArg Plan.children hnode)) h
              · cases h
                exact hback k c position hk hup hposition

theorem behind_climb {n : Nat} {keys : KeyFields} {k k' : Climb} (h : climb n keys k = .ok k') :
    k'.cursor.behind ⊆ k.cursor.behind := by
  refine climb_invariant (I := fun k' => k'.cursor.behind ⊆ k.cursor.behind) ?_ ?_ ?_
    (List.Subset.refl _) h
  · intro k c input p taken hk hup _ _
    have hc : c.behind ⊆ k.cursor.behind := behind_of_up hup
    exact List.Subset.trans hc hk
  · intro k c input taken hk hup _
    have hc : c.behind ⊆ k.cursor.behind := behind_of_up hup
    exact List.Subset.trans hc hk
  · intro k c position hk hup hposition
    exact List.Subset.trans (behind_of_up_down hup hposition) hk

theorem behind_pushKeyPredicates {keys : KeyFields} {c c' : Cursor}
    (h : c.pushKeyPredicates keys = .ok c') : c'.behind ⊆ c.behind := by
  obtain ⟨k, hk, h⟩ := bind_eq_ok.1 h
  have hclimb := behind_climb hk
  rw [← behind_downFirst k.levels] at hclimb
  split at h <;> cases h <;> exact hclimb

end Cursor

/-- What counts as visited where the adapter leaves the cursor has been visited before. -/
def Adapter.AsksForVisits (a : Adapter) : Prop :=
  ∀ c c', a.evaluate c = .ok c' → c'.visited ⊆ c.visited

theorem MemoryStore.asksForVisits_adapter (m : MemoryStore) : m.adapter.AsksForVisits := by
  rintro c c' ⟨⟩
  exact List.Subset.refl _

theorem Document.asksForVisits_adapter : adapter.AsksForVisits := by
  intro c c' h
  obtain ⟨pushed, hpushed, h⟩ := bind_eq_ok.1 h
  cases h
  rw [Cursor.visited_leftmostDescendant]
  have hbehind := Cursor.behind_pushKeyPredicates hpushed
  exact List.Subset.trans hbehind (List.subset_append_right c.node.children c.behind)

namespace Dataset

open Walk Typing Cursor

variable {d : Dataset} {P : Plan → Prop}

/-- The rule leaves the cursor where only plans with `P` count as visited, if it was so before. -/
def Leaves (P : Plan → Prop) (r : Rule (Except Error)) : Prop :=
  ∀ c c', (∀ p ∈ c.visited, P p) → r.applies c → r.transform c = .ok c' → ∀ p ∈ c'.visited, P p

theorem leaves_viewRule : Leaves P (d.viewRule : Rule (Except Error)) := by
  intro c c' hc happlies h
  obtain ⟨_, _, -, -, rfl⟩ := of_viewRule happlies h
  rw [visited_leftmostDescendant]
  exact fun p hp => hc p (List.mem_append_right _ hp)

theorem leaves_adapterRule (hd : ∀ a ∈ d.adapters, a.AsksForVisits) :
    Leaves P (d.adapterRule : Rule (Except Error)) := by
  intro c c' hc happlies h
  obtain ⟨_, -, a, ha, h⟩ := of_adapterRule happlies h
  exact fun p hp => hc p (hd a ha c c' h hp)

theorem of_resolverRule {c c' : Cursor} (hc : (d.resolverRule : Rule (Except Error)).applies c)
    (h : (d.resolverRule : Rule (Except Error)).transform c = .ok c') :
    annotateNode d.functions d.schema c.node = .ok c'.node ∧ c'.visited = c.visited := by
  have hhole : c.node ≠ .placeholder := by
    intro hhole
    simp [resolverRule, Typing.rule, hhole] at hc
  obtain ⟨q, hq, h⟩ := bind_eq_ok.1 h
  cases h
  have hnode : annotateNode d.functions d.schema c.node = .ok q := by
    rw [annotateNode_of_ne hhole]
    cases hr : resolveNode d.functions d.schema c.node <;> rw [hr] at hq <;> cases hq
    rfl
  exact ⟨hnode, by simp [visited, behind, replace, (annotateNode_eq_ok hnode).1]⟩

theorem leaves_resolverRule : Leaves P (d.resolverRule : Rule (Except Error)) := by
  intro c c' hc happlies h
  rwa [(of_resolverRule happlies h).2]

theorem leaves_of_mem_rules (hd : ∀ a ∈ d.adapters, a.AsksForVisits) {r : Rule (Except Error)}
    (hr : r ∈ d.rules) : Leaves P r := by
  simp only [List.mem_cons, List.not_mem_nil, or_false] at hr
  rcases hr with rfl | rfl | rfl
  · exact leaves_viewRule
  · exact leaves_adapterRule hd
  · exact leaves_resolverRule

/-- What the rules of a walk and its steps forward keep holds when it ends, which is at the root. A
rule may ask for a visit, so it has to leave things as they are before the first rule. -/
theorem run_invariant {I : List (Rule (Except Error)) → Cursor → Prop}
    {rules : List (Rule (Except Error))}
    (hnext : ∀ c c', I [] c → c.next = .ok (some c') → I rules c')
    (hskip : ∀ r pending c, r :: pending <:+ rules → I (r :: pending) c → ¬ r.applies c →
      I pending c)
    (happly : ∀ r pending c c', r :: pending <:+ rules → I (r :: pending) c → r.applies c →
      r.transform c = .ok c' → I rules { c' with repositioned := false } ∧ I pending c')
    {fuel : Nat} {pending : List (Rule (Except Error))} (hpending : pending <:+ rules)
    {c c' : Cursor} (hc : I pending c) (h : run rules fuel pending c = .ok (some c')) :
    I [] c' ∧ c'.path = [] := by
  induction fuel generalizing c pending with
  | zero => cases h
  | succ fuel ih =>
      cases pending with
      | nil =>
          obtain ⟨hmove, rfl⟩ | ⟨c₁, hmove, h⟩ := of_run_nil h
          · exact ⟨hc, path_of_next hmove⟩
          · exact ih (List.suffix_refl _) (hnext c c₁ hc hmove) h
      | cons r pending =>
          have hrest : pending <:+ rules := (List.suffix_cons r pending).trans hpending
          obtain ⟨happlies, h⟩ | ⟨happlies, c₁, hc₁, h⟩ := of_run_cons h
          · exact ih hrest (hskip r pending c hpending hc (by simp [happlies])) h
          · obtain ⟨hvisit, hkept⟩ := happly r pending c c₁ hpending hc happlies hc₁
            split at h
            · exact ih (List.suffix_refl _) hvisit h
            · exact ih hrest hkept h

variable (hP : ∀ p q, (∀ c ∈ p.children, P c) → annotateNode d.functions d.schema p = .ok q → P q)

include hP

theorem of_last_rule {r : Rule (Except Error)} (hr : [r] <:+ d.rules) {c : Cursor}
    (hc : ∀ p ∈ c.visited, P p) :
    (¬ r.applies c → P c.node) ∧ ∀ c', r.applies c → r.transform c = .ok c' → P c'.node := by
  obtain rfl : r = d.resolverRule := by
    simpa [List.suffix_cons_iff] using hr
  have hchildren : ∀ p ∈ c.node.children, P p := fun p hp => hc p (List.mem_append_left _ hp)
  refine ⟨fun happlies => ?_, fun c' happlies h => hP _ _ hchildren (of_resolverRule happlies h).1⟩
  have hhole : c.node = .placeholder := by
    cases hnode : c.node <;> first | rfl | simp [resolverRule, Typing.rule, hnode] at happlies
  exact hP c.node c.node hchildren (by rw [hhole]; rfl)

theorem of_run (hd : ∀ a ∈ d.adapters, a.AsksForVisits) {fuel : Nat} {c c' : Cursor}
    {pending : List (Rule (Except Error))} (hpending : pending <:+ d.rules)
    (hc : ∀ p ∈ c.visited, P p) (hnode : pending = [] → P c.node)
    (h : run d.rules fuel pending c = .ok (some c')) : P c'.node ∧ c'.path = [] := by
  let I (pending : List (Rule (Except Error))) (c : Cursor) : Prop :=
    (∀ p ∈ c.visited, P p) ∧ (pending = [] → P c.node)
  have hrun : I [] c' ∧ c'.path = [] := by
    refine run_invariant (I := I) ?_ ?_ ?_ hpending ⟨hc, hnode⟩ h
    · refine fun c c₁ hI hnext => ⟨fun p hp => ?_, by simp⟩
      rcases of_next hnext p hp with rfl | hp
      · exact hI.2 rfl
      · exact hI.1 p (List.mem_append_right _ hp)
    · intro r pending c hr hI happlies
      exact ⟨hI.1, fun hnil => (of_last_rule hP (hnil ▸ hr) hI.1).1 happlies⟩
    · intro r pending c c₁ hr hI happlies hc₁
      have hleaves : Leaves P r := leaves_of_mem_rules hd (hr.subset List.mem_cons_self)
      have hvisited := hleaves c c₁ hI.1 happlies hc₁
      exact ⟨⟨hvisited, by simp⟩, hvisited, fun hnil =>
        (of_last_rule hP (hnil ▸ hr) hI.1).2 c₁ happlies hc₁⟩
  exact ⟨hrun.1.2 rfl, hrun.2⟩

/-- What the rules establish for a node from its children holds for the resolved plan. -/
theorem of_resolveIn (hd : ∀ a ∈ d.adapters, a.AsksForVisits) {steps : Nat} {p q : Plan}
    (h : d.resolveIn steps p = .ok q) : P q := by
  obtain ⟨final, hrun, h⟩ := bind_eq_ok.1 h
  cases final with
  | none => cases h
  | some c =>
      have hstart : ∀ p' ∈ (ofPlan p).descendLeftmost.visited, P p' := by
        simp [visited_descendLeftmost, behind, ofPlan]
      obtain ⟨hc, hpath⟩ := of_run hP hd (List.suffix_refl _) hstart (by simp) hrun
      have hroot : c.toPlan = .ok c.node := by rw [toPlan, hpath, rebuildAll]
      dsimp only at h
      rw [hroot] at h
      cases h
      exact hc

end Dataset

end QueryEngine
