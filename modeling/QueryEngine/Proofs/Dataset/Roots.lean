import QueryEngine.Proofs.Resolution.Termination

namespace QueryEngine

namespace Plan

theorem kind_ne_of_ne {p : Plan} (h : p ≠ .placeholder) : p.kind ≠ "Placeholder" := by
  cases p <;> first | exact absurd rfl h | simp [kind]

end Plan

open Plan

namespace Cursor

/-- The outermost node around the focus. It has holes where children have been taken out. -/
def root (c : Cursor) : Plan :=
  (c.path.getLast?.map (·.parent)).getD c.node

def Rooted (c : Cursor) : Prop :=
  c.root.kind ≠ "Placeholder"

variable {c c' : Cursor}

theorem kind_root_of_down {i : Nat} (h : c.down i = some c') : c'.root.kind = c.root.kind := by
  rw [root, root, (of_down h).2, List.getLast?_cons]
  cases c.path.getLast? with
  | none => exact kind_refill _ _
  | some f => rfl

theorem root_of_right (h : c.right = some c') : c'.root = c.root := by
  obtain ⟨f, path, node, after, hpath, -, rfl⟩ := of_right h
  rw [root, root, hpath, List.getLast?_cons, List.getLast?_cons]
  cases path.getLast? <;> rfl

theorem kind_root_of_up (h : c.up = .ok (some c')) : c'.root.kind = c.root.kind := by
  obtain ⟨f, path, hpath, rfl, -⟩ := of_up h
  rw [root, root, hpath, List.getLast?_cons]
  cases path.getLast? with
  | none => exact kind_refill _ _
  | some g => rfl

theorem kind_root_downFirst (n : Nat) (c : Cursor) : (downFirst n c).root.kind = c.root.kind :=
  downFirst_induction (P := fun c' => c'.root.kind = c.root.kind)
    (fun _ _ hc h => (kind_root_of_down h).trans hc) rfl n

theorem kind_root_of_next (h : c.next = .ok (some c')) : c'.root.kind = c.root.kind := by
  unfold next at h
  split at h
  · next c₁ hright =>
      cases h
      exact (kind_root_downFirst _ _).trans (congrArg kind (root_of_right hright))
  · exact kind_root_of_up h

theorem Rooted.replace (h : c.Rooted) {p : Plan} (hp : p.kind ≠ "Placeholder") :
    (c.replace p).Rooted := by
  obtain ⟨node, path, r⟩ := c
  unfold Rooted root at h ⊢
  cases hlast : path.getLast? with
  | none => simpa [Cursor.replace, hlast] using hp
  | some f => simpa [Cursor.replace, hlast] using h

theorem Rooted.leftmostDescendant (h : c.Rooted) : c.leftmostDescendant.Rooted := by
  have hroot : c.leftmostDescendant.root.kind = c.root.kind := kind_root_downFirst _ _
  rwa [Rooted, hroot]

/-- A climb may remove the selection at the root, which leaves the node that it came from there. -/
theorem Rooted.climb {n : Nat} {keys : KeyFields} {k k' : Climb} (hroot : k.cursor.Rooted)
    (hnode : k.cursor.node.kind ≠ "Placeholder") (h : climb n keys k = .ok k') :
    k'.cursor.Rooted := by
  have hup {c c' : Cursor} (hc : c.Rooted) (h : c.up = .ok (some c')) : c'.Rooted := by
    rwa [Rooted, kind_root_of_up h]
  suffices k'.cursor.Rooted ∧ k'.cursor.node.kind ≠ "Placeholder" from this.1
  refine climb_invariant
    (I := fun k => k.cursor.Rooted ∧ k.cursor.node.kind ≠ "Placeholder") ?_ ?_ ?_ ⟨hroot, hnode⟩ h
  · rintro k c input p taken ⟨hk, -⟩ hc - hp
    have hkind : p.kind ≠ "Placeholder" := kind_ne_of_ne (by rintro rfl; cases hp)
    exact ⟨(hup hk hc).replace hkind, hkind⟩
  · rintro k c input taken ⟨hk, hkind⟩ hc hinput
    obtain rfl := (of_up_single (w := 0) hc hinput).1
    exact ⟨(hup hk hc).replace hkind, hkind⟩
  · rintro k c position ⟨hk, hkind⟩ hc hposition
    refine ⟨?_, by rwa [(up_down (w := 0) hc hposition).1]⟩
    dsimp only
    cases hdown : c.down position with
    | none => exact hup hk hc
    | some c' =>
        rw [Option.getD_some, Rooted, kind_root_of_down hdown]
        exact hup hk hc

theorem Rooted.pushKeyPredicates (hroot : c.Rooted) (hnode : c.node.kind ≠ "Placeholder")
    {keys : KeyFields} (h : c.pushKeyPredicates keys = .ok c') : c'.Rooted := by
  obtain ⟨k, hk, h⟩ := bind_eq_ok.1 h
  have hdown : (downFirst k.levels k.cursor).Rooted := by
    rw [Rooted, kind_root_downFirst]
    exact Rooted.climb hroot hnode hk
  split at h
  · cases h
    exact hdown.replace (by simp [kind])
  · cases h
    exact hdown

end Cursor

open Cursor

def Adapter.KeepsRooted (a : Adapter) : Prop :=
  ∀ c c', a.evaluate c = .ok c' → c.Rooted → c'.Rooted

theorem MemoryStore.keepsRooted_adapter (m : MemoryStore) : m.adapter.KeepsRooted := by
  rintro c c' ⟨⟩ hc
  exact hc

theorem Document.keepsRooted_adapter : adapter.KeepsRooted := by
  intro c c' h hc
  obtain ⟨pushed, hpushed, h⟩ := bind_eq_ok.1 h
  cases h
  have hkeys : (c.replace (.tableFunction keysFunction [] none)).Rooted := hc.replace (by simp [kind])
  have hdecode := hkeys.pushKeyPredicates (by simp [replace, kind]) hpushed
  exact (hdecode.replace (by simp [kind])).leftmostDescendant

namespace Dataset

open Walk Typing

variable {d : Dataset}

theorem rooted_viewRule (hviews : ∀ name v, d.view? name = some v → v ≠ .placeholder)
    {c c' : Cursor} (hc : c.Rooted) (happlies : (d.viewRule : Rule (Except Error)).applies c)
    (h : (d.viewRule : Rule (Except Error)).transform c = .ok c') : c'.Rooted := by
  obtain ⟨name, v, -, hv, rfl⟩ := of_viewRule happlies h
  exact (hc.replace (kind_ne_of_ne (hviews name v hv))).leftmostDescendant

theorem rooted_adapterRule (hd : ∀ a ∈ d.adapters, a.KeepsRooted) {c c' : Cursor} (hc : c.Rooted)
    (happlies : (d.adapterRule : Rule (Except Error)).applies c)
    (h : (d.adapterRule : Rule (Except Error)).transform c = .ok c') : c'.Rooted := by
  obtain ⟨_, -, a, ha, h⟩ := of_adapterRule happlies h
  exact hd a ha c c' h hc

theorem rooted_resolverRule {c c' : Cursor} (hc : c.Rooted)
    (happlies : (d.resolverRule : Rule (Except Error)).applies c)
    (h : (d.resolverRule : Rule (Except Error)).transform c = .ok c') : c'.Rooted := by
  have hhole : c.node ≠ .placeholder := by
    intro hhole
    simp [resolverRule, Typing.rule, hhole] at happlies
  have hkind := kind_of_annotateNode (of_resolverRule happlies h).1
  obtain ⟨q, -, h⟩ := bind_eq_ok.1 h
  cases h
  exact hc.replace (hkind.trans_ne (kind_ne_of_ne hhole))

theorem rooted_of_mem_rules (hd : ∀ a ∈ d.adapters, a.KeepsRooted)
    (hviews : ∀ name v, d.view? name = some v → v ≠ .placeholder) {r : Rule (Except Error)}
    (hr : r ∈ d.rules) {c c' : Cursor} (hc : c.Rooted) (happlies : r.applies c)
    (h : r.transform c = .ok c') : c'.Rooted := by
  simp only [List.mem_cons, List.not_mem_nil, or_false] at hr
  rcases hr with rfl | rfl | rfl
  · exact rooted_viewRule hviews hc happlies h
  · exact rooted_adapterRule hd hc happlies h
  · exact rooted_resolverRule hc happlies h

/-- What is at the root stays there, or something else does that is no hole. -/
theorem ne_placeholder_of_resolveIn (hd : ∀ a ∈ d.adapters, a.KeepsRooted)
    (hviews : ∀ name v, d.view? name = some v → v ≠ .placeholder) {steps : Nat} {p q : Plan}
    (hp : p ≠ .placeholder) (h : d.resolveIn steps p = .ok q) : q ≠ .placeholder := by
  have hstart : (ofPlan p).descendLeftmost.Rooted := by
    rw [Rooted, descendLeftmost, kind_root_downFirst]
    exact kind_ne_of_ne hp
  obtain ⟨final, hrun, h⟩ := bind_eq_ok.1 h
  cases final with
  | none => cases h
  | some c =>
      obtain ⟨hc, hpath⟩ := run_invariant (I := fun _ c => c.Rooted)
        (fun c c' hc hnext => by rwa [Rooted, kind_root_of_next hnext])
        (fun _ _ _ _ hc _ => hc)
        (fun r _ c c' hr hc happlies htransform =>
          have hkept :=
            rooted_of_mem_rules hd hviews (hr.subset List.mem_cons_self) hc happlies htransform
          ⟨hkept, hkept⟩)
        (List.suffix_refl _) hstart hrun
      have hplan : c.toPlan = .ok c.node := by rw [toPlan, hpath, rebuildAll]
      have hroot : c.root = c.node := by rw [root, hpath]; rfl
      dsimp only at h
      rw [hplan] at h
      cases h
      rintro hhole
      rw [Rooted, hroot, hhole] at hc
      exact hc rfl

end Dataset

end QueryEngine
