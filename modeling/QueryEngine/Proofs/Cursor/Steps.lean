import QueryEngine.Plan.Cursor
import QueryEngine.Plan.Lemmas
import QueryEngine.Proofs.Except

namespace QueryEngine.Cursor

theorem of_down {c c' : Cursor} {i : Nat} (h : c.down i = some c') :
    c.node.children[i]? = some c'.node ∧ c'.path = ⟨c.node.shell,
      (c.node.children.take i).reverse, c.node.children.drop (i + 1)⟩ :: c.path := by
  unfold down at h
  dsimp only at h
  split at h
  · next node hnode =>
      cases h
      exact ⟨hnode, rfl⟩
  · cases h

theorem of_down_eq_none {c : Cursor} {i : Nat} (h : c.down i = none) :
    c.node.children[i]? = none := by
  unfold down at h
  dsimp only at h
  split at h
  · cases h
  · assumption

theorem of_right {c c' : Cursor} (h : c.right = some c') : ∃ f path node after,
    c.path = f :: path ∧ f.after = node :: after ∧
      c' = ⟨node, ⟨f.parent, c.node :: f.before, after⟩ :: path, c.repositioned⟩ := by
  unfold right at h
  split at h
  · next parent before node after path hpath =>
      cases h
      exact ⟨⟨parent, before, node :: after⟩, path, node, after, hpath, rfl, rfl⟩
  · cases h

theorem of_right_eq_none {c : Cursor} (h : c.right = none) {f : Frame} {path : List Frame}
    (hpath : c.path = f :: path) : f.after = [] := by
  cases hafter : f.after with
  | nil => rfl
  | cons node after =>
      have hframe : f = ⟨f.parent, f.before, node :: after⟩ := by rw [← hafter]
      rw [right, hpath, hframe] at h
      cases h

theorem of_up {c c' : Cursor} (h : c.up = .ok (some c')) : ∃ f path, c.path = f :: path ∧
    c' = ⟨f.parent.refill (f.before.reverse ++ c.node :: f.after), path, c.repositioned⟩ ∧
      (f.before.reverse ++ c.node :: f.after).length = f.parent.children.length := by
  unfold up at h
  split at h
  · cases h
  · next f path hpath =>
      obtain ⟨node, hnode, h⟩ := bind_eq_ok.1 h
      cases h
      unfold Frame.rebuild Plan.withChildren at hnode
      split at hnode <;> cases hnode
      exact ⟨f, path, hpath, rfl, ‹_›⟩

theorem of_up_eq_none {c : Cursor} (h : c.up = .ok none) : c.path = [] := by
  unfold up at h
  split at h
  · assumption
  · obtain ⟨_, -, h⟩ := bind_eq_ok.1 h
    cases h

theorem downFirst_induction {P : Cursor → Prop}
    (hdown : ∀ c c', P c → c.down 0 = some c' → P c') {c : Cursor} (h : P c) (n : Nat) :
    P (downFirst n c) := by
  induction n generalizing c with
  | zero => exact h
  | succ n ih =>
      rw [downFirst]
      cases hc : c.down 0 with
      | none => exact h
      | some c' => exact ih (hdown c c' h hc)

theorem downFirst_eq (n : Nat) (c : Cursor) (h : c.node.size ≤ n) :
    downFirst n c = c.descendLeftmost := by
  obtain ⟨p, path, r⟩ := c
  induction p using Plan.inductionOnChildren generalizing n path with
  | h p ih =>
      cases hc : p.children with
      | nil =>
          have hdown : (⟨p, path, r⟩ : Cursor).down 0 = none := by simp [down, hc]
          have hstay (m : Nat) : downFirst m ⟨p, path, r⟩ = ⟨p, path, r⟩ := by
            cases m <;> simp [downFirst, hdown]
          rw [descendLeftmost, hstay, hstay]
      | cons c cs =>
          have hdown : (⟨p, path, r⟩ : Cursor).down 0 = some ⟨c, ⟨p.shell, [], cs⟩ :: path, r⟩ := by
            simp [down, hc]
          have hsize : p.size = c.size + (cs.map Plan.size).sum + 1 := by
            simp [Plan.size_eq p, hc]
          obtain ⟨n, rfl⟩ : ∃ m, n = m + 1 := ⟨n - 1, by dsimp only at h; omega⟩
          have hmem : c ∈ p.children := by simp [hc]
          rw [descendLeftmost]
          dsimp only at h ⊢
          rw [hsize, downFirst, downFirst, hdown]
          dsimp only
          rw [ih c hmem _ _ (by dsimp only; omega), ih c hmem _ _ (by dsimp only; omega)]

theorem descendLeftmost_leaf {p : Plan} (h : p.children = []) (path : List Frame) (r : Bool) :
    (⟨p, path, r⟩ : Cursor).descendLeftmost = ⟨p, path, r⟩ := by
  have hdown : (⟨p, path, r⟩ : Cursor).down 0 = none := by simp [down, h]
  rw [descendLeftmost]
  cases (⟨p, path, r⟩ : Cursor).node.size <;> simp [downFirst, hdown]

theorem descendLeftmost_node {p c : Plan} {cs : List Plan} (h : p.children = c :: cs)
    (path : List Frame) (r : Bool) :
    (⟨p, path, r⟩ : Cursor).descendLeftmost =
      (⟨c, ⟨p.shell, [], cs⟩ :: path, r⟩ : Cursor).descendLeftmost := by
  have hdown : (⟨p, path, r⟩ : Cursor).down 0 = some ⟨c, ⟨p.shell, [], cs⟩ :: path, r⟩ := by
    simp [down, h]
  have hsize : p.size = c.size + (cs.map Plan.size).sum + 1 := by
    simp [Plan.size_eq p, h]
  rw [descendLeftmost]
  dsimp only
  rw [hsize, downFirst, hdown]
  exact downFirst_eq _ _ (by dsimp only; omega)

theorem downFirst_repositioned (n : Nat) (c : Cursor) :
    (downFirst n c).repositioned = c.repositioned := by
  refine downFirst_induction (P := fun c' => c'.repositioned = c.repositioned) ?_ rfl n
  intro c₁ c₂ hc₁ h
  unfold down at h
  dsimp only at h
  split at h <;> cases h
  exact hc₁

theorem leftmostDescendant_visit (p : Plan) (path : List Frame) :
    { (⟨p, path, false⟩ : Cursor).leftmostDescendant with repositioned := false } =
      (⟨p, path, false⟩ : Cursor).descendLeftmost := by
  have h := downFirst_repositioned p.size ⟨p, path, false⟩
  rw [leftmostDescendant, descendLeftmost]
  cases hc : downFirst p.size ⟨p, path, false⟩
  simp_all

end QueryEngine.Cursor
