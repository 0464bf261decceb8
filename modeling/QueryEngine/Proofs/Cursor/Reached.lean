import QueryEngine.Proofs.Cursor.Moves

namespace QueryEngine

namespace Place

theorem travel_append (s : Place) (moves : List Move) (m : Move) :
    (s.travel (moves ++ [m])).2 = ((s.travel moves).2.move m).getD (s.travel moves).2 := by
  induction moves generalizing s with
  | nil => rfl
  | cons m' moves ih => exact ih _

theorem exists_travel {whole node : Plan} {path : List Nat}
    (h : (⟨whole, path⟩ : Place).focus? = some node) :
    ∃ moves, (travel ⟨whole, []⟩ moves).2 = ⟨whole, path⟩ := by
  induction path generalizing node with
  | nil => exact ⟨[], rfl⟩
  | cons i path ih =>
      have hparent := h
      rw [focus?, List.reverse_cons, Plan.at?_append] at hparent
      obtain ⟨parent, hparent, -⟩ := Option.bind_eq_some_iff.1 hparent
      obtain ⟨moves, hmoves⟩ := ih hparent
      refine ⟨moves ++ [.down i], ?_⟩
      rw [travel_append, hmoves]
      simp [move, existing, h]

end Place

namespace Cursor

def Hollow (c : Cursor) : Prop :=
  ∀ f ∈ c.path, f.parent.shell = f.parent

variable {c c' : Cursor}

theorem Hollow.down (h : c.Hollow) {i : Nat} (hc' : c.down i = some c') : c'.Hollow := by
  rw [Hollow, (of_down hc').2, List.forall_mem_cons]
  exact ⟨Plan.shell_shell _, h⟩

theorem Hollow.right (h : c.Hollow) (hc' : c.right = some c') : c'.Hollow := by
  obtain ⟨f, path, node, after, hpath, -, rfl⟩ := of_right hc'
  rw [Hollow, hpath] at h
  simpa [Hollow] using h

theorem Hollow.up (h : c.Hollow) (hc' : c.up = .ok (some c')) : c'.Hollow := by
  obtain ⟨f, path, hpath, rfl, -⟩ := of_up hc'
  rw [Hollow, hpath, List.forall_mem_cons] at h
  exact h.2

theorem Hollow.downFirst (h : c.Hollow) (n : Nat) : (downFirst n c).Hollow := by
  exact downFirst_induction (fun _ _ hc hdown => hc.down hdown) h n

theorem Hollow.next (h : c.Hollow) (hc' : c.next = .ok (some c')) : c'.Hollow := by
  rw [Cursor.next] at hc'
  cases hright : c.right with
  | none =>
      rw [hright] at hc'
      exact h.up hc'
  | some c₁ =>
      rw [hright] at hc'
      cases hc'
      exact (h.right hright).downFirst _

theorem Hollow.move (h : c.Hollow) {m : Move} {moved : Bool} (hc' : c.move m = .ok (moved, c')) :
    c'.Hollow := by
  have hanswer {o : Option Cursor} (ho : ∀ c₁ ∈ o, c₁.Hollow) (hc' : c.answer o = (moved, c')) :
      c'.Hollow := by
    cases o with
    | none =>
        cases hc'
        exact h
    | some c₁ =>
        cases hc'
        exact ho c' rfl
  cases m with
  | down i => exact hanswer (fun _ hc₁ => h.down hc₁) (Except.ok.inj hc')
  | up =>
      obtain ⟨o, ho, hc'⟩ := map_eq_ok.1 hc'
      exact hanswer (fun _ hc₁ => h.up (ho.trans (congrArg _ hc₁))) hc'
  | right => exact hanswer (fun _ hc₁ => h.right hc₁) (Except.ok.inj hc')
  | next =>
      obtain ⟨o, ho, hc'⟩ := map_eq_ok.1 hc'
      exact hanswer (fun _ hc₁ => h.next (ho.trans (congrArg _ hc₁))) hc'
  | leftmost =>
      cases hc'
      exact h.downFirst _
  | replace p =>
      cases hc'
      exact h

theorem Hollow.travel (h : c.Hollow) {moves : List Move} {answers : List Bool}
    (hc' : c.travel moves = .ok (answers, c')) : c'.Hollow := by
  induction moves generalizing c answers with
  | nil =>
      cases hc'
      exact h
  | cons m moves ih =>
      obtain ⟨⟨moved, c₁⟩, hmove, hc'⟩ := bind_eq_ok.1 hc'
      obtain ⟨⟨answers, c₂⟩, hmoves, hc'⟩ := bind_eq_ok.1 hc'
      cases hc'
      exact ih (h.move hmove) hmoves

end Cursor

end QueryEngine
