import QueryEngine.Plan.Cursor
import QueryEngine.Plan.Lemmas
import QueryEngine.Proofs.Except

namespace QueryEngine

namespace Plan

def at? : Plan → List Nat → Option Plan
  | p, [] => some p
  | p, i :: path => p.children[i]?.bind fun c => c.at? path

def replaceAt : Plan → List Nat → Plan → Plan
  | _, [], q => q
  | p, i :: path, q => p.refill (p.children.modify i fun c => c.replaceAt path q)

theorem at?_append (p : Plan) (path path' : List Nat) :
    p.at? (path ++ path') = (p.at? path).bind fun q => q.at? path' := by
  induction path generalizing p with
  | nil => rfl
  | cons i path ih =>
      simp only [List.cons_append, at?]
      cases p.children[i]? with
      | none => rfl
      | some c => exact ih c

end Plan

namespace Frame

def Fits (f : Frame) : Prop :=
  f.parent.children.length = f.before.length + 1 + f.after.length

def fill (f : Frame) (p : Plan) : Plan :=
  f.parent.refill (f.before.reverse ++ p :: f.after)

variable {f : Frame}

theorem Fits.length_eq (h : f.Fits) (p : Plan) :
    (f.before.reverse ++ p :: f.after).length = f.parent.children.length := by
  rw [h, List.length_append, List.length_reverse, List.length_cons]
  omega

theorem Fits.rebuild_eq (h : f.Fits) (p : Plan) : f.rebuild p = .ok (f.fill p) := by
  rw [rebuild, Plan.withChildren, if_pos (h.length_eq p), fill]

theorem Fits.children_fill (h : f.Fits) (p : Plan) :
    (f.fill p).children = f.before.reverse ++ p :: f.after :=
  Plan.children_refill _ _ (h.length_eq p)

theorem Fits.at?_fill (h : f.Fits) (p : Plan) (path : List Nat) :
    (f.fill p).at? (f.before.length :: path) = p.at? path := by
  have hchild : (f.before.reverse ++ p :: f.after)[f.before.length]? = some p := by
    rw [← List.length_reverse, List.getElem?_append_right (Nat.le_refl _), Nat.sub_self]
    rfl
  rw [Plan.at?, h.children_fill, hchild, Option.bind_some]

theorem modify_entered {α : Type} (before after : List α) (a : α) (g : α → α) :
    (before ++ a :: after).modify before.length g = before ++ g a :: after := by
  induction before with
  | nil => rfl
  | cons b before ih => simpa using ih

theorem Fits.replaceAt_fill (h : f.Fits) (p q : Plan) (path : List Nat) :
    (f.fill p).replaceAt (f.before.length :: path) q = f.fill (p.replaceAt path q) := by
  rw [Plan.replaceAt, h.children_fill, ← List.length_reverse, modify_entered, fill,
    Plan.refill_refill _ _ _ (by simp), fill]

theorem fits_entered {p : Plan} {i : Nat} (hi : i < p.children.length) :
    Fits ⟨p.shell, (p.children.take i).reverse, p.children.drop (i + 1)⟩ := by
  have hshell : p.shell.children.length = p.children.length := by
    rw [Plan.shell, Plan.children_refill _ _ (by simp), List.length_map]
  simp only [Fits, hshell, List.length_reverse, List.length_take, List.length_drop]
  omega

theorem fill_entered {p c : Plan} {i : Nat} (hc : p.children[i]? = some c) :
    fill ⟨p.shell, (p.children.take i).reverse, p.children.drop (i + 1)⟩ c = p := by
  obtain ⟨hi, rfl⟩ := List.getElem?_eq_some_iff.1 hc
  rw [fill, List.reverse_reverse, ← List.drop_eq_getElem_cons hi, List.take_append_drop,
    Plan.shell, Plan.refill_refill _ _ _ (by simp), Plan.refill_children]

end Frame

namespace Cursor

def whole (c : Cursor) : Plan :=
  c.path.foldl (fun p f => f.fill p) c.node

/-- The positions of the focus and of the nodes above it among their siblings, from the focus up. -/
def positions (c : Cursor) : List Nat :=
  c.path.map (·.before.length)

def Fits (c : Cursor) : Prop :=
  ∀ f ∈ c.path, f.Fits

variable {c : Cursor}

theorem depth_eq (c : Cursor) : c.depth = c.positions.length := by
  simp [depth, positions]

theorem position?_eq (c : Cursor) : c.position? = c.positions.head? := by
  simp [position?, positions]

theorem Fits.rebuildAll_eq {path : List Frame} (h : ∀ f ∈ path, f.Fits) (p : Plan) :
    rebuildAll path p = .ok (path.foldl (fun p f => f.fill p) p) := by
  induction path generalizing p with
  | nil => rfl
  | cons f path ih =>
      rw [rebuildAll, (h f List.mem_cons_self).rebuild_eq, ok_bind,
        ih fun g hg => h g (List.mem_cons_of_mem _ hg), List.foldl_cons]

theorem Fits.toPlan_eq (h : c.Fits) : c.toPlan = .ok c.whole :=
  Fits.rebuildAll_eq h c.node

theorem Fits.of_cons {f : Frame} {p : Plan} {path : List Frame} {r : Bool}
    (h : Fits ⟨p, f :: path, r⟩) : f.Fits ∧ Fits ⟨f.fill p, path, r⟩ :=
  ⟨h f List.mem_cons_self, fun g hg => h g (List.mem_cons_of_mem _ hg)⟩

theorem Fits.at?_whole (h : c.Fits) (rest : List Nat) :
    c.whole.at? (c.positions.reverse ++ rest) = c.node.at? rest := by
  obtain ⟨p, path, r⟩ := c
  induction path generalizing p rest with
  | nil => rfl
  | cons f path ih =>
      obtain ⟨hf, hpath⟩ := h.of_cons
      have ih := ih (f.before.length :: rest) (f.fill p) hpath
      simp only [positions, List.map_cons, List.reverse_cons, List.append_assoc] at ih ⊢
      exact ih.trans (hf.at?_fill p rest)

theorem Fits.whole_replace (h : c.Fits) (q : Plan) :
    (c.replace q).whole = c.whole.replaceAt c.positions.reverse q := by
  have hbelow : ∀ rest, (c.replace (c.node.replaceAt rest q)).whole =
      c.whole.replaceAt (c.positions.reverse ++ rest) q := by
    obtain ⟨p, path, r⟩ := c
    induction path generalizing p with
    | nil => exact fun rest => rfl
    | cons f path ih =>
        intro rest
        obtain ⟨hf, hpath⟩ := h.of_cons
        have ih := ih (f.fill p) hpath (f.before.length :: rest)
        rw [hf.replaceAt_fill] at ih
        simp only [positions, List.map_cons, List.reverse_cons, List.append_assoc] at ih ⊢
        exact ih
  simpa [Plan.replaceAt] using hbelow []

end Cursor

end QueryEngine
