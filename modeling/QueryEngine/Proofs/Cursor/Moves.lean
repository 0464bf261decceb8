import QueryEngine.Proofs.Cursor.Paths
import QueryEngine.Proofs.Cursor.Steps

namespace QueryEngine

namespace Plan

def leftDepth (p : Plan) : Nat :=
  match h : p.children with
  | [] => 0
  | c :: _ => c.leftDepth + 1
termination_by p.size
decreasing_by exact size_lt_of_mem_children (h ▸ List.mem_cons_self)

theorem leftDepth_leaf {p : Plan} (h : p.children = []) : p.leftDepth = 0 := by
  rw [leftDepth]
  split
  · rfl
  · next hc => cases h.symm.trans hc

theorem leftDepth_node {p c : Plan} {cs : List Plan} (h : p.children = c :: cs) :
    p.leftDepth = c.leftDepth + 1 := by
  rw [leftDepth]
  split
  · next hc => cases h.symm.trans hc
  · next hc =>
      obtain ⟨rfl, -⟩ := List.cons.inj (h.symm.trans hc)
      rfl

end Plan

inductive Move where
  | down (i : Nat)
  | up
  | right
  | next
  | leftmost
  | replace (p : Plan)

/-- A place in a whole plan, by the positions on the path to it, from the place up. -/
structure Place where
  whole : Plan
  path : List Nat

namespace Place

def focus? (s : Place) : Option Plan :=
  s.whole.at? s.path.reverse

def existing (s : Place) : Option Place :=
  if s.focus?.isSome then some s else none

def up (s : Place) : Option Place :=
  match s.path with
  | [] => none
  | _ :: path => some { s with path }

def right (s : Place) : Option Place :=
  match s.path with
  | [] => none
  | i :: path => existing { s with path := (i + 1) :: path }

def leftmost (s : Place) : Place :=
  match s.focus? with
  | some p => { s with path := List.replicate p.leftDepth 0 ++ s.path }
  | none => s

/-- Where a move leads to, if that exists in the whole plan. In post-order, the leftmost leaf below
the next sibling comes next, and the parent after the last sibling. -/
def move (s : Place) : Move → Option Place
  | .down i => existing { s with path := i :: s.path }
  | .up => s.up
  | .right => s.right
  | .next =>
    match s.right with
    | some s' => some s'.leftmost
    | none => s.up
  | .leftmost => some s.leftmost
  | .replace p => some { s with whole := s.whole.replaceAt s.path.reverse p }

def travel (s : Place) : List Move → List Bool × Place
  | [] => ([], s)
  | m :: moves =>
    let (answers, last) := travel ((s.move m).getD s) moves
    ((s.move m).isSome :: answers, last)

/-- The replacements among the moves, each with the path from the root at which it is made. -/
def replacements (s : Place) : List Move → List (List Nat × Plan)
  | [] => []
  | m :: moves =>
    let rest := replacements ((s.move m).getD s) moves
    match m with
    | .replace p => (s.path.reverse, p) :: rest
    | _ => rest

theorem whole_existing {s s' : Place} (h : s.existing = some s') : s'.whole = s.whole := by
  unfold existing at h
  split at h <;> cases h
  rfl

theorem whole_up {s s' : Place} (h : s.up = some s') : s'.whole = s.whole := by
  unfold up at h
  split at h <;> cases h
  rfl

theorem whole_right {s s' : Place} (h : s.right = some s') : s'.whole = s.whole := by
  unfold right at h
  split at h
  · cases h
  · next i path _ => exact whole_existing (s := { s with path := (i + 1) :: path }) h

theorem whole_leftmost (s : Place) : s.leftmost.whole = s.whole := by
  unfold leftmost
  split <;> rfl

theorem whole_move {s s' : Place} {m : Move} (hm : ∀ p, m ≠ .replace p) (h : s.move m = some s') :
    s'.whole = s.whole := by
  cases m with
  | down i => exact whole_existing (s := { s with path := i :: s.path }) h
  | up => exact whole_up h
  | right => exact whole_right h
  | next =>
      unfold move at h
      dsimp only at h
      split at h
      · next s₁ hright =>
          cases h
          rw [whole_leftmost, whole_right hright]
      · exact whole_up h
  | leftmost =>
      cases h
      exact whole_leftmost s
  | replace p => exact absurd rfl (hm p)

theorem whole_travel (s : Place) (moves : List Move) :
    (travel s moves).2.whole =
      (replacements s moves).foldl (fun p r => p.replaceAt r.1 r.2) s.whole := by
  induction moves generalizing s with
  | nil => rfl
  | cons m moves ih =>
      rw [travel, ih]
      by_cases hm : ∃ p, m = .replace p
      · obtain ⟨p, rfl⟩ := hm
        rfl
      · have hm : ∀ p, m ≠ .replace p := fun p h => hm ⟨p, h⟩
        have hwhole : ((s.move m).getD s).whole = s.whole := by
          cases h : s.move m with
          | none => rfl
          | some s' => exact whole_move hm h
        rw [hwhole]
        cases m with
        | replace p => exact absurd rfl (hm p)
        | _ => rfl

end Place

namespace Cursor

def answer (c : Cursor) : Option Cursor → Bool × Cursor
  | some c' => (true, c')
  | none => (false, c)

def move (c : Cursor) : Move → Except Error (Bool × Cursor)
  | .down i => .ok (c.answer (c.down i))
  | .up => c.up.map c.answer
  | .right => .ok (c.answer c.right)
  | .next => c.next.map c.answer
  | .leftmost => .ok (true, c.leftmostDescendant)
  | .replace p => .ok (true, c.replace p)

def travel (c : Cursor) : List Move → Except Error (List Bool × Cursor)
  | [] => .ok ([], c)
  | m :: moves => do
    let (moved, c) ← c.move m
    let (answers, c) ← c.travel moves
    return (moved :: answers, c)

def place (c : Cursor) : Place :=
  ⟨c.whole, c.positions⟩

/-- The cursor that a move gives, if any, stands where the move leads to. -/
structure Follows (s : Option Place) (c : Option Cursor) : Prop where
  place : c.map place = s
  fits : ∀ c' ∈ c, c'.Fits

variable {c : Cursor}

theorem Fits.focus?_place (h : c.Fits) : c.place.focus? = some c.node := by
  have hat := h.at?_whole []
  rw [List.append_nil] at hat
  exact hat

theorem Fits.focus?_child (h : c.Fits) (i : Nat) :
    (⟨c.whole, i :: c.positions⟩ : Place).focus? = c.node.children[i]? := by
  rw [Place.focus?, List.reverse_cons, h.at?_whole [i]]
  simp [Plan.at?]

theorem follows_existing {s : Place} {o : Option Cursor} (hsome : s.focus?.isSome = o.isSome)
    (ho : ∀ c ∈ o, c.Fits ∧ c.place = s) : Follows s.existing o := by
  cases o with
  | none => exact ⟨by simp [Place.existing, hsome], by simp⟩
  | some c =>
      obtain ⟨hfits, rfl⟩ := ho c rfl
      refine ⟨by simp [Place.existing, hsome], ?_⟩
      rintro c' ⟨⟩
      exact hfits

theorem Fits.down (h : c.Fits) (i : Nat) : Follows (c.place.move (.down i)) (c.down i) := by
  refine follows_existing ?_ fun c' hc' => ?_
  · refine (congrArg Option.isSome (h.focus?_child i)).trans ?_
    cases hdown : c.down i with
    | none =>
        rw [of_down_eq_none hdown]
        rfl
    | some c' =>
        rw [(of_down hdown).1]
        rfl
  · obtain ⟨p, path, r⟩ := c'
    obtain ⟨hnode, rfl⟩ := of_down hc'
    obtain ⟨hi, -⟩ := List.getElem?_eq_some_iff.1 hnode
    refine ⟨?_, ?_⟩
    · intro f hf
      rcases List.mem_cons.1 hf with rfl | hf
      · exact Frame.fits_entered hi
      · exact h f hf
    · have hlength : (c.node.children.take i).length = i := by
        rw [List.length_take]
        exact Nat.min_eq_left (Nat.le_of_lt hi)
      simp only [place, whole, positions, List.foldl_cons, Frame.fill_entered hnode, List.map_cons,
        List.length_reverse, hlength]

theorem Fits.up (h : c.Fits) : ∃ o, c.up = .ok o ∧ Follows c.place.up o := by
  obtain ⟨p, path, r⟩ := c
  cases path with
  | nil => exact ⟨none, rfl, rfl, by simp⟩
  | cons f path =>
      obtain ⟨hf, hpath⟩ := h.of_cons
      refine ⟨some ⟨f.fill p, path, r⟩, ?_, rfl, ?_⟩
      · simp [Cursor.up, hf.rebuild_eq]
      · rintro c' ⟨⟩
        exact hpath

theorem Fits.right (h : c.Fits) : Follows c.place.right c.right := by
  obtain ⟨p, path, r⟩ := c
  cases path with
  | nil => exact ⟨rfl, by simp [Cursor.right]⟩
  | cons f path =>
      obtain ⟨hf, hpath⟩ := h.of_cons
      obtain ⟨parent, before, after⟩ := f
      -- the sibling is a child of the parent, where the cursor is after a move up
      have hsibling := hpath.focus?_child (before.length + 1)
      rw [hf.children_fill] at hsibling
      have hafter : (before.reverse ++ p :: after)[before.length + 1]? = after[0]? := by
        rw [List.getElem?_append_right (by simp)]
        simp
      rw [hafter] at hsibling
      refine follows_existing ((congrArg Option.isSome hsibling).trans ?_) fun c' hc' => ?_
      · cases after <;> rfl
      · cases after with
        | nil => cases hc'
        | cons q after =>
            cases hc'
            refine ⟨?_, ?_⟩
            · intro g hg
              rcases List.mem_cons.1 hg with rfl | hg
              · simp only [Frame.Fits, List.length_cons] at hf ⊢
                omega
              · exact hpath g hg
            · simp [place, whole, positions, Frame.fill]

theorem Fits.place_leftmost (h : c.Fits) :
    c.place.leftmost = ⟨c.whole, List.replicate c.node.leftDepth 0 ++ c.positions⟩ := by
  simp only [Place.leftmost, h.focus?_place]
  rfl

theorem Fits.descend (h : c.Fits) :
    c.descendLeftmost.Fits ∧ c.descendLeftmost.place = c.place.leftmost := by
  obtain ⟨p, path, r⟩ := c
  induction p using Plan.inductionOnChildren generalizing path with
  | h p ih =>
      cases hc : p.children with
      | nil =>
          rw [h.place_leftmost, descendLeftmost_leaf hc, Plan.leftDepth_leaf hc]
          exact ⟨h, rfl⟩
      | cons c cs =>
          have hdown : (⟨p, path, r⟩ : Cursor).down 0 = some ⟨c, ⟨p.shell, [], cs⟩ :: path, r⟩ := by
            simp [Cursor.down, hc]
          have hfollows := h.down 0
          rw [hdown] at hfollows
          have hfits := hfollows.fits _ rfl
          have hwhole : whole ⟨c, ⟨p.shell, [], cs⟩ :: path, r⟩ = whole ⟨p, path, r⟩ :=
            (Place.whole_move (m := .down 0) (by simp) hfollows.place.symm)
          have hmem : c ∈ p.children := hc ▸ List.mem_cons_self
          obtain ⟨hfits', hplace⟩ := ih c hmem _ hfits
          rw [descendLeftmost_node hc]
          refine ⟨hfits', hplace.trans ?_⟩
          rw [h.place_leftmost, hfits.place_leftmost, hwhole, Plan.leftDepth_node hc,
            List.replicate_succ', List.append_assoc]
          rfl

/-- Taking a move, the cursor does not fail, and goes where the place goes. -/
theorem Fits.move (h : c.Fits) (m : Move) : ∃ c', c.move m = .ok ((c.place.move m).isSome, c') ∧
    c'.Fits ∧ c'.place = (c.place.move m).getD c.place := by
  have hanswer {s : Option Place} {o : Option Cursor} (hs : Follows s o) :
      (c.answer o).1 = s.isSome ∧ (c.answer o).2.Fits ∧
        (c.answer o).2.place = s.getD c.place := by
    obtain ⟨rfl, hfits⟩ := hs
    cases o with
    | none => exact ⟨rfl, h, rfl⟩
    | some c' => exact ⟨rfl, hfits c' rfl, rfl⟩
  have hmove {o : Option Cursor} (hs : Follows (c.place.move m) o)
      (hm : c.move m = .ok (c.answer o)) : ∃ c', c.move m = .ok ((c.place.move m).isSome, c') ∧
        c'.Fits ∧ c'.place = (c.place.move m).getD c.place := by
    obtain ⟨hmoved, hc'⟩ := hanswer hs
    exact ⟨_, by rw [hm, ← hmoved], hc'⟩
  cases m with
  | down i => exact hmove (h.down i) rfl
  | up =>
      obtain ⟨o, hup, ho⟩ := h.up
      exact hmove ho (by rw [Cursor.move, hup]; rfl)
  | right => exact hmove h.right rfl
  | next =>
      have hright := h.right
      cases hc : c.right with
      | none =>
          rw [hc] at hright
          obtain ⟨o, hup, ho⟩ := h.up
          refine hmove (o := o) ?_ (by simp only [Cursor.move, Cursor.next, hc, hup]; rfl)
          rw [Place.move, ← hright.place]
          exact ho
      | some c₁ =>
          rw [hc] at hright
          obtain ⟨hfits, hplace⟩ := (hright.fits c₁ rfl).descend
          refine hmove (o := some c₁.descendLeftmost) ?_
            (by simp only [Cursor.move, Cursor.next, hc]; rfl)
          rw [Place.move, ← hright.place]
          refine ⟨congrArg some hplace, ?_⟩
          rintro c' ⟨⟩
          exact hfits
  | leftmost =>
      obtain ⟨hfits, hplace⟩ := h.descend
      exact ⟨c.leftmostDescendant, rfl, hfits, hplace⟩
  | replace p =>
      refine ⟨c.replace p, rfl, h, ?_⟩
      exact congrArg (Place.mk · c.positions) (h.whole_replace p)

theorem Fits.travel (h : c.Fits) (moves : List Move) : ∃ c',
    c.travel moves = .ok ((c.place.travel moves).1, c') ∧ c'.Fits ∧
      c'.place = (c.place.travel moves).2 := by
  induction moves generalizing c with
  | nil => exact ⟨c, rfl, h, rfl⟩
  | cons m moves ih =>
      obtain ⟨c₁, hmove, hfits₁, hplace₁⟩ := h.move m
      obtain ⟨c₂, hrun, hfits₂, hplace₂⟩ := ih hfits₁
      rw [hplace₁] at hrun hplace₂
      refine ⟨c₂, ?_, hfits₂, hplace₂⟩
      rw [Cursor.travel, hmove, ok_bind]
      dsimp only
      rw [hrun]
      rfl

/-- A cursor is a path into a whole plan: whatever the moves, none fails, each says whether its
target exists, and what the cursor shows and gives back is what the path and the replacements say. -/
theorem travel_ofPlan (p : Plan) (moves : List Move) : ∃ c,
    (ofPlan p).travel moves = .ok ((Place.travel ⟨p, []⟩ moves).1, c) ∧
      let s := (Place.travel ⟨p, []⟩ moves).2
      s.focus? = some c.node ∧ c.depth = s.path.length ∧ c.position? = s.path.head? ∧
        c.toPlan = .ok ((Place.replacements ⟨p, []⟩ moves).foldl
          (fun q r => q.replaceAt r.1 r.2) p) := by
  have hfits : (ofPlan p).Fits := fun f hf => by cases hf
  obtain ⟨c, hrun, hc, hplace⟩ := hfits.travel moves
  have hplace : c.place = (Place.travel ⟨p, []⟩ moves).2 := hplace
  refine ⟨c, hrun, ?_⟩
  dsimp only
  rw [← hplace]
  refine ⟨hc.focus?_place, depth_eq c, position?_eq c, ?_⟩
  rw [hc.toPlan_eq, ← Place.whole_travel ⟨p, []⟩ moves, ← hplace]
  rfl

end Cursor

end QueryEngine
