import QueryEngine.Proofs.Resolution.Stable
import QueryEngine.Proofs.Walk.Expansion

namespace QueryEngine

namespace Plan

variable (w : Nat)

/-- What is allowed for the plan that may still take the place of a load. -/
def allowance : Plan → Nat
  | .load _ none => w
  | _ => 0

/-- The steps at a node, one for each rule that is left and one to move on. A load may be replaced
until the last rule. -/
def nodeSteps (pending : Nat) (p : Plan) : Nat :=
  pending + 1 + if 2 ≤ pending then allowance w p else 0

def visitSteps (p : Plan) : Nat :=
  (p.postorder.map (nodeSteps w 3)).sum

variable {w}

theorem allowance_of_children {p : Plan} (h : p.children ≠ []) : allowance w p = 0 := by
  cases p with
  | load => exact absurd rfl h
  | _ => rfl

theorem nodeSteps_lt_succ (n : Nat) (p : Plan) : nodeSteps w n p < nodeSteps w (n + 1) p := by
  unfold nodeSteps
  split <;> split <;> omega

theorem nodeSteps_of_allowance {p : Plan} (h : allowance w p = 0) (n : Nat) :
    nodeSteps w n p = n + 1 := by
  simp [nodeSteps, h]

theorem nodeSteps_bare {n : Nat} (hn : 2 ≤ n) (name : String) :
    nodeSteps w n (.load name none) = n + 1 + w := by
  rw [nodeSteps, if_pos hn]
  rfl

theorem visitSteps_eq (p : Plan) :
    visitSteps w p = (p.children.map (visitSteps w)).sum + nodeSteps w 3 p := by
  have hsum (ps : List Plan) : ((ps.map postorder).flatten.map (nodeSteps w 3)).sum =
      (ps.map (visitSteps w)).sum := by
    rw [List.map_flatten, List.sum_flatten, List.map_map, List.map_map]
    rfl
  rw [visitSteps, postorder_eq, List.map_append, List.sum_append, hsum]
  simp

theorem visitSteps_le (p : Plan) : visitSteps w p ≤ (4 + w) * p.size := by
  induction p using inductionOnChildren with
  | h p ih =>
      have hnode : nodeSteps w 3 p ≤ 4 + w := by
        rw [nodeSteps, if_pos (by omega)]
        unfold allowance
        split <;> omega
      have hchildren : (p.children.map (visitSteps w)).sum ≤
          (p.children.map ((4 + w) * ·.size)).sum := List.sum_le_sum ih
      rw [List.sum_map_mul_left] at hchildren
      rw [visitSteps_eq, size_eq p, Nat.mul_add, Nat.mul_one]
      exact Nat.add_le_add hchildren hnode

theorem visitSteps_of_annotated {p : Plan} (h : p.Annotated) : visitSteps w p = 4 * p.size := by
  have hnode {p : Plan} (hp : allowance w p = 0) (hchildren : ∀ c ∈ p.children,
      visitSteps w c = 4 * c.size) : visitSteps w p = 4 * p.size := by
    rw [visitSteps_eq, nodeSteps_of_allowance hp, List.map_congr_left hchildren,
      List.sum_map_mul_left, size_eq p]
    rfl
  induction h with
  | load name s => exact hnode rfl (by simp [children])
  | @node p hp _ ih =>
      refine hnode ?_ ih
      cases p with
      | load name s => exact absurd rfl (hp name s)
      | _ => rfl

end Plan

open Plan

namespace Cursor

variable (w : Nat)

def pathSteps (path : List Frame) : Nat :=
  (path.map fun f => (f.after.map (visitSteps w)).sum + 4).sum

/-- The steps that a walk may still take with some rules left at the focus. -/
def stepsAhead (pending : Nat) (c : Cursor) : Nat :=
  nodeSteps w pending c.node + pathSteps w c.path

variable {w}

theorem pathSteps_cons (f : Frame) (path : List Frame) :
    pathSteps w (f :: path) = (f.after.map (visitSteps w)).sum + 4 + pathSteps w path := by
  simp [pathSteps]

theorem stepsAhead_descendLeftmost (p : Plan) (path : List Frame) (r : Bool) :
    stepsAhead w 3 (⟨p, path, r⟩ : Cursor).descendLeftmost = visitSteps w p + pathSteps w path := by
  induction p using inductionOnChildren generalizing path with
  | h p ih =>
      cases hc : p.children with
      | nil =>
          rw [descendLeftmost_leaf hc, visitSteps_eq, hc]
          simp [stepsAhead]
      | cons c cs =>
          have hbare : allowance w p = 0 := allowance_of_children (by simp [hc])
          rw [descendLeftmost_node hc, ih c (by simp [hc]), pathSteps_cons, visitSteps_eq p, hc,
            nodeSteps_of_allowance hbare, List.map_cons, List.sum_cons]
          dsimp only
          omega

theorem stepsAhead_leftmostDescendant (p : Plan) (path : List Frame) (r : Bool) :
    stepsAhead w 3 (⟨p, path, r⟩ : Cursor).leftmostDescendant =
      visitSteps w p + pathSteps w path :=
  stepsAhead_descendLeftmost p path r

theorem stepsAhead_next {c c' : Cursor} (h : c.next = .ok (some c')) :
    stepsAhead w 3 c' < stepsAhead w 0 c := by
  have hlast : nodeSteps w 0 c.node = 1 := by simp [nodeSteps]
  unfold next at h
  split at h
  · next c₁ hright =>
      cases h
      obtain ⟨f, path, node, after, hpath, hafter, rfl⟩ := of_right hright
      rw [stepsAhead_descendLeftmost, stepsAhead, hpath, pathSteps_cons, pathSteps_cons, hafter,
        hlast, List.map_cons, List.sum_cons]
      dsimp only
      omega
  · obtain ⟨f, path, hpath, hpath', hchildren⟩ := children_of_up h
    have hbare : allowance w c'.node = 0 := allowance_of_children (by simp [hchildren])
    rw [stepsAhead, stepsAhead, hpath, hpath', nodeSteps_of_allowance hbare, pathSteps_cons, hlast]
    omega

inductive Chain (bottom : Plan) : Nat → Plan → Prop
  | here : Chain bottom 0 bottom
  | child {n : Nat} {p c : Plan} (hp : p.children = [c]) (h : Chain bottom n c) :
      Chain bottom (n + 1) p

theorem Chain.downFirst {bottom p : Plan} {n : Nat} (h : Chain bottom n p) (path : List Frame)
    (r : Bool) : (downFirst n ⟨p, path, r⟩).node = bottom ∧
      pathSteps w (downFirst n ⟨p, path, r⟩).path = 4 * n + pathSteps w path := by
  induction h generalizing path with
  | here => exact ⟨rfl, by simp [Cursor.downFirst]⟩
  | @child n p c hp h ih =>
      have hdown : (⟨p, path, r⟩ : Cursor).down 0 = some ⟨c, ⟨p.shell, [], []⟩ :: path, r⟩ := by
        simp [down, hp]
      obtain ⟨hnode, hpath⟩ := ih (⟨p.shell, [], []⟩ :: path)
      rw [Cursor.downFirst, hdown]
      refine ⟨hnode, hpath.trans ?_⟩
      rw [pathSteps_cons]
      simp only [List.map_nil, List.sum_nil]
      omega

theorem of_up_single {c c' : Cursor} {input : Plan} (h : c.up = .ok (some c'))
    (hinput : c'.node.children = [input]) :
    input = c.node ∧ pathSteps w c.path = 4 + pathSteps w c'.path := by
  obtain ⟨f, path, hpath, hpath', hchildren⟩ := children_of_up h
  rw [hinput, eq_comm, List.append_eq_singleton_iff] at hchildren
  obtain ⟨-, hone⟩ | ⟨-, hnone⟩ := hchildren
  · obtain ⟨hnode, hafter⟩ := List.cons.inj hone
    refine ⟨hnode.symm, ?_⟩
    rw [hpath, hpath', pathSteps_cons, hafter]
    simp
  · cases hnone

theorem up_down {c c' : Cursor} (h : c.up = .ok (some c')) {position : Nat}
    (hposition : c.position? = some position) :
    ((c'.down position).getD c').node = c.node ∧
      pathSteps w ((c'.down position).getD c').path = pathSteps w c.path := by
  obtain ⟨f, path, hpath, hpath', hchildren⟩ := children_of_up h
  obtain rfl : f.before.length = position := by simpa [position?, hpath] using hposition
  cases hdown : c'.down f.before.length with
  | none =>
      have := of_down_eq_none hdown
      simp [hchildren] at this
  | some c'' =>
      obtain ⟨hnode, hback⟩ := of_down hdown
      have hdrop : c'.node.children.drop (f.before.length + 1) = f.after := by
        have hlength : f.before.reverse.length = f.before.length := List.length_reverse
        rw [hchildren, ← hlength, ← List.drop_drop, List.drop_left]
        rfl
      refine ⟨by simpa [hchildren, eq_comm] using hnode, ?_⟩
      simp [hback, hdrop, hpath, hpath', pathSteps_cons]

/-- A climb adds nothing to what is ahead, and the node that it left stays at the bottom of the
levels that it counts. -/
theorem climb_chain {bottom : Plan} {n : Nat} {keys : KeyFields} {k k' : Climb}
    (hk : Chain bottom k.levels k.cursor.node) (h : climb n keys k = .ok k') :
    Chain bottom k'.levels k'.cursor.node ∧
      4 * k'.levels + pathSteps w k'.cursor.path ≤ 4 * k.levels + pathSteps w k.cursor.path := by
  refine climb_invariant (I := fun k' => Chain bottom k'.levels k'.cursor.node ∧
    4 * k'.levels + pathSteps w k'.cursor.path ≤ 4 * k.levels + pathSteps w k.cursor.path) ?_ ?_ ?_
    ⟨hk, Nat.le_refl _⟩ h
  · rintro k c input p taken ⟨hchain, hle⟩ hup hinput hp
    obtain ⟨rfl, hpath⟩ := @of_up_single w _ _ _ hup hinput
    exact ⟨.child hp hchain, by dsimp only; omega⟩
  · rintro k c input taken ⟨hchain, hle⟩ hup hinput
    obtain ⟨rfl, hpath⟩ := @of_up_single w _ _ _ hup hinput
    exact ⟨hchain, by dsimp only; omega⟩
  · rintro k c position ⟨hchain, hle⟩ hup hposition
    obtain ⟨hnode, hpath⟩ := @up_down w _ _ hup _ hposition
    exact ⟨hnode ▸ hchain, by dsimp only; omega⟩

theorem of_pushKeyPredicates {keys : KeyFields} {c c' : Cursor}
    (h : c.pushKeyPredicates keys = .ok c') :
    (c'.node = c.node ∨ ∃ e, c'.node = .select c.node (some e) none) ∧
      pathSteps w c'.path ≤ pathSteps w c.path := by
  obtain ⟨k, hk, h⟩ := bind_eq_ok.1 h
  obtain ⟨hchain, hle⟩ := climb_chain (w := w) .here hk
  obtain ⟨hnode, hpath⟩ := hchain.downFirst (w := w) k.cursor.path k.cursor.repositioned
  rw [Nat.mul_zero, Nat.zero_add] at hle
  split at h
  · next predicate _ =>
      cases h
      exact ⟨.inr ⟨predicate, by rw [replace, hnode]⟩, by rw [replace, hpath]; exact hle⟩
  · cases h
    exact ⟨.inl hnode, by rw [hpath]; exact hle⟩

end Cursor

open Cursor

/-- The adapter leaves a load in place, or asks for a visit of a small plan that it puts there. It
adds nothing to what else is ahead. -/
def Adapter.Settles (a : Adapter) : Prop :=
  ∀ w c c', a.evaluate c = .ok c' →
    c' = c ∨ c'.repositioned = true ∧ stepsAhead w 3 c' ≤ 12 + pathSteps w c.path

theorem MemoryStore.settles_adapter (m : MemoryStore) : m.adapter.Settles := by
  rintro w c c' ⟨⟩
  exact .inl rfl

theorem Document.settles_adapter : adapter.Settles := by
  intro w c c' h
  obtain ⟨pushed, hpushed, h⟩ := bind_eq_ok.1 h
  cases h
  refine .inr ⟨rfl, ?_⟩
  obtain ⟨hnode, hpath⟩ := of_pushKeyPredicates (w := w) hpushed
  -- the decoding, a selection and the keys
  have hkeys : visitSteps w (.tableFunction keysFunction [] none) = 4 := by
    rw [visitSteps_eq]
    rfl
  have hpushed : visitSteps w pushed.node ≤ 8 := by
    rcases hnode with hnode | ⟨e, hnode⟩ <;> rw [hnode]
    · exact Nat.le_trans (Nat.le_of_eq hkeys) (by omega)
    · rw [visitSteps_eq, nodeSteps_of_allowance rfl]
      simp [children, replace, hkeys]
  have hdecode : visitSteps w (.tableFunction decodeFunction [.relation pushed.node] none) ≤ 12 := by
    rw [visitSteps_eq, nodeSteps_of_allowance rfl]
    simp only [children, relationArgs, List.map_cons, List.map_nil, List.sum_cons, List.sum_nil]
    omega
  calc stepsAhead w 3 _ = _ := stepsAhead_leftmostDescendant _ _ _
    _ ≤ 12 + pathSteps w c.path := Nat.add_le_add hdecode hpath

namespace Dataset

open Walk Typing

variable {d : Dataset} {w : Nat}

/-- With `n` rules left after it, the rule leaves fewer steps ahead, whether it asks for a visit or
not. -/
def Advances (w n : Nat) (r : Rule (Except Error)) : Prop :=
  ∀ c c', c.repositioned = false → r.applies c → r.transform c = .ok c' →
    stepsAhead w (if c'.repositioned then 3 else n) c' < stepsAhead w (n + 1) c

theorem advances_viewRule (hviews : ∀ name v, d.view? name = some v → v.Annotated ∧ 4 * v.size ≤ w) :
    Advances w 2 (d.viewRule : Rule (Except Error)) := by
  intro c c' _ happlies h
  obtain ⟨name, v, hnode, hview, rfl⟩ := of_viewRule happlies h
  obtain ⟨hannotated, hsize⟩ := hviews name v hview
  have hsteps := stepsAhead_leftmostDescendant (w := w) v c.path c.repositioned
  rw [visitSteps_of_annotated hannotated] at hsteps
  simp only [replace, leftmostDescendant, if_true] at hsteps ⊢
  rw [hsteps, stepsAhead, hnode, nodeSteps_bare (by omega)]
  omega

theorem advances_adapterRule (hd : ∀ a ∈ d.adapters, a.Settles) (hw : 10 ≤ w) :
    Advances w 1 (d.adapterRule : Rule (Except Error)) := by
  intro c c' hc happlies h
  obtain ⟨name, hnode, a, ha, h⟩ := of_adapterRule happlies h
  have hstays : stepsAhead w 1 c < stepsAhead w 2 c :=
    Nat.add_lt_add_right (nodeSteps_lt_succ 1 c.node) _
  rcases hd a ha w c c' h with rfl | ⟨hmoved, hle⟩
  · simpa [hc] using hstays
  · rw [if_pos hmoved]
    refine Nat.lt_of_le_of_lt hle ?_
    rw [stepsAhead, hnode, nodeSteps_bare (by omega)]
    omega

theorem advances_resolverRule : Advances w 0 (d.resolverRule : Rule (Except Error)) := by
  intro c c' hc _ h
  obtain ⟨q, -, h⟩ := bind_eq_ok.1 h
  cases h
  simp [replace, hc, stepsAhead, nodeSteps]

theorem advances_of_suffix (hviews : ∀ name v, d.view? name = some v → v.Annotated ∧ 4 * v.size ≤ w)
    (hd : ∀ a ∈ d.adapters, a.Settles) (hw : 10 ≤ w) {r : Rule (Except Error)}
    {pending : List (Rule (Except Error))} (h : r :: pending <:+ d.rules) :
    Advances w pending.length r := by
  simp only [List.suffix_cons_iff, List.cons.injEq, List.suffix_nil, reduceCtorEq, or_false] at h
  rcases h with ⟨rfl, rfl⟩ | ⟨rfl, rfl⟩ | ⟨rfl, rfl⟩
  · exact advances_viewRule hviews
  · exact advances_adapterRule hd hw
  · exact advances_resolverRule

/-- A step of a walk ends it, at the root or with an error, or leaves fewer steps ahead. -/
theorem run_step (hviews : ∀ name v, d.view? name = some v → v.Annotated ∧ 4 * v.size ≤ w)
    (hd : ∀ a ∈ d.adapters, a.Settles) (hw : 10 ≤ w) {pending : List (Rule (Except Error))}
    (hpending : pending <:+ d.rules) {c : Cursor} (hc : c.repositioned = false) :
    (∃ result : Except Error Cursor, ∀ n, run d.rules (n + 1) pending c = result.map some) ∨
      ∃ pending' c', pending' <:+ d.rules ∧ c'.repositioned = false ∧
        stepsAhead w pending'.length c' < stepsAhead w pending.length c ∧
        ∀ n, run d.rules (n + 1) pending c = run d.rules n pending' c' := by
  cases pending with
  | nil =>
      cases hnext : c.next with
      | error e => exact .inl ⟨.error e, fun n => by rw [run, hnext]; rfl⟩
      | ok moved =>
          cases moved with
          | none => exact .inl ⟨.ok c, fun n => by rw [run, hnext]; rfl⟩
          | some c' =>
              exact .inr ⟨d.rules, c', List.suffix_refl _, (repositioned_next hnext).trans hc,
                stepsAhead_next hnext, fun n => by rw [run, hnext]; rfl⟩
  | cons r pending =>
      have hrest : pending <:+ d.rules := (List.suffix_cons r pending).trans hpending
      by_cases happlies : r.applies c = true
      · cases hmove : r.transform c with
        | error e => exact .inl ⟨.error e, fun n => by rw [run, if_pos happlies, hmove]; rfl⟩
        | ok c' =>
            have hlt := advances_of_suffix hviews hd hw hpending c c' hc happlies hmove
            cases hr : c'.repositioned with
            | true =>
                -- after the request for a visit all rules are pending again
                rw [if_pos hr] at hlt
                exact .inr ⟨d.rules, { c' with repositioned := false }, List.suffix_refl _, rfl, hlt,
                  fun n => by rw [run, if_pos happlies, hmove, ok_bind, if_pos hr]⟩
            | false =>
                rw [if_neg (by simp [hr])] at hlt
                exact .inr ⟨pending, c', hrest, hr, hlt,
                  fun n => by rw [run, if_pos happlies, hmove, ok_bind, if_neg (by simp [hr])]⟩
      · exact .inr ⟨pending, c, hrest, hc, Nat.add_lt_add_right (nodeSteps_lt_succ _ c.node) _,
          fun n => by rw [run, if_neg happlies]⟩

/-- A walk that may take as many steps as are ahead comes to its end, and more would not change how
it ends. -/
theorem exists_run (hviews : ∀ name v, d.view? name = some v → v.Annotated ∧ 4 * v.size ≤ w)
    (hd : ∀ a ∈ d.adapters, a.Settles) (hw : 10 ≤ w) {n : Nat}
    {pending : List (Rule (Except Error))} (hpending : pending <:+ d.rules) {c : Cursor}
    (hc : c.repositioned = false) (hn : stepsAhead w pending.length c ≤ n) :
    ∃ result : Except Error Cursor, ∀ extra,
      run d.rules (n + extra) pending c = result.map some := by
  induction n generalizing pending c with
  | zero =>
      have hpos : 0 < stepsAhead w pending.length c := by
        rw [stepsAhead, nodeSteps]
        omega
      omega
  | succ n ih =>
      simp only [Nat.add_right_comm n 1]
      rcases run_step hviews hd hw hpending hc with
        ⟨result, hend⟩ | ⟨pending', c', hpending', hc', hlt, hstep⟩
      · exact ⟨result, fun extra => hend (n + extra)⟩
      · obtain ⟨result, hrun⟩ := ih hpending' hc' (by omega)
        exact ⟨result, fun extra => (hstep (n + extra)).trans (hrun extra)⟩

variable (d) in
def loadSteps : Nat :=
  4 * d.views.foldr (fun v n => v.2.size + n) 8

variable (d) in
theorem ten_le_loadSteps : 10 ≤ d.loadSteps := by
  have htotal := (le_foldr_views d.views).1
  unfold loadSteps
  omega

theorem size_le_loadSteps {name : String} {v : Plan} (h : d.view? name = some v) :
    4 * v.size ≤ d.loadSteps := by
  have hsize := size_le_of_view? h
  unfold loadSteps
  omega

variable (d) in
theorem visitSteps_le_walkFuel (p : Plan) : visitSteps d.loadSteps p ≤ d.walkFuel p := by
  have hten := d.ten_le_loadSteps
  calc visitSteps d.loadSteps p ≤ (4 + d.loadSteps) * p.size := visitSteps_le p
    _ ≤ (2 * d.loadSteps) * (p.size + 1) := Nat.mul_le_mul (by omega) (Nat.le_succ _)
    _ = d.walkFuel p := by
      rw [walkFuel, loadSteps]
      ring

/-- Over stores and documents, whatever views there are, the walk of resolution over a plan is over
within its bound, at the root or with the error of a rule. More steps would lead to the same end, and
it is the result of resolution. -/
theorem exists_run_resolve {queries : List Query} (h : Reachable d queries)
    (hd : ∀ a ∈ d.adapters, (∃ m : MemoryStore, a = m.adapter) ∨ a = Document.adapter) (p : Plan) :
    ∃ result : Except Error Cursor,
      (∀ fuel, d.walkFuel p ≤ fuel →
        run d.rules fuel d.rules (ofPlan p).descendLeftmost = result.map some) ∧
      d.resolve p = result >>= toPlan := by
  have hvisits : ∀ a ∈ d.adapters, a.AsksForVisits := by
    intro a ha
    rcases hd a ha with ⟨m, rfl⟩ | rfl
    · exact m.asksForVisits_adapter
    · exact Document.asksForVisits_adapter
  have hsettles : ∀ a ∈ d.adapters, a.Settles := by
    intro a ha
    rcases hd a ha with ⟨m, rfl⟩ | rfl
    · exact m.settles_adapter
    · exact Document.settles_adapter
  have hannotated : d.ViewsAnnotated :=
    (h.annotated_of (fun hd _ hq => annotated_of_annotate (annotate_of_resolveIn hd hq)) hvisits).1
  have hsteps : stepsAhead d.loadSteps d.rules.length (ofPlan p).descendLeftmost ≤ d.walkFuel p :=
    calc _ = visitSteps d.loadSteps p := stepsAhead_descendLeftmost p [] false
      _ ≤ d.walkFuel p := d.visitSteps_le_walkFuel p
  obtain ⟨result, hrun⟩ := exists_run
    (fun name v hview => ⟨hannotated name v hview, size_le_loadSteps hview⟩) hsettles
    d.ten_le_loadSteps (List.suffix_refl d.rules) (downFirst_repositioned _ _) hsteps
  refine ⟨result, fun fuel hle => ?_, ?_⟩
  · rw [← Nat.add_sub_cancel' hle]
    exact hrun _
  · rw [resolve, resolveIn, walk, ← Nat.add_zero (d.walkFuel p), hrun]
    cases result with
    | error e => rfl
    | ok c =>
        have hlift : Walk.lift c.toPlan = c.toPlan := by cases c.toPlan <;> rfl
        exact hlift

theorem exists_run_resolve_shadowing :
    let docs := [Document.of "2022" "alpha" "Alpha" 10, Document.of "2023" "beta" "Beta" 200]
    let d : Dataset := { adapters := [Document.adapter], functions := Document.register docs {} }
    let recent : Plan := .select (.load "docs" none)
      (some (.binary .gt (.var "year") (.const (.string "2022")))) none
    let large : Plan := .select (.load "docs" none)
      (some (.binary .gt (.var "size") (.const (.integer 50)))) none
    ∃ d₁ d₂ q, d.createView "docs" recent = .ok d₁ ∧ d₁.createView "docs" large = .ok d₂ ∧
      Reachable d₂ [] ∧ d₂.adapters = [Document.adapter] ∧
        d₂.resolve (.load "docs" none) = .ok q ∧ q.size = 4 ∧
        ∃ result : Except Error Cursor, (∀ fuel, d₂.walkFuel (.load "docs" none) ≤ fuel →
          run d₂.rules fuel d₂.rules (ofPlan (.load "docs" none)).descendLeftmost =
            result.map some) ∧ result >>= toPlan = .ok q := by
  intro docs d recent large
  obtain ⟨d₁, d₂, q, h₁, h₂, hq, hsize⟩ : ∃ d₁ d₂ q, d.createView "docs" recent = .ok d₁ ∧
      d₁.createView "docs" large = .ok d₂ ∧ d₂.resolve (.load "docs" none) = .ok q ∧ q.size = 4 := by
    simp only [docs, d, recent, large]
    exact ⟨_, _, _, rfl, rfl, rfl, rfl⟩
  have hreachable : Reachable d₂ [] :=
    .createView _ _ (.createView _ _ (.addAdapter _ (.addTable _ (.addTable _ .new))) h₁) h₂
  have hadapters : d₂.adapters = [Document.adapter] := by
    obtain ⟨v₁, -, rfl⟩ := createView_eq_ok.1 h₁
    obtain ⟨v₂, -, rfl⟩ := createView_eq_ok.1 h₂
    rfl
  obtain ⟨result, hrun, hresult⟩ := exists_run_resolve hreachable
    (fun a ha => .inr (List.mem_singleton.1 (hadapters ▸ ha))) (.load "docs" none)
  exact ⟨d₁, d₂, q, h₁, h₂, hreachable, hadapters, hq, hsize, result, hrun,
    hresult.symm.trans hq⟩

end Dataset

end QueryEngine
