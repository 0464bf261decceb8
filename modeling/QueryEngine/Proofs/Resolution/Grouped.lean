import QueryEngine.Proofs.Resolution.Visited

namespace QueryEngine

open Plan

def Frame.grouping (keys : List Expr) (bindings : List AggregateBinding) (own : Option Schema) :
    Frame :=
  ⟨.groupBy .placeholder keys bindings own, [], []⟩

namespace Cursor

/-- The cursor in a plan with one more node above its root. -/
def under (f : Frame) (c : Cursor) : Cursor :=
  { c with path := c.path ++ [f] }

variable {f : Frame} {c c' : Cursor}

@[simp] theorem under_node (f : Frame) (c : Cursor) : (c.under f).node = c.node := rfl

@[simp] theorem under_repositioned (f : Frame) (c : Cursor) :
    (c.under f).repositioned = c.repositioned := rfl

theorem replace_under (f : Frame) (c : Cursor) (p : Plan) :
    (c.under f).replace p = (c.replace p).under f := rfl

theorem down_under (f : Frame) (c : Cursor) (i : Nat) :
    (c.under f).down i = (c.down i).map (under f) := by
  simp only [down, under_node]
  cases c.node.children[i]? <;> rfl

theorem downFirst_under (f : Frame) (n : Nat) (c : Cursor) :
    downFirst n (c.under f) = (downFirst n c).under f := by
  induction n generalizing c with
  | zero => rfl
  | succ n ih =>
      rw [downFirst, downFirst, down_under]
      cases c.down 0 with
      | none => rfl
      | some c' => exact ih c'

theorem leftmostDescendant_under (f : Frame) (c : Cursor) :
    (c.under f).leftmostDescendant = c.leftmostDescendant.under f :=
  congrArg (fun c : Cursor => { c with repositioned := true }) (downFirst_under f c.node.size c)

theorem up_under (h : c.path ≠ []) : (c.under f).up = c.up.map (Option.map (under f)) := by
  obtain ⟨node, path, r⟩ := c
  cases path with
  | nil => exact absurd rfl h
  | cons g path =>
      simp only [up, under, List.cons_append]
      cases g.rebuild node <;> rfl

theorem right_under (hf : f.after = []) (c : Cursor) :
    (c.under f).right = c.right.map (under f) := by
  obtain ⟨node, path, r⟩ := c
  obtain ⟨parent, before, after⟩ := f
  obtain rfl : after = [] := hf
  cases path with
  | nil => rfl
  | cons g path =>
      obtain ⟨parent, before, after⟩ := g
      cases after <;> rfl

theorem next_under (hf : f.after = []) (h : c.next = .ok (some c')) :
    (c.under f).next = .ok (some (c'.under f)) := by
  unfold next at h ⊢
  rw [right_under hf]
  split at h
  · next c₁ hright =>
      cases h
      rw [hright]
      exact congrArg (fun c => Except.ok (some c)) (downFirst_under f _ c₁)
  · next hright =>
      obtain ⟨g, path, hpath, -⟩ := of_up h
      rw [hright, Option.map_none, up_under (by simp [hpath]), h]
      rfl

theorem next_under_root (keys : List Expr) (bindings : List AggregateBinding) (own : Option Schema)
    (p : Plan) : ((⟨p, [], false⟩ : Cursor).under (.grouping keys bindings own)).next =
      .ok (some ⟨.groupBy p keys bindings own, [], false⟩) := rfl

variable {keys : List Expr} {bindings : List AggregateBinding} {own : Option Schema}

/-- A climb that comes to a grouping goes back down, and so ends as it would at the root. -/
theorem climb_under {n : Nat} {fields : KeyFields} {k : Climb} (hn : k.cursor.depth = n) :
    climb (n + 1) fields { k with cursor := k.cursor.under (.grouping keys bindings own) } =
      (climb n fields k).map fun k =>
        { k with cursor := k.cursor.under (.grouping keys bindings own) } := by
  obtain ⟨levels, taken, node, path, r⟩ := k
  induction path generalizing n fields levels taken node with
  | nil =>
      obtain rfl : 0 = n := hn
      rfl
  | cons g path ih =>
      obtain rfl : path.length + 1 = n := hn
      have hposition :
          ((⟨node, g :: path, r⟩ : Cursor).under (.grouping keys bindings own)).position? =
            some g.before.length := rfl
      rw [climb, climb, hposition, up_under (by simp)]
      cases hnode : g.rebuild node with
      | error e => simp [position?, up, hnode, Except.map]
      | ok node' =>
          have hpath : (⟨node', path, r⟩ : Cursor).depth = path.length := rfl
          have hup : (⟨node, g :: path, r⟩ : Cursor).up = .ok (some ⟨node', path, r⟩) := by
            simp [up, hnode]
          simp only [hup, position?, Except.map, Option.map_some, ok_bind]
          cases node' with
          | select input predicate schema =>
              cases predicate with
              | none => exact ih _ _ _ rfl
              | some predicate =>
                  rcases hsplit : fields.split predicate with ⟨_ | record, _ | key⟩ <;>
                    simp only [under_node, hsplit] <;> exact ih _ _ _ rfl
          | orderBy => exact ih _ _ _ rfl
          | aliased => exact ih _ _ _ rfl
          | _ =>
              -- any other node stops the climb, which goes back down the way it came
              simp [down_under]

theorem pushKeyPredicates_under (fields : KeyFields) (c : Cursor) :
    (c.under (.grouping keys bindings own)).pushKeyPredicates fields =
      (c.pushKeyPredicates fields).map (under (.grouping keys bindings own)) := by
  have hdepth : (c.under (.grouping keys bindings own)).depth = c.depth + 1 := by
    simp [depth, under]
  rw [pushKeyPredicates, pushKeyPredicates, hdepth, climb_under (k := { cursor := c }) rfl]
  cases climb c.depth fields { cursor := c } with
  | error e => rfl
  | ok k =>
      simp only [Except.map, ok_bind, downFirst_under]
      cases Expr.andAll k.taken <;> rfl

end Cursor

open Cursor

/-- What the adapter does in the input of a grouping is what it does in the input alone. -/
def Adapter.StopsAtGroupings (a : Adapter) : Prop :=
  ∀ keys bindings own c, a.evaluate (c.under (.grouping keys bindings own)) =
    (a.evaluate c).map (under (.grouping keys bindings own))

theorem MemoryStore.stopsAtGroupings_adapter (m : MemoryStore) : m.adapter.StopsAtGroupings :=
  fun _ _ _ _ => rfl

theorem Document.stopsAtGroupings_adapter : adapter.StopsAtGroupings := by
  intro keys bindings own c
  simp only [adapter, evaluate, replace_under, pushKeyPredicates_under]
  cases (c.replace (.tableFunction keysFunction [] none)).pushKeyPredicates
    (KeyFields.ofRelation relationName keyNames) with
  | error e => rfl
  | ok pushed =>
      simp only [Except.map, ok_bind, under_node, replace_under, leftmostDescendant_under]
      rfl

namespace Dataset

open Walk Typing

variable {d : Dataset} {f : Frame}

/-- The rule does under one more node what it does without it. -/
def Ignores (f : Frame) (r : Rule (Except Error)) : Prop :=
  ∀ c, r.applies (c.under f) = r.applies c ∧ r.transform (c.under f) = (r.transform c).map (under f)

theorem ignores_viewRule : Ignores f (d.viewRule : Rule (Except Error)) := by
  intro c
  refine ⟨rfl, ?_⟩
  unfold viewRule
  dsimp only [under_node]
  split
  · split
    · rw [replace_under, leftmostDescendant_under]
      rfl
    · rfl
  · rfl

theorem ignores_adapterRule (hd : ∀ a ∈ d.adapters, a.StopsAtGroupings) (keys : List Expr)
    (bindings : List AggregateBinding) (own : Option Schema) :
    Ignores (.grouping keys bindings own) (d.adapterRule : Rule (Except Error)) := by
  intro c
  refine ⟨rfl, ?_⟩
  unfold adapterRule
  dsimp only [under_node]
  split
  · split
    · next a ha =>
        rw [hd a (List.mem_of_find?_eq_some ha) keys bindings own c]
        cases a.evaluate c <;> rfl
    · rfl
  · rfl

theorem ignores_resolverRule : Ignores f (d.resolverRule : Rule (Except Error)) := by
  intro c
  refine ⟨rfl, ?_⟩
  simp only [resolverRule, Typing.rule, under_node]
  cases resolveNode d.functions d.schema c.node <;> rfl

theorem ignores_of_mem_rules (hd : ∀ a ∈ d.adapters, a.StopsAtGroupings) (keys : List Expr)
    (bindings : List AggregateBinding) (own : Option Schema) {r : Rule (Except Error)}
    (hr : r ∈ d.rules) : Ignores (.grouping keys bindings own) r := by
  simp only [List.mem_cons, List.not_mem_nil, or_false] at hr
  rcases hr with rfl | rfl | rfl
  · exact ignores_viewRule
  · exact ignores_adapterRule hd keys bindings own
  · exact ignores_resolverRule

theorem run_under {rules : List (Rule (Except Error))} (hf : f.after = [])
    (hrules : ∀ r ∈ rules, Ignores f r) {fuel : Nat} {pending : List (Rule (Except Error))}
    (hpending : pending ⊆ rules) {c c' : Cursor} (hc : c.repositioned = false)
    (h : run rules fuel pending c = .ok (some c')) :
    c'.repositioned = false ∧ c'.path = [] ∧ ∀ extra, ∃ n,
      run rules (fuel + extra) pending (c.under f) = run rules (n + extra + 1) [] (c'.under f) := by
  induction fuel generalizing pending c with
  | zero => cases h
  | succ fuel ih =>
      cases pending with
      | nil =>
          obtain ⟨hmove, rfl⟩ | ⟨c₁, hmove, h⟩ := of_run_nil h
          · -- at the root the walk ends; under the frame it takes one step more, to the grouping
            exact ⟨hc, path_of_next hmove, fun extra => ⟨fuel, by rw [Nat.add_right_comm]⟩⟩
          · obtain ⟨hc', hpath, hrun⟩ :=
              ih (List.Subset.refl _) ((repositioned_next hmove).trans hc) h
            refine ⟨hc', hpath, fun extra => ?_⟩
            obtain ⟨n, hn⟩ := hrun extra
            refine ⟨n, ?_⟩
            rw [Nat.add_right_comm, Nat.add_comm _ 1, run_next (next_under hf hmove), hn]
      | cons r pending =>
          obtain ⟨happlies, htransform⟩ := hrules r (hpending List.mem_cons_self) c
          have hrest : pending ⊆ rules := List.Subset.trans (List.subset_cons_self _ _) hpending
          simp only [Nat.add_right_comm fuel 1, run, happlies, htransform]
          obtain ⟨hr, h⟩ | ⟨hr, c₁, hc₁, h⟩ := of_run_cons h
          · simp only [hr]
            exact ih hrest hc h
          · simp only [hr, if_true, hc₁, Except.map, ok_bind, under_repositioned]
            split at h
            · next hvisit =>
                simp only [hvisit, if_true]
                exact ih (List.Subset.refl _) rfl h
            · next hkept =>
                simp only [hkept]
                exact ih hrest (by simpa using hkept) h

/-- Where adapters stop at groupings, the input of a grouping is resolved as it would be alone, and
then the grouping over what it has become. -/
theorem resolveIn_groupBy (hd : ∀ a ∈ d.adapters, a.StopsAtGroupings) {steps steps' : Nat}
    {p q : Plan} (h : d.resolveIn steps p = .ok q) (hsteps : steps + 4 ≤ steps') (keys : List Expr)
    (bindings : List AggregateBinding) (own : Option Schema) :
    d.resolveIn steps' (.groupBy p keys bindings own) =
      annotateNode d.functions d.schema (.groupBy q keys bindings own) := by
  obtain ⟨extra, rfl⟩ := Nat.exists_eq_add_of_le hsteps
  obtain ⟨final, hrun, h⟩ := bind_eq_ok.1 h
  cases final with
  | none => cases h
  | some c =>
      have hstart : (ofPlan (.groupBy p keys bindings own)).descendLeftmost =
          (ofPlan p).descendLeftmost.under (.grouping keys bindings own) :=
        (descendLeftmost_node rfl [] false).trans (downFirst_under _ p.size (ofPlan p))
      obtain ⟨hc, hpath, hunder⟩ := run_under (f := .grouping keys bindings own) rfl
        (fun r hr => ignores_of_mem_rules hd keys bindings own hr) (List.Subset.refl _)
        (downFirst_repositioned _ _) hrun
      obtain ⟨n, hn⟩ := hunder (4 + extra)
      obtain ⟨node, path, r⟩ := c
      obtain rfl : path = [] := hpath
      obtain rfl : r = false := hc
      obtain rfl : node = q := by
        cases h
        rfl
      rw [resolveIn, walk, hstart, Nat.add_assoc, hn, Nat.add_comm _ 1,
        run_next (next_under_root keys bindings own node)]
      have hleft : n + (4 + extra) = (n + extra + 1) + 3 := by omega
      rw [hleft, run_node (by simp)]
      cases annotateNode d.functions d.schema (.groupBy node keys bindings own) <;> rfl

end Dataset

end QueryEngine
