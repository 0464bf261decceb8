import Mathlib.Data.List.Induction
import QueryEngine.Adapter.Documents
import QueryEngine.Proofs.Except
import QueryEngine.Proofs.Resolution.Walk

namespace QueryEngine

/-- A node that key predicates move through, without its input. -/
inductive Link where
  | select (predicate : Option Expr) (schema : Option Schema)
  | orderBy (keys : List Expr) (schema : Option Schema)
  | aliased (name : String) (schema : Option Schema)

namespace Link

def wrap : Link → Plan → Plan
  | select e s, p => .select p e s
  | orderBy ks s, p => .orderBy p ks s
  | aliased n s, p => .aliased n p s

def wrapAll (links : List Link) (p : Plan) : Plan :=
  links.foldl (fun p l => l.wrap p) p

def frame (l : Link) : Frame :=
  ⟨l.wrap .placeholder, [], []⟩

def keys (k : KeyFields) : Link → KeyFields
  | aliased name _ => k.addQualifier name
  | _ => k

/-- What stays of the node, and the key predicate that it gives away. -/
def split (k : KeyFields) : Link → Option Link × Option Expr
  | select (some e) s =>
    match k.split e with
    | (_, none) => (some (select (some e) s), none)
    | (record, some key) => (record.map fun e => select (some e) s, some (k.strip key))
  | l => (some l, none)

def splitAll (k : KeyFields) : List Link → List Link × List Expr
  | [] => ([], [])
  | l :: ls =>
    ((l.split k).1.toList ++ (splitAll (l.keys k) ls).1,
      (l.split k).2.toList ++ (splitAll (l.keys k) ls).2)

variable (l : Link) (links : List Link) (p q : Plan) (path : List Frame) (r : Bool)

@[simp] theorem wrapAll_nil : wrapAll [] p = p := rfl

@[simp] theorem wrapAll_cons : wrapAll (l :: links) p = wrapAll links (l.wrap p) := rfl

theorem wrapAll_append (links' : List Link) :
    wrapAll (links ++ links') p = wrapAll links' (wrapAll links p) := by
  simp [wrapAll]

@[simp] theorem children_wrap : (l.wrap p).children = [p] := by
  cases l <;> rfl

@[simp] theorem shell_wrap : (l.wrap p).shell = l.wrap .placeholder := by
  cases l <;> rfl

@[simp] theorem refill_wrap : (l.wrap p).refill [q] = l.wrap q := by
  cases l <;> rfl

theorem rebuild_frame : l.frame.rebuild p = .ok (l.wrap p) := by
  cases l <;> rfl

theorem exists_of_refill {ps : List Plan} (h : p.refill ps = l.wrap q) :
    ∃ l' i, p = wrap l' i := by
  cases p
  case select i e s => exact ⟨select e s, i, rfl⟩
  case orderBy i ks s => exact ⟨orderBy ks s, i, rfl⟩
  case aliased n i s => exact ⟨aliased n s, i, rfl⟩
  case join | unionAll => rcases ps with _ | ⟨_, _ | ⟨_, _⟩⟩ <;> cases l <;> cases h
  case load | tableFunction | placeholder => cases l <;> cases h
  all_goals cases ps <;> cases l <;> cases h

theorem annotate_wrap (functions : FunctionRegistry) (relation : String → Except Error Schema) :
    Typing.annotate functions relation (l.wrap p) =
      Typing.annotate functions relation p >>= fun q =>
        Typing.annotateNode functions relation (l.wrap q) := by
  rw [Typing.annotate_eq, children_wrap]
  cases h : Typing.annotate functions relation p <;> simp [h]

theorem down_wrap : (⟨l.wrap p, path, r⟩ : Cursor).down 0 = some ⟨p, l.frame :: path, r⟩ := by
  simp [Cursor.down, frame]

theorem downFirst_wrapAll : Cursor.downFirst links.length ⟨wrapAll links p, path, r⟩ =
    ⟨p, links.map frame ++ path, r⟩ := by
  induction links using List.reverseRecOn generalizing path with
  | nil => rfl
  | append_singleton links l ih =>
      rw [wrapAll_append, List.length_append, List.length_singleton, Cursor.downFirst]
      simp only [wrapAll_cons, wrapAll_nil, down_wrap]
      rw [ih]
      simp

theorem descendLeftmost_wrapAll : (⟨wrapAll links p, path, r⟩ : Cursor).descendLeftmost =
    (⟨p, links.map frame ++ path, r⟩ : Cursor).descendLeftmost := by
  induction links using List.reverseRecOn generalizing path with
  | nil => rfl
  | append_singleton links l ih =>
      rw [wrapAll_append, wrapAll_cons, wrapAll_nil, Cursor.descendLeftmost_node (children_wrap l _),
        shell_wrap]
      simpa [frame] using ih (l.frame :: path)

end Link

namespace Cursor

open Link

/-- A path on which no key predicate moves further up: its lowest node is no link, and has all its
children but the one in focus. -/
inductive Stops : List Frame → Prop
  | root : Stops []
  | node {p : Plan} (hp : ∀ l i, p ≠ Link.wrap l i) {before after : List Plan}
      (h : before.length + 1 + after.length = p.children.length) (path : List Frame) :
      Stops (⟨p.shell, before, after⟩ :: path)

theorem climb_link (n : Nat) (k : KeyFields) (l : Link) (levels : Nat) (taken : List Expr) (p : Plan)
    (path : List Frame) (r : Bool) :
    climb (n + 1) k ⟨levels, taken, ⟨p, l.frame :: path, r⟩⟩ =
      climb n (l.keys k) ⟨levels + (l.split k).1.toList.length, taken ++ (l.split k).2.toList,
        ⟨wrapAll (l.split k).1.toList p, path, r⟩⟩ := by
  have hup : (⟨p, l.frame :: path, r⟩ : Cursor).up = .ok (some ⟨l.wrap p, path, r⟩) := by
    simp [up, rebuild_frame]
  rw [climb]
  simp only [position?, List.head?_cons, Option.map_some, hup, ok_bind]
  rcases l with ⟨_ | e, s⟩ | ⟨ks, s⟩ | ⟨name, s⟩
  · simp [wrap, Link.split, Link.keys]
  · simp only [wrap, Link.split, Link.keys]
    rcases k.split e with ⟨_ | record, _ | key⟩ <;> simp [replace, wrap]
  · simp [wrap, Link.split, Link.keys]
  · simp [wrap, Link.split, Link.keys]

theorem climb_stops {path : List Frame} (h : Stops path) (n : Nat) (k : KeyFields) (levels : Nat)
    (taken : List Expr) (p : Plan) (r : Bool) :
    climb n k ⟨levels, taken, ⟨p, path, r⟩⟩ = .ok ⟨levels, taken, ⟨p, path, r⟩⟩ := by
  cases n with
  | zero => rfl
  | succ n =>
      cases h with
      | root => rfl
      | @node q hq before after h path =>
          have hlength : (before.reverse ++ p :: after).length = q.children.length := by
            simp
            omega
          have hup : (⟨p, ⟨q.shell, before, after⟩ :: path, r⟩ : Cursor).up =
              .ok (some ⟨q.refill (before.reverse ++ p :: after), path, r⟩) := by
            simp [up, Frame.rebuild, Plan.withChildren_shell hlength]
          have hdown : (⟨q.refill (before.reverse ++ p :: after), path, r⟩ : Cursor).down
              before.length = some ⟨p, ⟨q.shell, before, after⟩ :: path, r⟩ := by
            have hdrop : (before.reverse ++ p :: after).drop (before.length + 1) = after := by
              simp [List.drop_append]
            simp [down, Plan.children_refill _ _ hlength, Plan.shell_refill hlength, hdrop]
          have hq (l : Link) (i : Plan) : q.refill (before.reverse ++ p :: after) ≠ l.wrap i := by
            intro hl
            obtain ⟨l', i', hl'⟩ := exists_of_refill _ _ _ hl
            exact hq l' i' hl'
          rw [climb]
          simp only [position?, List.head?_cons, Option.map_some, hup, ok_bind]
          split
          · next input e s hnode => exact absurd hnode (hq (.select (some e) s) input)
          · next input s hnode => exact absurd hnode (hq (.select none s) input)
          · next input ks s hnode => exact absurd hnode (hq (.orderBy ks s) input)
          · next name input s hnode => exact absurd hnode (hq (.aliased name s) input)
          · simp [hdown]

theorem climb_links {path : List Frame} (h : Stops path) (links : List Link) {n : Nat}
    (hn : links.length ≤ n) (k : KeyFields) (levels : Nat) (taken : List Expr) (p : Plan) (r : Bool) :
    climb n k ⟨levels, taken, ⟨p, links.map frame ++ path, r⟩⟩ =
      .ok ⟨levels + (splitAll k links).1.length, taken ++ (splitAll k links).2,
        ⟨wrapAll (splitAll k links).1 p, path, r⟩⟩ := by
  induction links generalizing n k levels taken p with
  | nil => simpa [splitAll] using climb_stops h n k levels taken p r
  | cons l links ih =>
      obtain ⟨n, rfl⟩ : ∃ m, n = m + 1 := ⟨n - 1, by simp at hn; omega⟩
      rw [List.map_cons, List.cons_append, climb_link, ih (by simpa using hn)]
      simp [splitAll, wrapAll_append, Nat.add_assoc]

def selected (es : List Expr) (p : Plan) : Plan :=
  match Expr.andAll es with
  | some e => .select p (some e) none
  | none => p

theorem pushKeyPredicates_links {path : List Frame} (h : Stops path) (links : List Link)
    (k : KeyFields) (p : Plan) (r : Bool) :
    (⟨p, links.map frame ++ path, r⟩ : Cursor).pushKeyPredicates k =
      .ok ⟨selected (splitAll k links).2 p, (splitAll k links).1.map frame ++ path, r⟩ := by
  rw [pushKeyPredicates, climb_links h links (by simp [depth]), ok_bind]
  simp only [Nat.zero_add, List.nil_append, downFirst_wrapAll, selected]
  cases Expr.andAll (splitAll k links).2 <;> rfl

end Cursor

namespace Document

open Link Cursor

def decoding (es : List Expr) : Plan :=
  .tableFunction decodeFunction [.relation (selected es (.tableFunction keysFunction [] none))] none

/-- What a chain over a load of documents becomes. -/
def pushed (links : List Link) : Plan :=
  let (kept, taken) := splitAll (KeyFields.ofRelation relationName keyNames) links
  wrapAll kept (decoding taken)

/-- In place of a load, the walk goes on at the leaves of what its chain becomes. -/
theorem evaluate_links {path : List Frame} (h : Stops path) (links : List Link) (p : Plan) :
    evaluate ⟨p, links.map frame ++ path, false⟩ =
      .ok (⟨pushed links, path, false⟩ : Cursor).leftmostDescendant := by
  rw [evaluate, replace, pushKeyPredicates_links h, ok_bind, leftmostDescendant, leftmostDescendant,
    pushed, descendLeftmost_wrapAll]
  rfl

end Document

end QueryEngine
