import QueryEngine.Plan.Basic

namespace QueryEngine

/-- A node above the focus: the node with holes for children, the siblings before the entered
child, nearest first, and those after it. -/
structure Frame where
  parent : Plan
  before : List Plan
  after : List Plan

def Frame.rebuild (f : Frame) (node : Plan) : Except Error Plan :=
  f.parent.withChildren (f.before.reverse ++ node :: f.after)

structure Cursor where
  node : Plan
  path : List Frame := []
  /-- Set when a rule has moved the cursor into a subtree that is still to be visited. -/
  repositioned : Bool := false

namespace Cursor

def ofPlan (p : Plan) : Cursor :=
  { node := p }

def depth (c : Cursor) : Nat :=
  c.path.length

def position? (c : Cursor) : Option Nat :=
  c.path.head?.map (·.before.length)

def replace (c : Cursor) (node : Plan) : Cursor :=
  { c with node }

/-- Replace the focus by its image. Where that fails, a hole stays in focus. -/
def replaceWith (c : Cursor) (f : Plan → Except Error Plan) : Except Error Unit × Cursor :=
  match f c.node with
  | .ok node => (.ok (), c.replace node)
  | .error e => (.error e, c.replace .placeholder)

def up (c : Cursor) : Except Error (Option Cursor) :=
  match c.path with
  | [] => .ok none
  | f :: path => do
    let node ← f.rebuild c.node
    return some { c with node, path }

def down (c : Cursor) (i : Nat) : Option Cursor :=
  let children := c.node.children
  match children[i]? with
  | some node =>
    let frame := ⟨c.node.shell, (children.take i).reverse, children.drop (i + 1)⟩
    some { c with node, path := frame :: c.path }
  | none => none

def right (c : Cursor) : Option Cursor :=
  match c.path with
  | ⟨parent, before, node :: after⟩ :: path =>
    some { c with node, path := ⟨parent, c.node :: before, after⟩ :: path }
  | _ => none

def downFirst : Nat → Cursor → Cursor
  | 0, c => c
  | n + 1, c =>
    match c.down 0 with
    | some c' => downFirst n c'
    | none => c

def descendLeftmost (c : Cursor) : Cursor :=
  downFirst c.node.size c

/-- Move to the leftmost leaf and ask for a visit from there. -/
def leftmostDescendant (c : Cursor) : Cursor :=
  { c.descendLeftmost with repositioned := true }

/-- Advance in post-order, `none` once the root has been visited. -/
def next (c : Cursor) : Except Error (Option Cursor) :=
  match c.right with
  | some c' => .ok (some c'.descendLeftmost)
  | none => c.up

def rebuildAll : List Frame → Plan → Except Error Plan
  | [], node => .ok node
  | f :: path, node => do rebuildAll path (← f.rebuild node)

def toPlan (c : Cursor) : Except Error Plan :=
  rebuildAll c.path c.node

end Cursor

end QueryEngine
