import QueryEngine.Plan.Cursor

namespace QueryEngine

/-- A change of plans at cursor positions. A rule that moves the cursor comes back to where it was,
or asks for a visit of the subtree it has moved into. -/
structure Rule (m : Type → Type) where
  applies : Cursor → Bool
  transform : Cursor → m Cursor

namespace Walk

variable {m : Type → Type} [Monad m] [MonadExceptOf Error m]

def lift {α : Type} : Except Error α → m α
  | .ok a => pure a
  | .error e => throw e

/-- Apply the `pending` rules at the cursor, then go on to the next position with all rules. After
a rule that has repositioned the cursor, all rules start over. Gives the cursor at the root in the
end, or `none` if that takes more than `fuel` steps. -/
def run (rules : List (Rule m)) : Nat → List (Rule m) → Cursor → m (Option Cursor)
  | 0, _, _ => pure none
  | fuel + 1, [], c => do
    match ← lift c.next with
    | some c' => run rules fuel rules c'
    | none => pure (some c)
  | fuel + 1, rule :: pending, c =>
    if rule.applies c then do
      let c' ← rule.transform c
      if c'.repositioned then run rules fuel rules { c' with repositioned := false }
      else run rules fuel pending c'
    else run rules fuel pending c

theorem run_next [LawfulMonad m] {rules : List (Rule m)} {c c' : Cursor}
    (h : c.next = .ok (some c')) (fuel : Nat) :
    run rules (1 + fuel) [] c = run rules fuel rules c' := by
  simp [Nat.add_comm 1, run, h, lift]

end Walk

def walk {m : Type → Type} [Monad m] [MonadExceptOf Error m] (fuel : Nat) (rules : List (Rule m))
    (root : Plan) : m Plan := do
  match ← Walk.run rules fuel rules (Cursor.ofPlan root).descendLeftmost with
  | some c => Walk.lift c.toPlan
  | none => throw (.internal .endlessWalk)

end QueryEngine
