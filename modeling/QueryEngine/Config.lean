namespace QueryEngine

structure Config where
  /-- The bytes that a join may buffer, split evenly between both sides. -/
  joinBufferSize : Nat := 10 * 1024 * 1024
  forceNestedBlockJoin : Bool := false
deriving DecidableEq, Repr, Inhabited

def Config.sideBudget (c : Config) : Nat :=
  max (c.joinBufferSize / 2) 1

end QueryEngine
