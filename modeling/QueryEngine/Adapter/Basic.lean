import QueryEngine.Physical.Basic
import QueryEngine.Plan.Walk

namespace QueryEngine

structure Relation where
  schema : Schema
  source : RecordSource

structure Adapter where
  name : String
  relations : List (String × Schema)
  schema? : String → Option Schema
  relation? : String → Option Relation
  /-- Replace the load in focus, or keep it. A cursor that moves into a new subtree has to ask
  for a visit. -/
  evaluate : Cursor → Except Error Cursor := .ok

def Adapter.has (a : Adapter) (name : String) : Bool :=
  (a.schema? name).isSome

end QueryEngine
