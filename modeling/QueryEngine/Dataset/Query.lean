import QueryEngine.Dataset.Basic
import QueryEngine.Physical.Compile

namespace QueryEngine

namespace Dataset

variable {m : Type → Type} [Monad m] [MonadExceptOf Error m]

def viewRule (d : Dataset) : Rule m where
  applies c :=
    match c.node with
    | .load name none => d.hasView name
    | _ => false
  transform c :=
    match c.node with
    | .load name _ =>
      match d.view? name with
      | some p => pure (c.replace p).leftmostDescendant
      | none => pure c
    | _ => pure c

def adapterRule (d : Dataset) : Rule m where
  applies c :=
    match c.node with
    | .load name none => name != "" && (d.adapterFor? name).isSome
    | _ => false
  transform c :=
    match c.node with
    | .load name _ =>
      match d.adapterFor? name with
      | some a => Walk.lift (a.evaluate c)
      | none => pure c
    | _ => pure c

def resolverRule (d : Dataset) : Rule m :=
  Typing.rule d.functions d.schema

/-- Substitute views, let adapters replace loads, and resolve all schemas, in one walk of at most
`steps` steps. -/
def resolveIn (d : Dataset) (steps : Nat) (p : Plan) : Except Error Plan :=
  walk steps [d.viewRule, d.adapterRule, d.resolverRule] p

/-- Enough steps where every load grows by no more than a view or the few nodes over a listing of
keys. Adapters may put larger plans in place, which take more. -/
def walkFuel (d : Dataset) (p : Plan) : Nat :=
  8 * (p.size + 1) * (d.views.foldr (fun v n => v.2.size + n) 8)

def resolve (d : Dataset) (p : Plan) : Except Error Plan :=
  d.resolveIn (d.walkFuel p) p

def createViewIn (d : Dataset) (steps : Nat) (name : String) (p : Plan) :
    Except Error Dataset := do
  return d.insertView name (← d.resolveIn steps p)

def createView (d : Dataset) (name : String) (p : Plan) : Except Error Dataset :=
  d.createViewIn (d.walkFuel p) name p

def compile (d : Dataset) (config : Config) (p : Plan) : Except Error Physical :=
  Physical.compile d.relation d.functions config p

end Dataset

structure Query where
  plan : Plan
  schema : Schema

namespace Query

def ofIn (d : Dataset) (steps : Nat) (p : Plan) : Except Error Query := do
  let plan ← d.resolveIn steps p
  return ⟨plan, ← plan.outputSchema⟩

def of (d : Dataset) (p : Plan) : Except Error Query :=
  ofIn d (d.walkFuel p) p

def executeWith (q : Query) (d : Dataset) (config : Config) (params : List Value) :
    Except Error Rows := do
  let plan ← d.compile config q.plan
  plan.execute { params, config }

def execute (q : Query) (d : Dataset) (params : List Value) : Except Error Rows :=
  q.executeWith d d.config params

end Query

end QueryEngine
