import QueryEngine.Physical.Scalar
import QueryEngine.Rows.Basic

namespace QueryEngine

/-- A column of a grouped result: an expression on the first row of the group, or an aggregate
over all its rows. -/
inductive GroupOutput where
  | scalar (e : Scalar)
  | aggregate (a : Aggregate) (args : List Scalar)

namespace GroupOutput

def initial : GroupOutput → Value
  | scalar _ => .null
  | aggregate a _ => a.initial

variable (ctx : Context)

def combineAll (row : Row) : List GroupOutput → List Value → Except Error (List Value)
  | [], _ | _, [] => .ok []
  | scalar _ :: outputs, state :: states => do return state :: (← combineAll row outputs states)
  | aggregate a args :: outputs, state :: states => do
    let vs ← Scalar.evalList ctx row args
    let state' ← a.combine state vs
    return state' :: (← combineAll row outputs states)

def finish (first : Row) : List GroupOutput → List Value → Except Error Row
  | [], _ | _, [] => .ok []
  | scalar e :: outputs, _ :: states => do
    let v ← Scalar.eval ctx first e
    return v :: (← finish first outputs states)
  | aggregate a _ :: outputs, state :: states => do
    let v ← a.finalize state
    return v :: (← finish first outputs states)

end GroupOutput

structure OpenRun where
  key : List Value
  first : Row
  states : List Value

namespace OpenRun

variable (ctx : Context) (outputs : List GroupOutput)

def start (key : List Value) (row : Row) : Except Error OpenRun := do
  let states ← GroupOutput.combineAll ctx row outputs (outputs.map GroupOutput.initial)
  return ⟨key, row, states⟩

def add (g : OpenRun) (row : Row) : Except Error OpenRun := do
  let states ← GroupOutput.combineAll ctx row outputs g.states
  return { g with states }

def result (g : OpenRun) : Except Error Row :=
  GroupOutput.finish ctx g.first outputs g.states

end OpenRun

namespace Rows

variable (ctx : Context) (keys : List Scalar) (outputs : List GroupOutput)

/-- Aggregate runs of equal keys, given the run that is open. The first error ends everything,
and the open run with it. -/
def group : Option OpenRun → Rows → Rows
  | none, done => done
  | some g, done => ofStart ((g.result ctx outputs).map single)
  | _, item (.error e) _ => fail e
  | g, step n tail => step n fun _ => (tail ()).group g
  | none, item (.ok row) tail =>
    match (Scalar.evalList ctx row keys).bind fun key => OpenRun.start ctx outputs key row with
    | .error e => fail e
    | .ok g => step 0 fun _ => (tail ()).group (some g)
  | some g, item (.ok row) tail =>
    match Scalar.evalList ctx row keys with
    | .error e => fail e
    | .ok key =>
      if Value.sameList key g.key then
        match g.add ctx outputs row with
        | .error e => fail e
        | .ok g' => step 0 fun _ => (tail ()).group (some g')
      else
        match g.result ctx outputs with
        | .error e => fail e
        | .ok out =>
          item (.ok out) fun _ =>
            match OpenRun.start ctx outputs key row with
            | .error e => fail e
            | .ok g' => (tail ()).group (some g')

end Rows

end QueryEngine
