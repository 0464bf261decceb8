import QueryEngine.Adapter.Basic
import QueryEngine.Assoc
import QueryEngine.Function.Registry

namespace QueryEngine

structure Dataset where
  adapters : List Adapter := []
  views : Assoc Plan := []
  functions : FunctionRegistry := {}
  config : Config := {}

namespace Dataset

def withBuiltins : Dataset :=
  { functions := FunctionRegistry.builtins }

def addAdapter (d : Dataset) (a : Adapter) : Dataset :=
  { d with adapters := d.adapters ++ [a] }

def adapterFor? (d : Dataset) (name : String) : Option Adapter :=
  d.adapters.find? (·.has name)

def view? (d : Dataset) (name : String) : Option Plan :=
  d.views.get? name

def hasView (d : Dataset) (name : String) : Bool :=
  d.views.contains name

def insertView (d : Dataset) (name : String) (p : Plan) : Dataset :=
  { d with views := d.views.insert name p }

def dropView (d : Dataset) (name : String) : Dataset :=
  { d with views := d.views.erase name }

def unseen : List String → List (String × Schema) → List (String × Schema)
  | _, [] => []
  | seen, (name, s) :: rest =>
    if seen.contains name then unseen seen rest else (name, s) :: unseen (name :: seen) rest

/-- All views, by name, and then all relations that they do not hide. -/
def relations (d : Dataset) : List (String × Schema) :=
  let views := d.views.sorted.filterMap fun (name, p) => p.schema?.map (name, ·)
  views ++ unseen (views.map (·.1)) (d.adapters.flatMap (·.relations))

def schema (d : Dataset) (name : String) : Except Error Schema :=
  match d.view? name with
  | some p => p.outputSchema
  | none =>
    match (d.adapterFor? name).bind (·.schema? name) with
    | some s => .ok s
    | none => .error (.relationNotFound name)

def relation (d : Dataset) (name : String) : Except Error Relation :=
  match d.adapterFor? name with
  | none => .error (.relationNotFound name)
  | some a =>
    match a.relation? name with
    | some r => .ok r
    | none => .error (.adapter a.name (.noSource name))

end Dataset

end QueryEngine
