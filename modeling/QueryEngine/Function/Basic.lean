import QueryEngine.Rows.Basic
import QueryEngine.Schema.Basic

namespace QueryEngine

inductive ReturnField where
  | fixed (field : Field)
  | firstArgument (name : String)

def ReturnField.resolve (r : ReturnField) (args : List Field) : Except Error Field :=
  match r with
  | fixed field => .ok field
  | firstArgument name =>
    match args with
    | arg :: _ => .ok { name, type := arg.type }
    | [] => .error (.execution (.missingArgument name))

structure ScalarFunction where
  name : String
  /-- The field of the results, from the fields of the arguments. -/
  returns : List Field → Except Error Field
  invoke : List Value → Except Error Value

def ScalarFunction.simple (name : String) (returns : ReturnField)
    (invoke : List Value → Except Error Value) : ScalarFunction :=
  { name, returns := returns.resolve, invoke }

/-- A fold over the rows of a group: a state before any row, the argument values of a row combined
into it, and the result of the last state. -/
structure Aggregate where
  name : String
  returns : ReturnField
  initial : Value
  combine : Value → List Value → Except Error Value
  finalize : Value → Except Error Value := .ok

inductive TableArg (α : Type) where
  | constant (v : Value)
  | relation (r : α)

structure InputRelation where
  schema : Schema
  start : Unit → Except Error Rows

/-- A function from constants and relations to a relation. Its schema is found before it runs. -/
structure TableFunction where
  name : String
  schema : List (TableArg Schema) → Except Error Schema
  invoke : List (TableArg InputRelation) → Except Error Rows

end QueryEngine
