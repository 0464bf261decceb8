import QueryEngine.Function.Basic

namespace QueryEngine.Flatten

/-- Where the field stands, the names of the nested fields if it holds records, and the schema of
the result. -/
structure Layout where
  position : Nat
  nested : Option (List String)
  schema : Schema

def splice {α : Type} (xs : List α) (i : Nat) (new : List α) : List α :=
  xs.take i ++ new ++ xs.drop (i + 1)

def spreadField (field nested : Field) : Field :=
  { nested with name := field.name ++ "_" ++ nested.name, schemaName := field.schemaName }

def layout (input : Schema) (path : Value) : Except Error Layout :=
  match path with
  | .string path => do
    let (position, field) ← input.resolve path
    if field.mode ≠ .repeated then
      .error (.execution (.flattenNotRepeated path))
    else if field.type = .record then
      let columns := field.fields.map (spreadField field)
      return ⟨position, some (field.fields.map (·.name)),
        { input with fields := splice input.fields position columns }⟩
    else
      return ⟨position, none,
        { input with fields := splice input.fields position [{ field with mode := .nullable }] }⟩
  | path => .error (.execution (.flattenPath path))

def columns (nested : Option (List String)) (element : Value) : List Value :=
  match nested, element with
  | some names, .record fields => names.map fun name => Value.fieldOrNull name fields
  | some names, _ => names.map fun _ => .null
  | none, element => [element]

/-- One row per element of the list at the position, none unless there is a list. -/
def flattenRow (position : Nat) (nested : Option (List String)) (row : Row) : List Row :=
  match row[position]? with
  | some (.list elements) => elements.map fun e => splice row position (columns nested e)
  | _ => []

end Flatten

open Flatten in
def TableFunction.flatten : TableFunction where
  name := "flatten"
  schema args :=
    match args with
    | [.relation input, .constant path] => (layout input path).map (·.schema)
    | _ => .error (.execution .flattenArguments)
  invoke args :=
    match args with
    | [.relation input, .constant path] => do
      let l ← layout input.schema path
      let rows ← input.start ()
      return rows.flatMap (flattenRow l.position l.nested)
    | _ => .error (.internal .flattenArguments)

end QueryEngine
