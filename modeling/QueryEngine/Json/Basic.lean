import QueryEngine.Config
import QueryEngine.Schema.Field

namespace QueryEngine

inductive Json where
  | null
  | bool (b : Bool)
  | integer (n : Int)
  | fraction
  | string (s : String)
  | array (items : List Json)
  | object (members : List (String × Json))
deriving Inhabited

namespace Json

/-- The members of a record by name, or by position. More items than names are refused. -/
def members? (names : List String) : Json → Option (List (Option Json))
  | object ms => some (names.map fun n => (ms.find? (·.1 = n)).map (·.2))
  | array items =>
    if names.length < items.length then none
    else some ((List.range names.length).map fun i => items[i]?)
  | _ => none

/-- The name of a constant: a string, or an object with that one name and null. -/
def constant? : Json → Option String
  | string s => some s
  | object [(s, null)] => some s
  | _ => none

def string? : Json → Option String
  | string s => some s
  | _ => none

def orDefault {α : Type} (default : α) (read : Json → Option α) : Option Json → Option α
  | some j => read j
  | none => some default

def optionalString? : Json → Option (Option String)
  | null => some none
  | string s => some (some s)
  | _ => none

def nat? : Json → Option Nat
  | integer n => if 0 ≤ n ∧ n < 0x10000000000000000 then some n.toNat else none
  | _ => none

def bool? : Json → Option Bool
  | bool b => some b
  | _ => none

end Json

namespace Field

def memberNames : List String := ["name", "type", "mode", "fields", "schema_name"]

/-- Read a field whose nested fields nest at most `depth` deep. -/
def ofJsonWithin? : Nat → Json → Option Field
  | 0, _ => none
  | depth + 1, j => do
    match ← j.members? memberNames with
    | [name, type, mode, fields, schemaName] =>
      let name ← (← name).string?
      let type ← DataType.ofName? (← (← type).constant?)
      let mode ← Json.orDefault FieldMode.nullable
        (fun j => j.constant?.bind FieldMode.ofName?) mode
      let fields ← Json.orDefault []
        (fun j => match j with
          | .array items => items.mapM (ofJsonWithin? depth)
          | _ => none) fields
      let schemaName ← Json.orDefault none Json.optionalString? schemaName
      return { name, type, mode, fields, schemaName }
    | _ => none

end Field

mutual

def Json.depth : Json → Nat
  | .array items => Json.depthList items + 1
  | .object ms => Json.depthMembers ms + 1
  | _ => 1

def Json.depthList : List Json → Nat
  | [] => 0
  | j :: js => max j.depth (Json.depthList js)

def Json.depthMembers : List (String × Json) → Nat
  | [] => 0
  | (_, j) :: ms => max j.depth (Json.depthMembers ms)

end

def Field.ofJson? (j : Json) : Option Field :=
  Field.ofJsonWithin? j.depth j

mutual

/-- The owner of a field is not written. -/
def Field.toJson : Field → Json
  | ⟨name, type, mode, fields, _⟩ =>
    .object [("name", .string name), ("type", .string type.name), ("mode", .string mode.name),
      ("fields", .array (Field.toJsonList fields))]

def Field.toJsonList : List Field → List Json
  | [] => []
  | f :: fs => f.toJson :: Field.toJsonList fs

end

def Config.ofJson? (j : Json) : Option Config := do
  match ← j.members? ["join_buffer_size", "force_nested_block_join"] with
  | [size, force] =>
    let joinBufferSize ← Json.orDefault ({} : Config).joinBufferSize Json.nat? size
    let forceNestedBlockJoin ← Json.orDefault false Json.bool? force
    return { joinBufferSize, forceNestedBlockJoin }
  | _ => none

end QueryEngine
