import QueryEngine.Adapter.Basic
import QueryEngine.Assoc

namespace QueryEngine

structure MemoryTable where
  schema : Schema
  rows : List Row

structure MemoryStore where
  name : String
  tables : Assoc MemoryTable := []

namespace MemoryStore

def missingValue (f : Field) : Value :=
  match f.mode with
  | .repeated => .list []
  | _ => .null

def fillRow (fields : List Field) (row : Row) : Row :=
  row ++ (fields.drop row.length).map missingValue

/-- Rows, counted from `i`, filled up to the fields; none may be longer than those. -/
def fillRows (store table : String) (fields : List Field) :
    Nat → List Row → Except Error (List Row)
  | _, [] => .ok []
  | i, row :: rows => do
    if fields.length < row.length then
      .error (.adapter store (.rowTooLong i table row.length fields.length))
    return fillRow fields row :: (← fillRows store table fields (i + 1) rows)

def addTable (m : MemoryStore) (table : String) (fields : List Field) (rows : List Row) :
    Except Error MemoryStore := do
  let rows ← fillRows m.name table fields 0 rows
  return { m with tables := m.tables.insert table ⟨⟨some table, fields⟩, rows⟩ }

def adapter (m : MemoryStore) : Adapter where
  name := m.name
  relations := m.tables.sorted.map fun (name, t) => (name, t.schema)
  schema? name := (m.tables.get? name).map (·.schema)
  relation? name := (m.tables.get? name).map fun t => ⟨t.schema, ⟨.ok (.ofRows t.rows)⟩⟩

end MemoryStore

end QueryEngine
