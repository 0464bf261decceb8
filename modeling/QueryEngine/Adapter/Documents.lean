import QueryEngine.Adapter.Basic
import QueryEngine.Function.Registry
import QueryEngine.Plan.Pushdown

namespace QueryEngine

structure Document where
  path : String
  year : String
  title : String
  size : Int64

def Document.of (year name title : String) (size : Int64) : Document :=
  ⟨year ++ "/" ++ name ++ ".json", year, title, size⟩

namespace Document

def row (d : Document) : Row :=
  [.string d.path, .string d.year, .string d.title, .integer d.size]

def keyRow (d : Document) : Row :=
  [.string d.path, .string d.year]

def relationName : String := "docs"

def keysFunction : String := "doc_keys"

def decodeFunction : String := "doc_decode"

def keyNames : List String := ["path", "year"]

def keyFields : List Field :=
  keyNames.map fun name => { name, type := .string, mode := .required }

def fields : List Field :=
  keyFields ++ [{ name := "title", type := .string }, { name := "size", type := .integer }]

def keySchema : Schema := ⟨some relationName, keyFields⟩

def schema : Schema := ⟨some relationName, fields⟩

def decode (docs : List Document) (key : Row) : Except Error Row :=
  let path := key.headD .null
  match docs.find? fun d => path.toString? = some d.path with
  | some d => .ok d.row
  | none => .error (.execution (.noDocument path))

def listKeys (docs : List Document) : TableFunction where
  name := keysFunction
  schema _ := .ok keySchema
  invoke _ := .ok (.ofRows (docs.map keyRow))

def decodeKeys (docs : List Document) : TableFunction where
  name := decodeFunction
  schema args :=
    match args with
    | [.relation _] => .ok schema
    | _ => .error (.execution .decodeArguments)
  invoke args :=
    match args with
    | [.relation keys] => do return (← keys.start ()).decodeRows (decode docs)
    | _ => .error (.execution .decodeArguments)

def register (docs : List Document) (r : FunctionRegistry) : FunctionRegistry :=
  (r.addTable (listKeys docs)).addTable (decodeKeys docs)

/-- Put the decoding of keys in place of a load, with the key predicates from above moved onto
the keys. -/
def evaluate (c : Cursor) : Except Error Cursor := do
  let c ← (c.replace (.tableFunction keysFunction [] none)).pushKeyPredicates
    (KeyFields.ofRelation relationName keyNames)
  return (c.replace (.tableFunction decodeFunction [.relation c.node] none)).leftmostDescendant

def adapter : Adapter where
  name := "documents"
  relations := [(relationName, schema)]
  schema? name := if name = relationName then some schema else none
  relation? _ := none
  evaluate := evaluate

end Document

end QueryEngine
