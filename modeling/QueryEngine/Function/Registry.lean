import QueryEngine.Assoc
import QueryEngine.Function.Aggregates
import QueryEngine.Function.Flatten
import QueryEngine.Unicode.Case

namespace QueryEngine

structure FunctionRegistry where
  scalars : Assoc ScalarFunction := []
  aggregates : Assoc Aggregate := []
  tables : Assoc TableFunction := []
deriving Inhabited

namespace FunctionRegistry

variable (r : FunctionRegistry)

def addScalar (f : ScalarFunction) : FunctionRegistry :=
  { r with scalars := r.scalars.insert (Unicode.lowercase f.name) f }

def addAggregate (a : Aggregate) : FunctionRegistry :=
  { r with aggregates := r.aggregates.insert (Unicode.lowercase a.name) a }

def addTable (f : TableFunction) : FunctionRegistry :=
  { r with tables := r.tables.insert (Unicode.lowercase f.name) f }

def builtins : FunctionRegistry :=
  (Aggregate.builtins.foldl addAggregate {}).addTable TableFunction.flatten

def isAggregate (name : String) : Bool :=
  r.aggregates.contains (Unicode.lowercase name)

def scalar (name : String) : Except Error ScalarFunction :=
  match r.scalars.get? (Unicode.lowercase name) with
  | some f => .ok f
  | none => .error (.functionNotFound name)

def aggregate (name : String) : Except Error Aggregate :=
  match r.aggregates.get? (Unicode.lowercase name) with
  | some a => .ok a
  | none => .error (.aggregateNotFound name)

def table (name : String) : Except Error TableFunction :=
  match r.tables.get? (Unicode.lowercase name) with
  | some f => .ok f
  | none => .error (.functionNotFound name)

end FunctionRegistry

end QueryEngine
