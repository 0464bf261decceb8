import QueryEngine.Expr.Operator
import QueryEngine.Value.Display

namespace QueryEngine

open Text

inductive AdapterFault where
  | rowTooLong (row : Nat) (table : String) (values fields : Nat)
  | noSource (relation : String)

namespace AdapterFault

def message : AdapterFault → String
  | rowTooLong row table values fields =>
    s!"row {row} of '{table}' has {values} values, schema has {fields} fields"
  | noSource relation => s!"relation '{relation}' has no source"

end AdapterFault

inductive PlanFault where
  | unionArity (left right : Nat)
  | groupByAggregate (path : String)
  | sortDirection (op : UnaryOp)
  | star (qualifier : Option String)
  | custom (text : String)

namespace PlanFault

def message : PlanFault → String
  | unionArity left right => s!"UnionAll inputs have {left} and {right} fields"
  | groupByAggregate path => s!"cannot group by aggregate '{path}'"
  | sortDirection op => "'" ++ op.symbol ++ "' is only allowed on ORDER BY keys"
  | star qualifier =>
    "'" ++ qualify qualifier "*" ++ "' is only allowed as a projection expression"
  | custom text => text

end PlanFault

inductive ExecutionFault where
  | sortDirection (op : UnaryOp)
  | negationOverflow (i : Int64)
  | cannotNegate (v : Value)
  | notAList (v : Value)
  | notABoolean (v : Value)
  | divisionByZero
  | overflow (op : BinaryOp) (a b : Int64)
  | unsupportedOperands (op : BinaryOp) (a b : Value)
  | patternNotAString (v : Value)
  | subjectNotAString (op : BinaryOp) (v : Value)
  | cannotIndex (v key : Value)
  | cannotCast (v : Value) (type : DataType)
  | missingParameter (index given : Nat)
  | aggregateInScalar (name : String)
  | missingArgument (name : String)
  | flattenArguments
  | flattenPath (v : Value)
  | flattenNotRepeated (path : String)
  | decodeArguments
  | noDocument (path : Value)
  | custom (text : String)

namespace ExecutionFault

def message : ExecutionFault → String
  | sortDirection op => "sort direction " ++ op.symbol ++ " outside of ORDER BY"
  | negationOverflow i => s!"integer overflow negating {i}"
  | cannotNegate v => "can't negate " ++ v.display
  | notAList v => "IN requires a list, got " ++ v.display
  | notABoolean v => "expected a boolean, got " ++ v.display
  | divisionByZero => "division by zero"
  | overflow op a b =>
    "integer overflow evaluating " ++ toString a ++ " " ++ op.symbol ++ " " ++ toString b
  | unsupportedOperands op a b =>
    "unsupported operands for " ++ op.symbol ++ ": " ++ a.display ++ ", " ++ b.display
  | patternNotAString v => "pattern must be a string, got " ++ v.display
  | subjectNotAString op v => op.symbol ++ " requires a string, got " ++ v.display
  | cannotIndex v key => "can't index " ++ v.display ++ " with " ++ key.display
  | cannotCast v type => "can't cast " ++ v.display ++ " to " ++ type.name
  | missingParameter index given => s!"missing query parameter {index}, {given} given"
  | aggregateInScalar name => s!"aggregate '{name}' is not allowed in a scalar expression"
  | missingArgument name => s!"'{name}' requires at least one argument"
  | flattenArguments => "flatten expects a relation and a field name"
  | flattenPath v => "flatten expects a field name, got " ++ v.display
  | flattenNotRepeated path => s!"Can not flatten non-repeating field {path}"
  | decodeArguments => "doc_decode expects a key relation"
  | noDocument path => "no document at " ++ path.display
  | custom text => text

end ExecutionFault

inductive InternalFault where
  | unresolved (kind : String)
  | childCount (kind : String) (expected got : Nat)
  | placeholderResolved
  | placeholderCompiled
  | groupedInput (kind : String)
  | projectionPosition (position : Nat)
  | starPlanned
  | columnOutOfBounds (index width : Nat)
  | joinKeyOutOfBounds (index width : Nat)
  | averageState (v : Value)
  | averageCount (v : Value)
  | flattenArguments
  | endlessWalk
  | custom (text : String)

namespace InternalFault

def message : InternalFault → String
  | unresolved kind => s!"{kind} has no resolved schema"
  | childCount kind expected got => s!"{kind} expects {expected} children, got {got}"
  | placeholderResolved => "cannot resolve a placeholder"
  | placeholderCompiled => "cannot compile a placeholder"
  | groupedInput kind => s!"GroupBy input must be a Projection, got {kind}"
  | projectionPosition position => s!"projection has no output position {position}"
  | starPlanned => "'*' must be expanded before planning"
  | columnOutOfBounds index width => s!"column {index} out of bounds for row of {width}"
  | joinKeyOutOfBounds index width => s!"join key {index} out of bounds for row of {width}"
  | averageState v => "invalid avg state: " ++ v.display
  | averageCount v => "invalid avg count: Some(" ++ v.inspect ++ ")"
  | flattenArguments => "flatten invoked with unresolved arguments"
  | endlessWalk => "the walk over the plan did not end"
  | custom text => text

end InternalFault

inductive Error where
  | fieldNotFound (path : String) (suggestion : Option String)
  | ambiguousField (path : String) (candidates : List String)
  | typeMismatch (left right : DataType)
  | functionNotFound (name : String)
  | aggregateNotFound (name : String)
  | relationNotFound (name : String)
  | adapter (adapter : String) (fault : AdapterFault)
  | invalidPlan (fault : PlanFault)
  | execution (fault : ExecutionFault)
  | regex
  | internal (fault : InternalFault)

inductive ErrorKind where
  | fieldNotFound | ambiguousField | typeMismatch | functionNotFound | aggregateNotFound
  | relationNotFound | adapter | invalidPlan | execution | regex | internal
deriving DecidableEq, Repr

namespace ErrorKind

def name : ErrorKind → String
  | fieldNotFound => "FieldNotFound"
  | ambiguousField => "AmbiguousField"
  | typeMismatch => "TypeMismatch"
  | functionNotFound => "FunctionNotFound"
  | aggregateNotFound => "AggregateNotFound"
  | relationNotFound => "RelationNotFound"
  | adapter => "Adapter"
  | invalidPlan => "InvalidPlan"
  | execution => "Execution"
  | regex => "Regex"
  | internal => "Internal"

end ErrorKind

namespace Error

def kind : Error → ErrorKind
  | fieldNotFound _ _ => .fieldNotFound
  | ambiguousField _ _ => .ambiguousField
  | typeMismatch _ _ => .typeMismatch
  | functionNotFound _ => .functionNotFound
  | aggregateNotFound _ => .aggregateNotFound
  | relationNotFound _ => .relationNotFound
  | adapter _ _ => .adapter
  | invalidPlan _ => .invalidPlan
  | execution _ => .execution
  | regex => .regex
  | internal _ => .internal

def message : Error → String
  | fieldNotFound path none => s!"Missing field '{path}'"
  | fieldNotFound path (some s) => s!"Missing field '{path}', did you mean '{s}'?"
  | ambiguousField path candidates =>
    s!"Ambiguous field '{path}', candidates: " ++ commaSeparated candidates
  | typeMismatch left right => "Can't coerce " ++ left.name ++ " to " ++ right.name
  | functionNotFound name => s!"Missing function '{name}'"
  | aggregateNotFound name => s!"Missing aggregate '{name}'"
  | relationNotFound name => s!"Missing relation '{name}'"
  | adapter name fault => s!"adapter '{name}': " ++ fault.message
  | invalidPlan fault => "invalid plan: " ++ fault.message
  | execution fault => "execution: " ++ fault.message
  | regex => "invalid regular expression"
  | internal fault => "internal: " ++ fault.message

end Error

end QueryEngine
