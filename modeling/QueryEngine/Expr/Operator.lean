import QueryEngine.Text

namespace QueryEngine

/-- `asc` and `desc` mark the direction of a sort key and have no value. -/
inductive UnaryOp where
  | neg | not | asc | desc
deriving DecidableEq, Repr

namespace UnaryOp

def symbol : UnaryOp → String
  | neg => "-"
  | not => "NOT"
  | asc => "ASC"
  | desc => "DESC"

end UnaryOp

inductive BinaryOp where
  | lt | le | eq | ne | ge | gt
  | is | isNot
  | like | notLike | rlike | notRlike | regexp
  | mem
  | plus | minus | times | divide
  | and | or
deriving DecidableEq, Repr

namespace BinaryOp

def symbol : BinaryOp → String
  | lt => "<"
  | le => "<="
  | eq => "="
  | ne => "!="
  | ge => ">="
  | gt => ">"
  | is => "IS"
  | isNot => "IS NOT"
  | like => "LIKE"
  | notLike => "NOT LIKE"
  | rlike => "RLIKE"
  | notRlike => "NOT RLIKE"
  | regexp => "REGEXP"
  | mem => "IN"
  | plus => "+"
  | minus => "-"
  | times => "*"
  | divide => "/"
  | and => "AND"
  | or => "OR"

def ofSymbol? (s : String) : Option BinaryOp :=
  match Text.asciiLower s with
  | "<" => some lt
  | "<=" => some le
  | "=" => some eq
  | "!=" | "<>" => some ne
  | ">=" => some ge
  | ">" => some gt
  | "is" => some is
  | "is not" => some isNot
  | "like" => some like
  | "not like" => some notLike
  | "rlike" => some rlike
  | "not rlike" => some notRlike
  | "regexp" => some regexp
  | "in" => some mem
  | "+" => some plus
  | "-" => some minus
  | "*" => some times
  | "/" => some divide
  | "and" => some and
  | "or" => some or
  | _ => none

def isArithmetic : BinaryOp → Bool
  | plus | minus | times | divide => true
  | _ => false

def isLogical : BinaryOp → Bool
  | and | or => true
  | _ => false

def isComparison (op : BinaryOp) : Bool :=
  !op.isArithmetic && !op.isLogical

def isPatternMatch : BinaryOp → Bool
  | like | notLike | rlike | notRlike | regexp => true
  | _ => false

end BinaryOp

end QueryEngine
