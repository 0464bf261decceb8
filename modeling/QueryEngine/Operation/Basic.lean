import QueryEngine.Error
import QueryEngine.Regex.Like
import QueryEngine.Value.Order

namespace QueryEngine.Operation

def compareWith (op : BinaryOp) (a b : Value) : Value :=
  if a.isNull || b.isNull then .null
  else
    .boolean <|
      match op with
      | .lt => a.cmp b == .lt
      | .le => a.cmp b != .gt
      | .gt => a.cmp b == .gt
      | _ => a.cmp b != .lt

def contains (needle haystack : Value) : Except Error Value :=
  if needle.isNull then .ok .null
  else
    match haystack with
    | .list vs => .ok (.boolean (vs.any (·.same needle)))
    | .null => .ok .null
    | v => .error (.execution (.notAList v))

def truth (v : Value) : Except Error (Option Bool) :=
  match v with
  | .boolean b => .ok (some b)
  | .null => .ok none
  | v => .error (.execution (.notABoolean v))

def ofTruth : Option Bool → Value
  | some b => .boolean b
  | none => .null

def andTruth : Option Bool → Option Bool → Option Bool
  | some false, _ | _, some false => some false
  | some true, some true => some true
  | _, _ => none

def orTruth : Option Bool → Option Bool → Option Bool
  | some true, _ | _, some true => some true
  | some false, some false => some false
  | _, _ => none

/-- A connective on the truths of two values; both have to be truths or NULL. -/
def logic (connective : Option Bool → Option Bool → Option Bool) (a b : Value) :
    Except Error Value := do
  let x ← truth a
  let y ← truth b
  return ofTruth (connective x y)

def checked? (n : Int) : Option Int64 :=
  if Number.inInt64 n then some (Int64.ofInt n) else none

def integerArithmetic (op : BinaryOp) (a b : Int64) : Except Error Value :=
  let finish (n : Int) : Except Error Value :=
    match checked? n with
    | some i => .ok (.integer i)
    | none => .error (.execution (.overflow op a b))
  match op with
  | .plus => finish (a.toInt + b.toInt)
  | .minus => finish (a.toInt - b.toInt)
  | .times => finish (a.toInt * b.toInt)
  | _ =>
    if b = 0 then .error (.execution .divisionByZero)
    else finish (a.toInt.tdiv b.toInt)

def floatArithmetic (op : BinaryOp) (x y : Binary64) : Except Error Value :=
  match op with
  | .plus => .ok (.float (x + y))
  | .minus => .ok (.float (x - y))
  | .times => .ok (.float (x * y))
  | _ => if y.isZero then .error (.execution .divisionByZero) else .ok (.float (x / y))

/-- Integers stay integers, mixed numbers become floats, and `+` also joins strings. -/
def arithmetic (op : BinaryOp) (a b : Value) : Except Error Value :=
  match a, b with
  | .null, _ => .ok .null
  | _, .null => .ok .null
  | .integer i, .integer j => integerArithmetic op i j
  | a, b =>
    match op, a.toString?, b.toString? with
    | .plus, some s, some t => .ok (.string (s ++ t))
    | _, _, _ =>
      match a.toFloat?, b.toFloat? with
      | some x, some y => floatArithmetic op x y
      | _, _ => .error (.execution (.unsupportedOperands op a b))

def patternText (v : Value) : Except Error (Option String) :=
  match v with
  | .null => .ok none
  | .string s => .ok (some s)
  | v => .error (.execution (.patternNotAString v))

def compilePattern (op : BinaryOp) (pattern : String) : Except Error Regex :=
  let regex? := match op with
    | .like | .notLike => Regex.like? pattern
    | _ => Regex.read? pattern
  match regex? with
  | some r => .ok r
  | none => .error .regex

def matchPattern (op : BinaryOp) (v : Value) (r : Regex) : Except Error Value :=
  match v with
  | .null => .ok .null
  | .string s =>
    match op with
    | .notLike | .notRlike => .ok (.boolean (!r.isMatch s))
    | _ => .ok (.boolean (r.isMatch s))
  | v => .error (.execution (.subjectNotAString op v))

/-- The pattern is looked at before the value. -/
def matchWith (op : BinaryOp) (a b : Value) : Except Error Value := do
  match ← patternText b with
  | none => return .null
  | some pattern => matchPattern op a (← compilePattern op pattern)

def binary (op : BinaryOp) (a b : Value) : Except Error Value :=
  match op with
  | .eq | .is => .ok (.boolean (a.same b))
  | .ne | .isNot => .ok (.boolean (!a.same b))
  | .lt | .le | .gt | .ge => .ok (compareWith op a b)
  | .mem => contains a b
  | .like | .notLike | .rlike | .notRlike | .regexp => matchWith op a b
  | .plus | .minus | .times | .divide => arithmetic op a b
  | .and => logic andTruth a b
  | .or => logic orTruth a b

def negate (v : Value) : Except Error Value :=
  match v with
  | .null => .ok .null
  | .integer i =>
    match checked? (-i.toInt) with
    | some n => .ok (.integer n)
    | none => .error (.execution (.negationOverflow i))
  | .float x => .ok (.float (-x))
  | v => .error (.execution (.cannotNegate v))

def unary (op : UnaryOp) (v : Value) : Except Error Value :=
  match op with
  | .asc | .desc => .error (.execution (.sortDirection op))
  | .neg => negate v
  | .not => do return ofTruth ((← truth v).map (!·))

/-- An element of a list by position or of a record by name, NULL when there is none. -/
def itemGet (v key : Value) : Except Error Value :=
  match v, key with
  | .null, _ => .ok .null
  | .list vs, .integer i =>
    if 0 ≤ i then .ok (vs.getD i.toInt.toNat .null) else .ok .null
  | .record fields, .string name => .ok (Value.fieldOrNull name fields)
  | v, key => .error (.execution (.cannotIndex v key))

end QueryEngine.Operation
