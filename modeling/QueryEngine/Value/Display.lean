import QueryEngine.Unicode.Core
import QueryEngine.Value.Basic

namespace QueryEngine.Value

open Text

mutual

def display : Value → String
  | null => "NULL"
  | boolean b => toString b
  | integer i => toString i
  | float x => x.display
  | string s => "'" ++ s ++ "'"
  | date d => d.display
  | datetime t => t.display
  | time t => t.display
  | list vs => "[" ++ commaSeparated (displayList vs) ++ "]"
  | record fields => "\x7b" ++ commaSeparated (displayFields fields) ++ "\x7d"

def displayList : List Value → List String
  | [] => []
  | v :: vs => v.display :: displayList vs

def displayFields : List (String × Value) → List String
  | [] => []
  | (name, v) :: fields => (name ++ ": " ++ v.display) :: displayFields fields

end

def hexText (n : Nat) : String :=
  String.ofList (Nat.toDigits 16 n)

def escapeChar (c : Char) : String :=
  if c = '\t' then "\\t"
  else if c = '\r' then "\\r"
  else if c = '\n' then "\\n"
  else if c = '"' then "\\\""
  else if c = '\\' then "\\\\"
  else if c.toNat = 0 then "\\0"
  else if Unicode.printable.contains c then String.singleton c
  else "\\u\x7b" ++ hexText c.toNat ++ "\x7d"

def quoted (s : String) : String :=
  "\"" ++ String.join (s.toList.map escapeChar) ++ "\""

mutual

def inspect : Value → String
  | null => "Null"
  | boolean b => "Boolean(" ++ toString b ++ ")"
  | integer i => "Integer(" ++ toString i ++ ")"
  | float x => "Float(OrdF64(" ++ x.inspect ++ "))"
  | string s => "String(" ++ quoted s ++ ")"
  | date d => "Date(" ++ d.display ++ ")"
  | datetime t => "DateTime(" ++ t.date.display ++ "T" ++ t.time.display ++ ")"
  | time t => "Time(" ++ t.display ++ ")"
  | list vs => "List([" ++ commaSeparated (inspectList vs) ++ "])"
  | record fields => "Record([" ++ commaSeparated (inspectFields fields) ++ "])"

def inspectList : List Value → List String
  | [] => []
  | v :: vs => v.inspect :: inspectList vs

def inspectFields : List (String × Value) → List String
  | [] => []
  | (name, v) :: fields =>
    ("(" ++ quoted name ++ ", " ++ v.inspect ++ ")") :: inspectFields fields

end

end QueryEngine.Value
