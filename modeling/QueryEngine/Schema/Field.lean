import QueryEngine.DataType
import QueryEngine.Text

namespace QueryEngine

inductive FieldMode where
  | required | nullable | repeated
deriving DecidableEq, Repr, Inhabited

namespace FieldMode

def name : FieldMode → String
  | required => "REQUIRED"
  | nullable => "NULLABLE"
  | repeated => "REPEATED"

def ofName? (s : String) : Option FieldMode :=
  [required, nullable, repeated].find? (·.name = s)

end FieldMode

/-- A named and typed column. `fields` are the nested fields of a record, and `schemaName` is the
name of the schema that owns the field. -/
structure Field where
  name : String
  type : DataType
  mode : FieldMode := .nullable
  fields : List Field := []
  schemaName : Option String := none
deriving Inhabited

namespace Field

mutual

def beq : Field → Field → Bool
  | ⟨n, t, m, fs, s⟩, ⟨n', t', m', fs', s'⟩ =>
    n = n' && t = t' && m = m' && beqList fs fs' && s = s'

def beqList : List Field → List Field → Bool
  | [], [] => true
  | f :: fs, g :: gs => f.beq g && beqList fs gs
  | _, _ => false

end

instance : BEq Field := ⟨beq⟩

def path (f : Field) : String :=
  Text.qualify f.schemaName f.name

def nested? (f : Field) (name : String) : Option Field :=
  f.fields.find? (·.name = name)

def display (f : Field) : String :=
  f.path ++ ": " ++ f.type.name ++
    match f.mode with
    | .nullable => ""
    | mode => " " ++ mode.name

end Field

end QueryEngine
