import QueryEngine.Unicode.Age
import QueryEngine.Unicode.Property

namespace QueryEngine.Unicode

/-- A name without blanks, `_`, `-`, characters beyond ASCII and a leading `is`, in lower case. The
name `isc` keeps its beginning. -/
def plainName (name : String) : String :=
  let plain (cs : List Char) : String :=
    .ofList ((cs.filter fun c => c.toNat < 128 && !" _-".contains c).map Char.toLower)
  match name.toList with
  | a :: b :: rest =>
    if a.toLower = 'i' ∧ b.toLower = 's' then
      if plain rest = "c" then "isc" else plain rest
    else plain name.toList
  | cs => plain cs

def find? (table : List (List String × CharSet)) (name : String) : Option CharSet :=
  (table.find? (·.1.contains name)).map (·.2)

/-- The set that a name stands for. Some short names of categories are also names of properties;
they mean the category. -/
def named? (name : String) : Option CharSet :=
  let name := plainName name
  let property := if ["cf", "sc", "lc"].contains name then none else find? properties name
  property <|> find? categories name <|> script? name

def withValue? (property value : String) : Option CharSet :=
  let value := plainName value
  match plainName property with
  | "gc" | "generalcategory" => find? categories value
  | "sc" | "script" => script? value
  | "scx" | "scriptextensions" => scriptExtension? value
  | "age" => age? value
  | "gcb" | "graphemeclusterbreak" => find? graphemeBreaks value
  | "wb" | "wordbreak" => find? wordBreaks value
  | "sb" | "sentencebreak" => find? sentenceBreaks value
  | _ => none

end QueryEngine.Unicode
