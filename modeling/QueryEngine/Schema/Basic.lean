import QueryEngine.Error
import QueryEngine.Schema.Field
import QueryEngine.Text.Similarity

namespace QueryEngine

def Error.missingField (path : String) (candidates : List String) : Error :=
  .fieldNotFound path (Text.closest? path candidates)

structure Schema where
  name : Option String := none
  fields : List Field
deriving Inhabited

namespace Schema

def empty : Schema := ⟨none, []⟩

instance : BEq Schema := ⟨fun s t => s.name == t.name && s.fields == t.fields⟩

def size (s : Schema) : Nat :=
  s.fields.length

def positionsWhere (s : Schema) (p : Field → Bool) : List Nat :=
  (s.fields.zipIdx.filter fun (f, _) => p f).map (·.2)

def owner? (s : Schema) (f : Field) : Option String :=
  f.schemaName <|> s.name

def qualified? (s : Schema) (f : Field) : Option String :=
  (s.owner? f).map fun q => Text.qualify (some q) f.name

def qualifiedPositions (s : Schema) (path : String) : List Nat :=
  s.positionsWhere fun f => s.qualified? f = some path

def barePositions (s : Schema) (path : String) : List Nat :=
  s.positionsWhere fun f => f.name = path

/-- The positions that a path may mean: qualified names hide bare ones. -/
def candidates (s : Schema) (path : String) : List Nat :=
  match s.qualifiedPositions path with
  | [] => s.barePositions path
  | positions => positions

def knownNames (s : Schema) : List String :=
  s.fields.map (·.name) ++ s.fields.filterMap s.qualified?

def resolve (s : Schema) (path : String) : Except Error (Nat × Field) :=
  match s.candidates path with
  | [] => .error (.missingField path s.knownNames)
  | [i] => .ok (i, s.fields.getD i default)
  | positions =>
    .error (.ambiguousField path (positions.map fun i => (s.fields.getD i default).path))

def position (s : Schema) (path : String) : Except Error Nat :=
  (s.resolve path).map (·.1)

def resolve? (s : Schema) (path : String) : Except Error (Option (Nat × Field)) :=
  match s.resolve path with
  | .ok found => .ok (some found)
  | .error (.fieldNotFound _ _) => .ok none
  | .error e => .error e

/-- The positions that `*` selects, or `qualifier.*`, which has to select some. -/
def selectAll (s : Schema) (qualifier : Option String) : Except Error (List Nat) :=
  match qualifier with
  | none => .ok (List.range s.size)
  | some q =>
    match s.positionsWhere fun f => s.owner? f = some q with
    | [] => .error (.missingField (q ++ ".*") (s.fields.filterMap s.owner?))
    | positions => .ok positions

theorem lt_size_of_mem_positionsWhere {s : Schema} {p : Field → Bool} {i : Nat}
    (h : i ∈ s.positionsWhere p) : i < s.size := by
  simp only [positionsWhere, List.mem_map, List.mem_filter] at h
  obtain ⟨⟨f, j⟩, ⟨hj, -⟩, rfl⟩ := h
  simpa [size] using (List.mem_zipIdx hj).2.1

theorem lt_size_of_mem_candidates {s : Schema} {path : String} {i : Nat}
    (h : i ∈ s.candidates path) : i < s.size := by
  unfold candidates at h
  split at h <;> exact lt_size_of_mem_positionsWhere h

theorem position_lt_size {s : Schema} {path : String} {i : Nat} (h : s.position path = .ok i) :
    i < s.size := by
  unfold position resolve at h
  split at h
  · cases h
  · next j hc =>
      cases h
      have hmem : j ∈ s.candidates path := by simp [hc]
      exact lt_size_of_mem_candidates hmem
  · cases h

def withName (s : Schema) (name : Option String) : Schema :=
  { s with name }

def qualified (s : Schema) (name : String) : Schema :=
  ⟨some name, s.fields.map fun f => { f with schemaName := some name }⟩

def qualifyUnowned (s : Schema) (name : String) : Schema :=
  ⟨some name, s.fields.map fun f => { f with schemaName := f.schemaName <|> some name }⟩

/-- A field as seen from outside its schema: it takes its owner along. -/
def owned (s : Schema) (f : Field) : Field :=
  { f with schemaName := s.owner? f }

def merge (left right : Schema) : Schema :=
  ⟨none, left.fields.map left.owned ++ right.fields.map right.owned⟩

def display (s : Schema) : String :=
  s.name.getD "" ++ "(" ++ Text.commaSeparated (s.fields.map Field.display) ++ ")"

end Schema

end QueryEngine
