import QueryEngine.Proofs.Alignment.Operators
import QueryEngine.Proofs.Nullability.Fields

namespace QueryEngine

/-- What an element has under a name: in a record the first value there, and NULL if there is none. -/
inductive Value.Under (name : String) : Value → Value → Prop
  | first {before after : List (String × Value)} {v : Value} (h : ∀ x ∈ before, x.1 ≠ name) :
      Under name (.record (before ++ (name, v) :: after)) v
  | missing {fields : List (String × Value)} (h : ∀ x ∈ fields, x.1 ≠ name) :
      Under name (.record fields) .null
  | noRecord {element : Value} (h : ∀ fields, element ≠ .record fields) : Under name element .null

theorem Value.under_fieldOrNull (name : String) (fields : List (String × Value)) :
    (Value.record fields).Under name (fieldOrNull name fields) := by
  unfold fieldOrNull
  cases hfind : fields.find? (·.1 = name) with
  | none => exact .missing fun x hx => by simpa using List.find?_eq_none.1 hfind x hx
  | some x =>
      obtain ⟨hname, before, after, rfl, hbefore⟩ := List.find?_eq_some_iff_append.1 hfind
      obtain ⟨_, v⟩ := x
      obtain rfl : _ = name := by simpa using hname
      exact .first fun y hy => by simpa using hbefore y hy

theorem Value.under_nested (name : String) (element : Value) :
    element.Under name (fieldOrNull name element.nested) := by
  cases element with
  | record fields => exact under_fieldOrNull name fields
  | _ => exact .noRecord (by simp)

namespace Flatten

section

variable {α : Type} {xs : List α} {i : Nat}

theorem getElem?_splice_left (hi : i < xs.length) (new : List α) {j : Nat} (hj : j < i) :
    (splice xs i new)[j]? = xs[j]? := by
  have htake : j < (xs.take i).length := by
    rw [List.length_take]
    omega
  rw [splice, List.append_assoc, List.getElem?_append_left htake, List.getElem?_take_of_lt hj]

theorem getElem?_splice_new (hi : i < xs.length) {new : List α} {k : Nat} (hk : k < new.length) :
    (splice xs i new)[i + k]? = new[k]? := by
  have htake : (xs.take i).length = i := List.length_take_of_le (Nat.le_of_lt hi)
  rw [splice, List.append_assoc, List.getElem?_append_right (by omega), htake,
    Nat.add_sub_cancel_left, List.getElem?_append_left hk]

theorem getElem?_splice_right (hi : i < xs.length) (new : List α) (j : Nat) :
    (splice xs i new)[i + new.length + j]? = xs[i + 1 + j]? := by
  have hfront : (xs.take i ++ new).length = i + new.length := by
    rw [List.length_append, List.length_take_of_le (Nat.le_of_lt hi)]
  rw [splice, List.getElem?_append_right (by omega), hfront, Nat.add_sub_cancel_left,
    List.getElem?_drop]

end

def width (field : Field) : Nat :=
  if field.type = .record then field.fields.length else 1

/-- A row that an element of the list in column `i` gives, against the flattened schema: columns
before `i` are where they were, those behind it stand behind the new ones, and the new ones hold the
element, a record spread over its nested fields. -/
structure RowOf (input s : Schema) (i : Nat) (field : Field) (row : Row) (element : Value)
    (out : Row) : Prop where
  length : out.length = s.size
  before : ∀ j < i, s.fields[j]? = input.fields[j]? ∧ out[j]? = row[j]?
  behind : ∀ j, s.fields[i + width field + j]? = input.fields[i + 1 + j]? ∧
    out[i + width field + j]? = row[i + 1 + j]?
  scalar : field.type ≠ .record →
    s.fields[i]? = some { field with mode := .nullable } ∧ out[i]? = some element
  record : field.type = .record → ∀ k g, field.fields[k]? = some g →
    s.fields[i + k]? = some (spreadField field g) ∧
      ∃ v, out[i + k]? = some v ∧ element.Under g.name v

/-- What an item of the input becomes: a row one row for each element of its list, and an error stays
where it is. -/
inductive Flattens (input s : Schema) (i : Nat) (field : Field) :
    Except Error Row → List (Except Error Row) → Prop
  | error (e : Error) : Flattens input s i field (.error e) [.error e]
  | list {row : Row} {elements : List Value} {outs : List Row}
      (h : row[i]? = some (.list elements))
      (houts : List.Forall₂ (RowOf input s i field row) elements outs) :
      Flattens input s i field (.ok row) (outs.map .ok)
  | noList {row : Row} (h : ∀ elements, row[i]? ≠ some (.list elements)) :
      Flattens input s i field (.ok row) []

variable {input s : Schema} {i : Nat} {field : Field} {row : Row}

theorem length_spread (field : Field) : (spread field).length = width field := by
  unfold spread width
  split <;> simp

theorem rowOf_splice (hfields : s.fields = splice input.fields i (spread field))
    (hi : i < input.fields.length) (hrow : row.length = input.size) (element : Value) :
    RowOf input s i field row element (splice row i (columns (nestedNames field) element)) := by
  have hi' : i < row.length := hrow ▸ hi
  refine ⟨?_, fun j hj => ?_, fun j => ?_, fun htype => ?_, fun htype k g hg => ?_⟩
  · have hnew := length_splice hi (spread field)
    have hvalues := length_splice hi' (columns (nestedNames field) element)
    rw [length_columns, hrow, Schema.size] at hvalues
    rw [Schema.size, hfields]
    omega
  · rw [hfields, getElem?_splice_left hi _ hj, getElem?_splice_left hi' _ hj]
    exact ⟨rfl, rfl⟩
  · constructor
    · rw [hfields, ← length_spread, getElem?_splice_right hi]
    · rw [← length_spread, ← length_columns field element, getElem?_splice_right hi']
  · constructor
    · have hnew : spread field = [{ field with mode := .nullable }] := if_neg htype
      rw [hfields, hnew]
      exact getElem?_splice_new hi (k := 0) Nat.one_pos
    · have hvalues : columns (nestedNames field) element = [element] := by
        rw [nestedNames, if_neg htype]
        rfl
      rw [hvalues]
      exact getElem?_splice_new hi' (k := 0) Nat.one_pos
  · have hnew : spread field = field.fields.map (spreadField field) := if_pos htype
    have hvalues : columns (nestedNames field) element =
        field.fields.map fun g => Value.fieldOrNull g.name element.nested := by
      rw [nestedNames, if_pos htype, columns_some_eq, List.map_map]
      rfl
    obtain ⟨hk, -⟩ := List.getElem?_eq_some_iff.1 hg
    constructor
    · rw [hfields, hnew, getElem?_splice_new hi (by simpa using hk), List.getElem?_map, hg]
      rfl
    · refine ⟨_, ?_, element.under_nested g.name⟩
      rw [hvalues, getElem?_splice_new hi' (by simpa using hk), List.getElem?_map, hg]
      rfl

theorem flattens_row (hfields : s.fields = splice input.fields i (spread field))
    (hi : i < input.fields.length) (hrow : row.length = input.size) :
    Flattens input s i field (.ok row) ((flattenRow i (nestedNames field) row).map .ok) := by
  unfold flattenRow
  split
  · next elements helements =>
      refine .list helements (List.forall₂_map_right_iff.2 (List.forall₂_same.2 ?_))
      exact fun element _ => rowOf_splice hfields hi hrow element
  · next hlist => exact .noList fun elements helements => hlist elements helements

end Flatten

open Flatten

namespace Physical

/-- Where a relation can be flattened, every input of rows as wide as its schema is, item by item and
in order, and each row that comes out matches the schema of the result. -/
theorem execute_flatten {input s : Schema} {path : Value}
    (hs : TableFunction.flatten.schema [.relation input, .constant path] = .ok s) {ctx : Context}
    {p : Physical} {rows : Rows} (hrows : execute ctx p = .ok rows)
    (hwidth : ∀ row, .ok row ∈ rows.toList → row.length = input.size) :
    ∃ name i field, path = .string name ∧ input.resolve name = .ok (i, field) ∧
      field.mode = .repeated ∧ s.name = input.name ∧
        ∃ out blocks, execute ctx (.tableFunction .flatten [.relation (input, p), .constant path]) =
            .ok out ∧ out.toList = blocks.flatten ∧
          List.Forall₂ (Flattens input s i field) rows.toList blocks := by
  obtain ⟨l, hl, rfl⟩ := map_eq_ok.1 hs
  obtain ⟨name, i, field, rfl, hresolve, hmode, rfl⟩ := exists_of_layout hl
  have hi : i < input.fields.length := (List.getElem?_eq_some_iff.1 (Schema.resolve_eq_ok hresolve)).1
  have hflat := Rows.toList_flatMap rows (flattenRow i (nestedNames field))
  rw [List.flatMap_def] at hflat
  refine ⟨name, i, field, rfl, hresolve, hmode, rfl, _, _, ?_, hflat, ?_⟩
  · rw [execute]
    exact bind_eq_ok.2 ⟨_, hl, bind_eq_ok.2 ⟨rows, hrows, rfl⟩⟩
  · refine List.forall₂_map_right_iff.2 (List.forall₂_same.2 fun x hx => ?_)
    cases x with
    | error e => exact .error e
    | ok row => exact flattens_row rfl hi (hwidth row hx)

/-- The records of the list name their fields twice, in another order or not at all, one element is no
record, and an error and a NULL stand behind the list. -/
theorem execute_flatten_ragged_records :
    let friends : Field := { name := "friends", type := .record, mode := .repeated, fields :=
      [{ name := "since", type := .integer }, { name := "name", type := .string }] }
    let input : Schema := ⟨some "people", [{ name := "name", type := .string }, friends,
      { name := "age", type := .integer }]⟩
    let e : Error := .execution .divisionByZero
    let items : List (Except Error Row) := [.ok [.string "Tom", .list [
        .record [("name", .string "Sally"), ("name", .string "Mark"), ("since", .integer 2001)],
        .integer 7, .record [("since", .integer 2010)]], .integer 41],
      .error e, .ok [.string "Ann", .null, .integer 12]]
    let p : Physical := .scan ⟨.ok (.ofList items)⟩
    let tom (since name : Value) : Except Error Row := .ok [.string "Tom", since, name, .integer 41]
    ∃ s out blocks, TableFunction.flatten.schema [.relation input, .constant (.string "friends")] =
        .ok s ∧ s.fields.map (·.name) = ["name", "friends_since", "friends_name", "age"] ∧
      execute {} (.tableFunction .flatten [.relation (input, p), .constant (.string "friends")]) =
        .ok out ∧ List.Forall₂ (Flattens input s 1 friends) items blocks ∧
      out.toList = [tom (.integer 2001) (.string "Sally"), tom .null .null,
        tom (.integer 2010) .null, .error e] := by
  intro friends input e items p tom
  obtain ⟨s, hs, hnames⟩ : ∃ s, TableFunction.flatten.schema
      [.relation input, .constant (.string "friends")] = .ok s ∧
        s.fields.map (·.name) = ["name", "friends_since", "friends_name", "age"] := ⟨_, rfl, rfl⟩
  have hrows : execute {} p = .ok (.ofList items) := rfl
  have hwidth : ∀ row, .ok row ∈ (Rows.ofList items).toList → row.length = input.size := by
    rw [Rows.toList_ofList]
    simp [items, input, Schema.size]
  obtain ⟨name, i, field, hname, hresolve, -, -, out, blocks, hout, -, hall⟩ :=
    execute_flatten hs hrows hwidth
  cases hname
  cases hresolve
  rw [Rows.toList_ofList] at hall
  refine ⟨s, out, blocks, hs, hnames, hout, hall, ?_⟩
  cases hout
  rfl

end Physical

end QueryEngine
