import Mathlib.Data.List.Basic
import QueryEngine.Proofs.Typing.Lookup
import QueryEngine.Typing.Plan

namespace QueryEngine

namespace Schema

variable {s t left right : Schema} {path : String}

/-- The name of a field and its owner, which is all that a lookup goes by. -/
def entry (s : Schema) (f : Field) : String × Option String :=
  (f.name, s.owner? f)

def entries (s : Schema) : List (String × Option String) :=
  s.fields.map s.entry

def entryPath? (entry : String × Option String) : Option String :=
  entry.2.map fun q => Text.qualify (some q) entry.1

theorem positionsWhere_entry (p : String × Option String → Bool) :
    s.positionsWhere (fun f => p (s.entry f)) = s.entries.findIdxs p := by
  rw [entries, List.findIdxs_map, List.findIdxs_eq_filterMap_zipIdx, positionsWhere,
    ← List.filterMap_eq_map, List.filterMap_filter]
  refine congrArg (List.filterMap · _) (funext fun x => ?_)
  simp [Bool.cond_eq_ite]

theorem qualifiedPositions_eq_findIdxs :
    s.qualifiedPositions path = s.entries.findIdxs (fun e => entryPath? e = some path) :=
  positionsWhere_entry fun e => entryPath? e = some path

theorem barePositions_eq_findIdxs :
    s.barePositions path = s.entries.findIdxs (fun e => e.1 = path) :=
  positionsWhere_entry fun e => e.1 = path

theorem length_entries : s.entries.length = s.size :=
  List.length_map _

theorem entry_owned (f : Field) (fields : List Field) :
    (Schema.mk none fields).entry (s.owned f) = s.entry f := by
  simp [entry, owned, owner?]

theorem entries_merge : (merge left right).entries = left.entries ++ right.entries := by
  simp [entries, merge, entry_owned, Function.comp_def]

theorem entries_owned : (Schema.mk none (s.fields.map s.owned)).entries = s.entries := by
  simp [entries, entry_owned, Function.comp_def]

theorem findIdxs_entries_merge (p : String × Option String → Bool) :
    (merge left right).entries.findIdxs p =
      left.entries.findIdxs p ++ (right.entries.findIdxs p).map (· + left.size) := by
  rw [entries_merge, List.findIdxs_append, length_entries, Nat.zero_add,
    List.findIdxs_start (s := left.size)]

theorem qualifiedPositions_merge : (merge left right).qualifiedPositions path =
    left.qualifiedPositions path ++ (right.qualifiedPositions path).map (· + left.size) := by
  simp only [qualifiedPositions_eq_findIdxs, findIdxs_entries_merge]

theorem barePositions_merge : (merge left right).barePositions path =
    left.barePositions path ++ (right.barePositions path).map (· + left.size) := by
  simp only [barePositions_eq_findIdxs, findIdxs_entries_merge]

theorem candidates_eq : s.candidates path =
    if s.qualifiedPositions path = [] then s.barePositions path
    else s.qualifiedPositions path := by
  unfold candidates
  split <;> simp_all

theorem candidates_eq_nil : s.candidates path = [] ↔
    s.qualifiedPositions path = [] ∧ s.barePositions path = [] := by
  rw [candidates_eq]
  split <;> simp_all

/-- A qualified name in either schema hides the bare ones in both. -/
theorem candidates_merge : (merge left right).candidates path =
    if left.qualifiedPositions path = [] ∧ right.qualifiedPositions path = [] then
      left.barePositions path ++ (right.barePositions path).map (· + left.size)
    else
      left.qualifiedPositions path ++ (right.qualifiedPositions path).map (· + left.size) := by
  simp [candidates_eq, qualifiedPositions_merge, barePositions_merge]

theorem candidates_merge_left (h : right.candidates path = []) :
    (merge left right).candidates path = (left.candidates path).map (· + 0) := by
  obtain ⟨hqualified, hbare⟩ := candidates_eq_nil.1 h
  rw [candidates_merge, candidates_eq, hqualified, hbare]
  simp

theorem candidates_merge_right (h : left.candidates path = []) :
    (merge left right).candidates path = (right.candidates path).map (· + left.size) := by
  obtain ⟨hqualified, hbare⟩ := candidates_eq_nil.1 h
  rw [candidates_merge, candidates_eq, hqualified, hbare]
  split <;> simp_all

theorem candidates_merge_both
    (h : left.qualifiedPositions path = [] ↔ right.qualifiedPositions path = []) :
    (merge left right).candidates path =
      left.candidates path ++ (right.candidates path).map (· + left.size) := by
  rw [candidates_merge, candidates_eq (s := left), candidates_eq (s := right)]
  simp only [h, and_self]
  split <;> rfl

theorem candidates_owned :
    (Schema.mk none (s.fields.map s.owned)).candidates path = s.candidates path := by
  simp only [candidates_eq, qualifiedPositions_eq_findIdxs, barePositions_eq_findIdxs,
    entries_owned]

theorem getD_merge_left {i : Nat} (h : i < left.size) :
    (merge left right).fields.getD i default = left.owned (left.fields.getD i default) := by
  have hi : i < left.fields.length := h
  have happend : (left.fields.map left.owned ++ right.fields.map right.owned)[i]? =
      (left.fields.map left.owned)[i]? := List.getElem?_append_left (by simpa using hi)
  simp [merge, List.getD_eq_getElem?_getD, happend, hi]

theorem getD_merge_right {i : Nat} (h : i < right.size) :
    (merge left right).fields.getD (i + left.size) default =
      right.owned (right.fields.getD i default) := by
  have hi : i < right.fields.length := h
  have happend :
      (left.fields.map left.owned ++ right.fields.map right.owned)[i + left.fields.length]? =
        (right.fields.map right.owned)[i]? := by
    rw [List.getElem?_append_right (by simp), List.length_map, Nat.add_sub_cancel]
  simp [merge, size, List.getD_eq_getElem?_getD, happend, hi]

theorem getD_owned {i : Nat} (h : i < s.size) :
    (s.fields.map s.owned).getD i default = s.owned (s.fields.getD i default) := by
  have hi : i < s.fields.length := h
  simp [List.getD_eq_getElem?_getD, hi]

/-- The answer of a lookup, with no more than the kind of an error. -/
def lookup (s : Schema) (path : String) : Except ErrorKind (Nat × Field) :=
  (s.resolve path).mapError Error.kind

/-- What was found, as seen from outside of the schema with `offset` fields in front. -/
def seen (s : Schema) (offset : Nat) (found : Nat × Field) : Nat × Field :=
  (found.1 + offset, s.owned found.2)

def candidatePaths (s : Schema) (path : String) : List String :=
  (s.candidates path).map fun i => (s.owned (s.fields.getD i default)).path

theorem lookup_eq : s.lookup path =
    match s.candidates path with
    | [] => .error .fieldNotFound
    | [i] => .ok (i, s.fields.getD i default)
    | _ => .error .ambiguousField := by
  match hs : s.candidates path with
  | [] | [i] | i :: j :: is =>
      simp only [lookup, resolve, hs]
      rfl

theorem lookup_eq_fieldNotFound :
    s.lookup path = .error .fieldNotFound ↔ s.candidates path = [] := by
  rw [lookup_eq]
  split <;> simp_all

theorem lookup_of_candidates {offset : Nat}
    (hcandidates : t.candidates path = (s.candidates path).map (· + offset))
    (hfields : ∀ i < s.size,
      t.fields.getD (i + offset) default = s.owned (s.fields.getD i default)) :
    t.lookup path = (s.lookup path).map (s.seen offset) := by
  have hlt (i : Nat) : i ∈ s.candidates path → i < s.size := lt_size_of_mem_candidates
  rw [lookup_eq, lookup_eq, hcandidates]
  match hs : s.candidates path with
  | [] => rfl
  | [i] =>
      have hi : i < s.size := hlt i (by simp [hs])
      simp only [List.map_cons, List.map_nil, hfields i hi]
      rfl
  | i :: j :: is => rfl

theorem resolve_of_candidates_length (h : 2 ≤ (s.candidates path).length) :
    s.resolve path = .error (.ambiguousField path
      ((s.candidates path).map fun i => (s.fields.getD i default).path)) := by
  unfold resolve
  split
  · next hc => simp [hc] at h
  · next hc => simp [hc] at h
  · rfl

theorem resolve_merge_both (hleft : left.candidates path ≠ []) (hright : right.candidates path ≠ [])
    (h : left.qualifiedPositions path = [] ↔ right.qualifiedPositions path = []) :
    (merge left right).resolve path =
      .error (.ambiguousField path (left.candidatePaths path ++ right.candidatePaths path)) := by
  have hcandidates := candidates_merge_both h
  have hleftLength := List.length_pos_iff.2 hleft
  have hrightLength := List.length_pos_iff.2 hright
  have hlength : 2 ≤ ((merge left right).candidates path).length := by
    rw [hcandidates, List.length_append, List.length_map]
    omega
  have hleftPaths : (left.candidates path).map
      (fun i => ((merge left right).fields.getD i default).path) = left.candidatePaths path :=
    List.map_congr_left fun i hi => by rw [getD_merge_left (lt_size_of_mem_candidates hi)]
  have hrightPaths : (right.candidates path).map
      (fun i => ((merge left right).fields.getD (i + left.size) default).path) =
        right.candidatePaths path :=
    List.map_congr_left fun i hi => by rw [getD_merge_right (lt_size_of_mem_candidates hi)]
  rw [resolve_of_candidates_length hlength, hcandidates, List.map_append, hleftPaths,
    List.map_map, ← hrightPaths]
  rfl

end Schema

namespace Typing

variable {functions : FunctionRegistry}

theorem projectionFields_star (s : Schema) :
    projectionFields s functions [.star none] = .ok (s.fields.map s.owned) := by
  have hfields : (List.range s.size).map (fun i => s.owned (s.fields.getD i default)) =
      s.fields.map s.owned := by
    refine List.ext_getElem (by simp [Schema.size]) fun i hi hi' => ?_
    have hlength : i < s.fields.length := by simpa using hi'
    simp [List.getD_eq_getElem?_getD, hlength]
  change Except.ok ((List.range s.size).map (fun i => s.owned (s.fields.getD i default)) ++ []) = _
  rw [List.append_nil, hfields]

open Schema

/-- In a merged schema a lookup finds what it finds in the one side that has the path, and a path
that both sides have in the same way is ambiguous. The projection of `*` changes no lookup. -/
theorem lookup_derived (functions : FunctionRegistry) (relation : String → Except Error Schema)
    (path : String) :
    (∀ left right : Schema,
      (merge left right).qualifiedPositions path = left.qualifiedPositions path ++
          (right.qualifiedPositions path).map (· + left.size) ∧
        (merge left right).barePositions path = left.barePositions path ++
          (right.barePositions path).map (· + left.size) ∧
        (right.lookup path = .error .fieldNotFound →
          (merge left right).lookup path = (left.lookup path).map (left.seen 0)) ∧
        (left.lookup path = .error .fieldNotFound →
          (merge left right).lookup path = (right.lookup path).map (right.seen left.size)) ∧
        (left.lookup path ≠ .error .fieldNotFound → right.lookup path ≠ .error .fieldNotFound →
          (left.qualifiedPositions path = [] ↔ right.qualifiedPositions path = []) →
          (merge left right).resolve path = .error (.ambiguousField path
            (left.candidatePaths path ++ right.candidatePaths path)))) ∧
      ∀ (input : Plan) (attached : Option Schema) (s : Schema), input.outputSchema = .ok s →
        ∃ t, nodeSchema functions relation (.project input [.star none] attached) = .ok t ∧
          t.lookup path = (s.lookup path).map (s.seen 0) := by
  refine ⟨fun left right => ⟨qualifiedPositions_merge, barePositions_merge, fun h => ?_,
    fun h => ?_, fun hleft hright h => ?_⟩, fun input attached s hinput => ?_⟩
  · have hnone := lookup_eq_fieldNotFound.1 h
    exact lookup_of_candidates (candidates_merge_left hnone) fun i hi => getD_merge_left hi
  · have hnone := lookup_eq_fieldNotFound.1 h
    exact lookup_of_candidates (candidates_merge_right hnone) fun i hi => getD_merge_right hi
  · exact resolve_merge_both (mt lookup_eq_fieldNotFound.2 hleft)
      (mt lookup_eq_fieldNotFound.2 hright) h
  · refine ⟨⟨none, s.fields.map s.owned⟩, ?_, ?_⟩
    · simp only [nodeSchema, hinput, projectionFields_star]
      rfl
    · exact lookup_of_candidates (by simp [candidates_owned]) fun i hi => getD_owned hi

theorem lookup_derived_self_join :
    let left : Schema := ⟨some "e", [{ name := "id", type := .integer },
      { name := "boss", type := .integer }]⟩
    let right := left.qualified "m"
    let relation (name : String) : Except Error Schema := .error (.relationNotFound name)
    (merge left right).lookup "e.boss" = .ok (1, { left.fields[1] with schemaName := some "e" }) ∧
      (merge left right).lookup "m.id" = .ok (2, { left.fields[0] with schemaName := some "m" }) ∧
      (merge left right).resolve "id" = .error (.ambiguousField "id" ["e.id", "m.id"]) ∧
      ∃ t, nodeSchema .builtins relation (.project (.load "e" (some left)) [.star none] none) =
          .ok t ∧
        t.lookup "e.boss" = .ok (1, { left.fields[1] with schemaName := some "e" }) := by
  intro left right relation
  have hright : right.lookup "e.boss" = .error .fieldNotFound :=
    lookup_eq_fieldNotFound.2 (by decide)
  have hleft : left.lookup "m.id" = .error .fieldNotFound :=
    lookup_eq_fieldNotFound.2 (by decide)
  have hboss := ((lookup_derived .builtins relation "e.boss").1 left right).2.2.1 hright
  have hid := ((lookup_derived .builtins relation "m.id").1 left right).2.2.2.1 hleft
  have hboth := ((lookup_derived .builtins relation "id").1 left right).2.2.2.2
    (mt lookup_eq_fieldNotFound.1 (by decide)) (mt lookup_eq_fieldNotFound.1 (by decide)) (by decide)
  obtain ⟨t, ht, hstar⟩ :=
    (lookup_derived .builtins relation "e.boss").2 (.load "e" (some left)) none left rfl
  refine ⟨hboss, hid, hboth, t, ht, hstar⟩

end Typing

end QueryEngine
