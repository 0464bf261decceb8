import QueryEngine.Physical.Compile
import QueryEngine.Proofs.Alignment.Aggregates
import QueryEngine.Proofs.Alignment.Joins

namespace QueryEngine

open Rows

def TableArg.map {α β : Type} (f : α → β) : TableArg α → TableArg β
  | constant v => constant v
  | relation r => relation (f r)

/-- Over relations as wide as their schemas, the function gives one as wide as its schema. -/
def TableFunction.Aligned (f : TableFunction) : Prop :=
  ∀ args s, f.schema (args.map (TableArg.map (·.schema))) = .ok s →
    (∀ r, .relation r ∈ args → ∃ rows, r.start () = .ok rows ∧ rows.Aligned r.schema.size) →
      ∃ rows, f.invoke args = .ok rows ∧ rows.Aligned s.size

namespace Flatten

theorem length_splice {α : Type} {xs : List α} {i : Nat} (hi : i < xs.length) (new : List α) :
    (splice xs i new).length + 1 = xs.length + new.length := by
  simp only [splice, List.length_append, List.length_take, List.length_drop]
  omega

theorem length_columns_some (names : List String) (element : Value) :
    (columns (some names) element).length = names.length := by
  unfold columns
  split <;> simp_all

def spread (field : Field) : List Field :=
  if field.type = .record then field.fields.map (spreadField field)
  else [{ field with mode := .nullable }]

def nestedNames (field : Field) : Option (List String) :=
  if field.type = .record then some (field.fields.map (·.name)) else none

theorem exists_of_layout {input : Schema} {path : Value} {l : Layout}
    (h : layout input path = .ok l) : ∃ name i field, path = .string name ∧
      input.resolve name = .ok (i, field) ∧ field.mode = .repeated ∧
      l = ⟨i, nestedNames field, { input with fields := splice input.fields i (spread field) }⟩ := by
  cases path with
  | string name =>
      obtain ⟨⟨i, field⟩, hresolve, h⟩ := bind_eq_ok.1 h
      refine ⟨name, i, field, rfl, hresolve, ?_⟩
      dsimp only at h
      split at h
      · cases h
      · next hmode =>
          refine ⟨not_not.1 hmode, ?_⟩
          unfold nestedNames spread
          split at h <;> cases h <;> simp_all
  | _ => cases h

theorem length_columns (field : Field) (element : Value) :
    (columns (nestedNames field) element).length = (spread field).length := by
  unfold nestedNames spread
  split
  · rw [length_columns_some, List.length_map, List.length_map]
  · rfl

theorem length_of_mem_flattenRow {input : Schema} {path : Value} {l : Layout}
    (h : layout input path = .ok l) {row : Row} (hrow : row.length = input.size) :
    ∀ r ∈ flattenRow l.position l.nested row, r.length = l.schema.size := by
  intro r hr
  unfold flattenRow at hr
  split at hr
  · next elements _ =>
      obtain ⟨element, -, rfl⟩ := List.mem_map.1 hr
      obtain ⟨name, i, field, -, hresolve, -, rfl⟩ := exists_of_layout h
      have hposition : input.position name = .ok i := by
        simp [Schema.position, hresolve, Except.map]
      have hi : i < input.fields.length := Schema.position_lt_size hposition
      have hi' : i < row.length := hrow ▸ hi
      have hfields := length_splice hi (spread field)
      have hvalues := length_splice hi' (columns (nestedNames field) element)
      rw [length_columns] at hvalues
      simp only [Schema.size] at hrow ⊢
      omega
  · cases hr

end Flatten

theorem TableFunction.aligned_flatten : flatten.Aligned := by
  intro args s hs hargs
  match args with
  | [.relation input, .constant path] =>
      obtain ⟨l, hl, rfl⟩ := map_eq_ok.1 hs
      obtain ⟨rows, hrows, haligned⟩ := hargs input List.mem_cons_self
      refine ⟨_, bind_eq_ok.2 ⟨l, hl, bind_eq_ok.2 ⟨rows, hrows, rfl⟩⟩, ?_⟩
      exact haligned.flatMap fun row hrow => Flatten.length_of_mem_flattenRow hl hrow
  | [] | [.constant _] | [.relation _] | .constant _ :: _ :: _ | .relation _ :: .relation _ :: _
  | .relation _ :: .constant _ :: _ :: _ => cases hs

/-- Functions that never fail with an internal error and keep to their schemas. -/
structure FunctionRegistry.Sound (r : FunctionRegistry) : Prop where
  scalars : r.ScalarsExternal
  aggregates : ∀ name a, r.aggregate name = .ok a → a.Sound
  tables : ∀ name f, r.table name = .ok f → f.Aligned

namespace FunctionRegistry

theorem mem_builtins_of_aggregate {name : String} {a : Aggregate}
    (h : builtins.aggregate name = .ok a) : a ∈ Aggregate.builtins := by
  unfold aggregate at h
  split at h
  · next a' hget =>
      cases h
      obtain ⟨entry, hentry, rfl⟩ := Option.map_eq_some_iff.1 hget
      have hmem : entry ∈ builtins.aggregates := List.mem_of_find?_eq_some hentry
      have hbuiltins : builtins.aggregates.map (·.2) = Aggregate.builtins.reverse := rfl
      rw [← List.mem_reverse, ← hbuiltins]
      exact List.mem_map_of_mem hmem
  · cases h

theorem eq_flatten_of_table {name : String} {f : TableFunction}
    (h : builtins.table name = .ok f) : f = .flatten := by
  unfold table at h
  split at h
  · next f' hget =>
      cases h
      obtain ⟨entry, hentry, rfl⟩ := Option.map_eq_some_iff.1 hget
      have hmem : entry ∈ builtins.tables := List.mem_of_find?_eq_some hentry
      have hbuiltins : builtins.tables.map (·.2) = [.flatten] := rfl
      have hf : entry.2 ∈ builtins.tables.map (·.2) := List.mem_map_of_mem hmem
      rwa [hbuiltins, List.mem_singleton] at hf
  · cases h

theorem sound_builtins : builtins.Sound where
  scalars name f h := by
    cases h
  aggregates name a h := Aggregate.sound_builtins a (mem_builtins_of_aggregate h)
  tables name f h := eq_flatten_of_table h ▸ TableFunction.aligned_flatten

end FunctionRegistry

namespace Physical

/-- The plan always starts and gives rows of `n` values and no internal errors. -/
def Fits (n : Nat) (p : Physical) : Prop :=
  ∀ ctx, ∃ rows, execute ctx p = .ok rows ∧ rows.Aligned n

variable {n m : Nat} {p q : Physical}

theorem fits_empty : empty.Fits 0 := fun _ =>
  ⟨_, rfl, aligned_single.2 rfl⟩

theorem fits_scan {source : RecordSource} {rows : Rows} (h : source.records = .ok rows)
    (hrows : rows.Aligned n) : (scan source).Fits n := fun _ =>
  ⟨rows, h, hrows⟩

theorem Fits.filter (h : p.Fits n) {predicate : Option Scalar}
    (hpredicate : ∀ e ∈ predicate, e.Fits n) : (Physical.filter p predicate).Fits n := by
  intro ctx
  obtain ⟨rows, hrows, haligned⟩ := h ctx
  cases predicate with
  | none => exact ⟨rows, hrows, haligned⟩
  | some e =>
      refine ⟨_, bind_eq_ok.2 ⟨rows, hrows, rfl⟩, haligned.filter fun row hrow => ?_⟩
      exact (hpredicate e rfl ctx row hrow).bind fun _ _ => external_ok _

theorem itemAligned_evalList {ctx : Context} {row : Row} {ss : List Scalar}
    (h : External (Scalar.evalList ctx row ss)) :
    ItemAligned ss.length (Scalar.evalList ctx row ss) := by
  cases hvs : Scalar.evalList ctx row ss with
  | error e => exact h e hvs
  | ok vs => exact length_evalList hvs

theorem Fits.project (h : p.Fits n) {exprs : List Scalar} (hexprs : Scalar.FitsList n exprs) :
    (Physical.project p exprs).Fits exprs.length := by
  intro ctx
  obtain ⟨rows, hrows, haligned⟩ := h ctx
  exact ⟨_, bind_eq_ok.2 ⟨rows, hrows, rfl⟩, haligned.mapRows fun row hrow =>
    itemAligned_evalList (hexprs ctx row hrow)⟩

theorem Fits.limit (h : p.Fits n) (start stop : Option Nat) :
    (Physical.limit p start stop).Fits n := by
  intro ctx
  obtain ⟨rows, hrows, haligned⟩ := h ctx
  exact ⟨_, bind_eq_ok.2 ⟨rows, hrows, rfl⟩, haligned.limit start stop⟩

theorem Fits.union (h : p.Fits n) (h' : q.Fits n) : (Physical.union p q).Fits n := by
  intro ctx
  obtain ⟨rows, hrows, haligned⟩ := h ctx
  obtain ⟨rows', hrows', haligned'⟩ := h' ctx
  refine ⟨_, bind_eq_ok.2 ⟨rows, hrows, rfl⟩, aligned_append.2 ⟨haligned, ?_⟩⟩
  rw [hrows']
  exact haligned'

theorem Fits.sort (h : p.Fits n) {keys : List SortKey}
    (hkeys : Scalar.FitsList n (keys.map (·.expr))) : (Physical.sort p keys).Fits n := by
  intro ctx
  obtain ⟨rows, hrows, haligned⟩ := h ctx
  refine ⟨_, rfl, ?_⟩
  rw [hrows]
  exact haligned.sortOnto hkeys (by simp)

theorem Fits.sortedBy (h : p.Fits n) {keys : List Scalar} (hkeys : Scalar.FitsList n keys) :
    (Physical.sortedBy p keys).Fits n := by
  unfold Physical.sortedBy
  split
  · exact h
  · refine h.sort ?_
    rw [List.map_map]
    simpa [Function.comp_def] using hkeys

theorem Fits.joinSides (h : p.Fits n) (ctx : Context) (type : JoinType) (budget : Nat) :
    JoinSides.Fits n m ⟨type, fun _ => execute ctx p, m, budget⟩ :=
  ⟨h ctx, rfl⟩

theorem Fits.hashJoin (h : p.Fits n) (h' : q.Fits m) {keys : JoinKeys}
    (hkeys : ∀ k ∈ keys, k.1 < n ∧ k.2 < m) (type : JoinType) :
    (Physical.hashJoin p q keys type m).Fits (n + m) := by
  intro ctx
  obtain ⟨rows, hrows, haligned⟩ := h' ctx
  exact ⟨_, bind_eq_ok.2 ⟨rows, hrows, rfl⟩, haligned.hashJoin (h.joinSides ctx type _) hkeys⟩

theorem Fits.nestedJoin (h : p.Fits n) (h' : q.Fits m) {predicate : Option Scalar}
    (hpredicate : ∀ e ∈ predicate, e.Fits (n + m)) (type : JoinType) :
    (Physical.nestedJoin p q predicate type m).Fits (n + m) := by
  intro ctx
  obtain ⟨rows, hrows, haligned⟩ := h' ctx
  refine ⟨_, bind_eq_ok.2 ⟨rows, hrows, rfl⟩, haligned.nestedJoin (h.joinSides ctx type _) ?_⟩
  intro row hrow
  cases predicate with
  | none => exact external_ok _
  | some e => exact (hpredicate e rfl ctx row hrow).bind fun _ _ => external_ok _

theorem Fits.group (h : p.Fits n) {keys : List Scalar} (hkeys : Scalar.FitsList n keys)
    {outputs : List GroupOutput} (houtputs : ∀ o ∈ outputs, o.Fits n) :
    (Physical.group p keys outputs).Fits outputs.length := by
  intro ctx
  obtain ⟨rows, hrows, haligned⟩ := h ctx
  exact ⟨_, bind_eq_ok.2 ⟨rows, hrows, rfl⟩, haligned.group hkeys houtputs (by simp)⟩

theorem schemas_inputs (ctx : Context) (args : List (TableArg (Schema × Physical))) :
    (inputs ctx args).map (TableArg.map (·.schema)) = args.map (TableArg.map (·.1)) := by
  induction args with
  | nil => rfl
  | cons a args ih => cases a <;> simp [inputs, TableArg.map, ih]

theorem exists_of_mem_inputs {ctx : Context} {args : List (TableArg (Schema × Physical))}
    {r : InputRelation} (h : .relation r ∈ inputs ctx args) :
    ∃ s p, .relation (s, p) ∈ args ∧ r = ⟨s, fun _ => execute ctx p⟩ := by
  induction args with
  | nil => cases h
  | cons a args ih =>
      cases a with
      | constant v =>
          obtain ⟨s, p, hmem, hr⟩ := ih (by simpa [inputs] using h)
          exact ⟨s, p, List.mem_cons_of_mem _ hmem, hr⟩
      | relation r' =>
          rcases List.mem_cons.1 h with h | h
          · cases h
            exact ⟨_, _, List.mem_cons_self, rfl⟩
          · obtain ⟨s, p, hmem, hr⟩ := ih h
            exact ⟨s, p, List.mem_cons_of_mem _ hmem, hr⟩

theorem fits_tableFunction {f : TableFunction} (hf : f.Aligned)
    {args : List (TableArg (Schema × Physical))} {s : Schema}
    (hs : f.schema (args.map (TableArg.map (·.1))) = .ok s)
    (hargs : ∀ s p, .relation (s, p) ∈ args → p.Fits s.size) :
    (tableFunction f args).Fits s.size := by
  intro ctx
  refine hf (inputs ctx args) s (schemas_inputs ctx args ▸ hs) fun r hr => ?_
  obtain ⟨s, p, hmem, rfl⟩ := exists_of_mem_inputs hr
  exact hargs s p hmem ctx

end Physical

end QueryEngine
