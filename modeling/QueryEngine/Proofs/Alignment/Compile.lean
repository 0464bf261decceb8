import QueryEngine.Proofs.Alignment.Operators
import QueryEngine.Proofs.Grouping.Positions
import QueryEngine.Proofs.Join.Agreement
import QueryEngine.Proofs.Resolution.Annotate

namespace QueryEngine

open Typing Plan

variable {functions : FunctionRegistry} {schema : Schema}

theorem Schema.lt_size_of_selectAll {q : Option String} {positions : List Nat}
    (h : schema.selectAll q = .ok positions) : ∀ i ∈ positions, i < schema.size := by
  intro i hi
  unfold selectAll at h
  split at h
  · cases h
    exact List.mem_range.1 hi
  · split at h <;> cases h
    exact lt_size_of_mem_positionsWhere hi

theorem size_joinSchema (type : JoinType) (l r : Schema) :
    (joinSchema type l r).size = l.size + r.size := by
  cases type <;> simp [joinSchema, Schema.merge, Schema.size]

namespace Physical

theorem fits_of_groupOutput (hf : functions.Sound) {bindings : List AggregateBinding}
    {position : Nat} {e : Expr} {o : GroupOutput}
    (h : groupOutput functions schema bindings position e = .ok o) : o.Fits schema.size := by
  unfold groupOutput at h
  split at h
  · next b _ =>
      obtain ⟨a, ha, h⟩ := bind_eq_ok.1 h
      obtain ⟨args, hargs, h⟩ := bind_eq_ok.1 h
      cases h
      exact ⟨hf.aggregates _ a ha, Scalar.fitsList_of_planList hf.scalars _ hargs⟩
  · obtain ⟨s, hs, h⟩ := bind_eq_ok.1 h
    cases h
    exact Scalar.fits_of_plan hf.scalars e hs

theorem fits_of_groupOutputs (hf : functions.Sound) {bindings : List AggregateBinding}
    {position : Nat} {es : List Expr} {fields : List Field} {outputs : List GroupOutput}
    (hfields : projectionFields schema functions es = .ok fields)
    (h : groupOutputs functions schema bindings position es = .ok outputs) :
    outputs.length = fields.length ∧ ∀ o ∈ outputs, o.Fits schema.size := by
  refine ⟨length_of_groupOutputs hfields h, ?_⟩
  induction es generalizing position fields outputs with
  | nil =>
      cases h
      simp
  | cons e es ih =>
      obtain ⟨own, hown, hfields⟩ := bind_eq_ok.1 hfields
      obtain ⟨later, hlater, -⟩ := bind_eq_ok.1 hfields
      obtain ⟨first, rest, rfl, -, hrest, hfirst⟩ := exists_of_groupOutputs_cons hown h
      intro o ho
      rcases List.mem_append.1 ho with ho | ho
      · rcases hfirst with ⟨q, positions, -, hpositions, rfl⟩ | ⟨-, o', ho', rfl⟩
        · obtain ⟨i, hi, rfl⟩ := List.mem_map.1 ho
          exact Scalar.fits_column (Schema.lt_size_of_selectAll hpositions i hi)
        · obtain rfl := List.mem_singleton.1 ho
          exact fits_of_groupOutput hf ho'
      · exact ih hlater hrest o ho

theorem fits_of_planProjection (hf : functions.Sound) {es : List Expr} {fields : List Field}
    {ss : List Scalar} (hfields : projectionFields schema functions es = .ok fields)
    (h : planProjection functions schema es = .ok ss) :
    ss.length = fields.length ∧ ∀ s ∈ ss, s.Fits schema.size := by
  have houtputs : groupOutputs functions schema [] 0 es = .ok (ss.map .scalar) :=
    groupOutputs_of_planProjection h
  obtain ⟨hlength, hfits⟩ := fits_of_groupOutputs hf hfields houtputs
  rw [List.length_map] at hlength
  exact ⟨hlength, fun s hs => hfits (.scalar s) (List.mem_map_of_mem hs)⟩

theorem fits_of_sortKeys (hf : functions.ScalarsExternal) {es : List Expr} {keys : List SortKey}
    (h : sortKeys functions schema es = .ok keys) :
    Scalar.FitsList schema.size (keys.map (·.expr)) := by
  induction es generalizing keys with
  | nil =>
      cases h
      exact .nil
  | cons e es ih =>
      obtain ⟨s, hs, h⟩ := bind_eq_ok.1 h
      obtain ⟨rest, hrest, h⟩ := bind_eq_ok.1 h
      cases h
      exact .cons (Scalar.fits_of_plan hf _ hs) (ih hrest)

theorem fits_of_planPredicate (hf : functions.ScalarsExternal) {predicate : Option Expr}
    {s : Option Scalar} (h : planPredicate functions schema predicate = .ok s) :
    ∀ e ∈ s, e.Fits schema.size := by
  cases predicate with
  | none =>
      cases h
      simp
  | some e =>
      obtain ⟨s', hs', h⟩ := bind_eq_ok.1 h
      cases h
      rintro e' ⟨⟩
      exact Scalar.fits_of_plan hf e hs'

variable {p q P : Physical}

theorem Fits.project? (hf : functions.Sound) (h : p.Fits schema.size) {es : List Expr}
    {fields : List Field} (hfields : projectionFields schema functions es = .ok fields)
    (hP : project? functions p schema es = .ok P) : P.Fits fields.length := by
  unfold Physical.project? at hP
  split at hP
  · obtain ⟨bindings, -, hP⟩ := bind_eq_ok.1 hP
    obtain ⟨outputs, houtputs, hP⟩ := bind_eq_ok.1 hP
    cases hP
    obtain ⟨hlength, hfits⟩ := fits_of_groupOutputs hf hfields houtputs
    exact hlength ▸ h.group .nil hfits
  · obtain ⟨columns, hcolumns, hP⟩ := bind_eq_ok.1 hP
    cases hP
    obtain ⟨hlength, hfits⟩ := fits_of_planProjection hf hfields hcolumns
    exact hlength ▸ h.project (.of_forall hfits)

theorem Fits.join? (hf : functions.ScalarsExternal) {n m : Nat} (h : p.Fits n) (h' : q.Fits m)
    (hsize : schema.size = n + m) {config : Config} {predicate : Option Expr} {type : JoinType}
    (hP : join? functions config p q schema n m predicate type = .ok P) : P.Fits schema.size := by
  obtain ⟨keys, hkeys, rfl⟩ | ⟨test, htest, rfl⟩ := of_join? hsize hP
  · rw [hsize]
    exact h.hashJoin h' hkeys type
  · rw [hsize]
    exact h.nestedJoin h' (hsize ▸ fits_of_planPredicate hf htest) type

end Physical

end QueryEngine
