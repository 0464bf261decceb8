import Mathlib.Data.List.SplitBy
import QueryEngine.Physical.Basic
import QueryEngine.Proofs.Grouping.Runs

namespace QueryEngine

open Value GroupOutput

def runsBy (keyOf : Row → List Value) (rows : List Row) : List (List Row) :=
  rows.splitBy fun r r' => sameList (keyOf r) (keyOf r')

/-- Maximal runs of equal keys, one after the other. -/
structure Runs (keyOf : Row → List Value) (runs : List (List Row)) : Prop where
  ne_nil : ∀ run ∈ runs, run ≠ []
  same : ∀ run ∈ runs, ∀ r ∈ run, ∀ r' ∈ run, sameList (keyOf r) (keyOf r') = true
  changes : runs.IsChain fun run next =>
    ∀ r ∈ run, ∀ r' ∈ next, sameList (keyOf r) (keyOf r') = false

namespace Runs

variable {keyOf : Row → List Value}

theorem tail {run : List Row} {runs : List (List Row)} (h : Runs keyOf (run :: runs)) :
    Runs keyOf runs :=
  ⟨fun c hc => h.ne_nil c (List.mem_cons_of_mem _ hc),
    fun c hc => h.same c (List.mem_cons_of_mem _ hc), h.changes.tail⟩

theorem of_runsBy (keyOf : Row → List Value) (rows : List Row) :
    Runs keyOf (runsBy keyOf rows) := by
  have hsame : ∀ run ∈ runsBy keyOf rows, ∀ r ∈ run, ∀ r' ∈ run,
      sameList (keyOf r) (keyOf r') = true := by
    intro run hrun
    let R (r r' : Row) : Prop := sameList (keyOf r) (keyOf r') = true
    have : Trans R R R := ⟨fun h h' => (sameList_congr_left h _).trans h'⟩
    have : Std.Symm R := ⟨fun r r' h => (sameList_comm _ _).trans h⟩
    have hchain : run.IsChain R := List.isChain_of_mem_splitBy hrun
    exact fun r hr r' hr' => (List.isChain_iff_pairwise.1 hchain).forall_of_forall
      (fun r _ => sameList_iff.2 rfl) hr hr'
  refine ⟨fun run hrun => List.ne_nil_of_mem_splitBy hrun, hsame, ?_⟩
  -- neighbouring rows differ where two runs meet, so all rows of the two runs do
  refine (List.isChain_getLast_head_splitBy _ rows).imp_of_mem_imp ?_
  rintro run next hrun hnext ⟨hne, hne', hdiffers⟩ r hr r' hr'
  rw [sameList_congr_left (hsame run hrun r hr _ (List.getLast_mem hne)), sameList_comm,
    sameList_congr_left (hsame next hnext r' hr' _ (List.head_mem hne')), sameList_comm]
  exact hdiffers

end Runs

namespace Rows

variable {ctx : Context} {keys : List Scalar} {outputs : List GroupOutput}
  {keyOf : Row → List Value} {e : Error} {rest : List (Except Error Row)}

theorem toList_group_error {rows : Rows} (h : rows.toList = .error e :: rest)
    (run : Option OpenRun) : (rows.group ctx keys outputs run).toList = [.error e] := by
  induction rows generalizing run with
  | done => cases h
  | step n tail ih => cases run <;> exact ih () h _
  | item x tail =>
      obtain ⟨rfl, -⟩ := List.cons.inj h
      cases run <;> rfl

/-- The error that cuts off a run takes the place of its row. -/
theorem toList_group_cut {run : List Row} {rows : Rows}
    (hrows : rows.toList = run.map .ok ++ .error e :: rest)
    (hsame : ∀ r ∈ run, ∀ r' ∈ run, sameList (keyOf r) (keyOf r') = true)
    (hkeys : ∀ r ∈ run, Scalar.evalList ctx r keys = .ok (keyOf r)) {states : List Value}
    (hstates : run.foldlM (fun states row => combineAll ctx row outputs states)
      (outputs.map initial) = .ok states) :
    (rows.group ctx keys outputs none).toList = [.error e] := by
  cases run with
  | nil => exact toList_group_error hrows none
  | cons first run =>
      obtain ⟨rows', opened, hrows', hstates, hfirst⟩ :=
        toList_group_first hrows (hkeys first List.mem_cons_self) hstates
      obtain ⟨tail, htail, hadd⟩ := toList_group_add (g := ⟨keyOf first, first, opened⟩) hrows'
        (fun r hr => hkeys r (List.mem_cons_of_mem _ hr))
        (fun r hr => hsame r (List.mem_cons_of_mem _ hr) first List.mem_cons_self) hstates
      rw [hfirst, hadd]
      exact toList_group_error htail _

theorem toList_group_runs {runs : List (List Row)} (hruns : Runs keyOf runs) {rows : Rows}
    (hrows : rows.toList = runs.flatten.map .ok ++ .error e :: rest)
    (hkeys : ∀ r ∈ runs.flatten, Scalar.evalList ctx r keys = .ok (keyOf r))
    (hlast : ∀ run ∈ runs.getLast?, ∃ states, run.foldlM
      (fun states row => combineAll ctx row outputs states) (outputs.map initial) = .ok states)
    {outs : List Row} (houts : runs.dropLast.mapM (rowOver ctx outputs) = .ok outs) :
    (rows.group ctx keys outputs none).toList = outs.map .ok ++ [.error e] := by
  induction runs generalizing rows outs with
  | nil =>
      cases houts
      exact toList_group_error hrows none
  | cons run runs ih =>
      cases runs with
      | nil =>
          cases houts
          -- the error cuts off the last run
          obtain ⟨states, hstates⟩ := hlast run rfl
          exact toList_group_cut (by simpa using hrows) (hruns.same run List.mem_cons_self)
            (fun r hr => hkeys r (List.mem_append_left _ hr)) hstates
      | cons next runs =>
          rw [List.dropLast_cons_cons, List.mapM_cons] at houts
          obtain ⟨out, hout, houts⟩ := bind_eq_ok.1 houts
          obtain ⟨outs, hrest, houts⟩ := bind_eq_ok.1 houts
          cases houts
          have hrows : rows.toList =
              run.map .ok ++ ((next :: runs).flatten.map .ok ++ .error e :: rest) := by
            simpa using hrows
          have hkeysRest : ∀ r ∈ (next :: runs).flatten,
              Scalar.evalList ctx r keys = .ok (keyOf r) :=
            fun r hr => hkeys r (List.mem_append_right _ hr)
          -- the next run begins with another key, which ends this one
          have hends : ∀ r ∈ run, EndsRun ctx keys (keyOf r)
              ((next :: runs).flatten.map .ok ++ .error e :: rest) := by
            intro r hr x hx
            obtain ⟨row, more, rfl⟩ := List.exists_cons_of_ne_nil (hruns.ne_nil next (by simp))
            cases hx
            have hdiffers := (List.isChain_cons_cons.1 hruns.changes).1 r hr row List.mem_cons_self
            exact ⟨row, keyOf row, rfl, hkeysRest row (by simp), by rw [sameList_comm, hdiffers]⟩
          obtain ⟨tail, htail, hgroup⟩ := toList_group_cons (hruns.ne_nil run List.mem_cons_self)
            (hruns.same run List.mem_cons_self) (fun r hr => hkeys r (List.mem_append_left _ hr))
            hout hends hrows
          rw [hgroup, ih hruns.tail htail hkeysRest hlast hrest]
          rfl

end Rows

namespace Physical

variable {ctx : Context} {input : Physical} {keys : List Scalar} {outputs : List GroupOutput}
  {keyOf : Row → List Value} {rs : List Row} {e : Error} {rest : List (Except Error Row)}

/-- Over rows and then an error, the aggregation yields a row for each maximal run of equal keys
before the last one, then the error, and nothing after it. -/
theorem execute_group_truncated {rows : Rows} (hinput : execute ctx input = .ok rows)
    (hrows : rows.toList = rs.map .ok ++ .error e :: rest)
    (hkeys : ∀ r ∈ rs, Scalar.evalList ctx r keys = .ok (keyOf r))
    (houts : ∀ run ∈ (runsBy keyOf rs).dropLast, ∃ out, rowOver ctx outputs run = .ok out)
    (hlast : ∀ run ∈ (runsBy keyOf rs).getLast?, ∃ states, run.foldlM
      (fun states row => combineAll ctx row outputs states) (outputs.map initial) = .ok states) :
    ∃ result outs, execute ctx (.group input keys outputs) = .ok result ∧
      (runsBy keyOf rs).dropLast.mapM (rowOver ctx outputs) = .ok outs ∧
      result.toList = outs.map .ok ++ [.error e] := by
  obtain ⟨outs, houts⟩ := exists_mapM houts
  have hflat : (runsBy keyOf rs).flatten = rs := List.flatten_splitBy _ rs
  refine ⟨_, outs, by rw [execute, hinput, ok_bind, pure_eq], houts, ?_⟩
  exact Rows.toList_group_runs (.of_runsBy keyOf rs) (by rw [hflat, hrows]) (by rwa [hflat]) hlast
    houts

/-- The run of 1 and 1.0 ends with the row that opens the run of 2. The error comes in the middle of
that one, so that its sum is lost; the rest of the input is not read. -/
theorem execute_group_truncated_second_run :
    let e : Error := .execution .divisionByZero
    let rs : List Row := [[.integer 1, .integer 10], [.float (Binary64.ofInt 1), .integer 5],
      [.integer 2, .integer 7], [.integer 2, .integer 8]]
    let input : Physical := .scan ⟨.ok (.ofList (rs.map .ok ++ [.error e, .ok [.integer 2,
      .integer 9], .error e]))⟩
    let outputs : List GroupOutput := [.scalar (.column 0), .aggregate .sum [.column 1]]
    ∃ result, execute {} (.group input [.column 0] outputs) = .ok result ∧
      result.toList = [.ok [.integer 1, .integer 15], .error e] := by
  intro e rs input outputs
  let keyOf : Row → List Value := fun r => [r.headD .null]
  have hkeys : ∀ r ∈ rs, Scalar.evalList {} r [.column 0] = .ok (keyOf r) := by
    simp only [rs, List.mem_cons, List.not_mem_nil, or_false]
    rintro r (rfl | rfl | rfl | rfl) <;> rfl
  have hruns : runsBy keyOf rs = [[rs[0], rs[1]], [rs[2], rs[3]]] := rfl
  have houts : ∀ run ∈ (runsBy keyOf rs).dropLast, ∃ out, rowOver {} outputs run = .ok out := by
    rw [hruns]
    rintro run (_ | ⟨_, ⟨⟩⟩)
    exact ⟨_, rfl⟩
  have hlast : ∀ run ∈ (runsBy keyOf rs).getLast?, ∃ states, run.foldlM
      (fun states row => combineAll {} row outputs states) (outputs.map initial) = .ok states := by
    rw [hruns]
    rintro run ⟨⟩
    exact ⟨_, rfl⟩
  have hinput : execute {} input = .ok _ := rfl
  obtain ⟨result, outs, hresult, houts, hlist⟩ :=
    execute_group_truncated hinput (Rows.toList_ofList _) hkeys houts hlast
  rw [hruns] at houts
  cases houts
  exact ⟨result, hresult, hlist⟩

end Physical

end QueryEngine
