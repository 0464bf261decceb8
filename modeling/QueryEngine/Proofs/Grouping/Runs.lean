import QueryEngine.Proofs.Grouping.Classes

namespace QueryEngine

open Value

namespace GroupOutput

variable (ctx : Context)

/-- The value of an output over a class of rows: an expression on the first of them, or what the
aggregate makes of the fold over all of them. -/
def valueOver (rows : List Row) : GroupOutput → Except Error Value
  | scalar e => Scalar.eval ctx (rows.headD []) e
  | aggregate a args => do
    let state ← rows.foldlM (fun state row => do a.combine state (← Scalar.evalList ctx row args))
      a.initial
    a.finalize state

def rowOver (outputs : List GroupOutput) (rows : List Row) : Except Error Row :=
  outputs.mapM (valueOver ctx rows)

def combine (row : Row) : GroupOutput → Value → Except Error Value
  | scalar _, state => .ok state
  | aggregate a args, state => do a.combine state (← Scalar.evalList ctx row args)

variable {ctx}

theorem combineAll_cons (row : Row) (o : GroupOutput) (os : List GroupOutput) (s : Value)
    (ss : List Value) :
    combineAll ctx row (o :: os) (s :: ss) = do
      let s' ← o.combine ctx row s
      return s' :: (← combineAll ctx row os ss) := by
  cases o with
  | scalar e => rfl
  | aggregate a args =>
      cases h : Scalar.evalList ctx row args <;> simp [combineAll, combine, h]

theorem foldlM_combineAll_cons {rows : List Row} {o : GroupOutput} {os : List GroupOutput}
    {s s' : Value} {ss ss' : List Value}
    (ho : rows.foldlM (fun s row => o.combine ctx row s) s = .ok s')
    (hos : rows.foldlM (fun ss row => combineAll ctx row os ss) ss = .ok ss') :
    rows.foldlM (fun ss row => combineAll ctx row (o :: os) ss) (s :: ss) = .ok (s' :: ss') := by
  induction rows generalizing s ss with
  | nil =>
      cases ho
      cases hos
      rfl
  | cons row rows ih =>
      rw [List.foldlM_cons] at ho hos ⊢
      obtain ⟨s₁, hs₁, ho⟩ := bind_eq_ok.1 ho
      obtain ⟨ss₁, hss₁, hos⟩ := bind_eq_ok.1 hos
      rw [combineAll_cons, hs₁, ok_bind, hss₁, ok_bind, pure_eq, ok_bind]
      exact ih ho hos

theorem foldlM_combine_scalar (rows : List Row) (e : Scalar) (s : Value) :
    rows.foldlM (fun s row => (scalar e).combine ctx row s) s = .ok s := by
  induction rows with
  | nil => rfl
  | cons row rows ih => exact ih

/-- Where every output has a value over some rows, the states of all outputs can be carried along
together and finished in the end. -/
theorem exists_states {first : Row} {rest : List Row} {outputs : List GroupOutput} {out : Row}
    (h : rowOver ctx outputs (first :: rest) = .ok out) :
    ∃ states, (first :: rest).foldlM (fun states row => combineAll ctx row outputs states)
        (outputs.map initial) = .ok states ∧ finish ctx first outputs states = .ok out := by
  induction outputs generalizing out with
  | nil =>
      cases h
      have hnone : ∀ rows : List Row,
          rows.foldlM (fun states row => combineAll ctx row [] states) [] = .ok [] := by
        intro rows
        induction rows with
        | nil => rfl
        | cons row rows ih => exact ih
      exact ⟨[], hnone _, rfl⟩
  | cons o os ih =>
      rw [rowOver, List.mapM_cons] at h
      obtain ⟨v, hv, h⟩ := bind_eq_ok.1 h
      obtain ⟨vs, hvs, h⟩ := bind_eq_ok.1 h
      cases h
      obtain ⟨states, hstates, hfinish⟩ := ih hvs
      cases o with
      | scalar e =>
          refine ⟨.null :: states, foldlM_combineAll_cons (foldlM_combine_scalar _ e _) hstates, ?_⟩
          have hv : Scalar.eval ctx first e = .ok v := hv
          simp [finish, hv, hfinish]
      | aggregate a args =>
          obtain ⟨state, hstate, hv⟩ := bind_eq_ok.1 hv
          refine ⟨state :: states, foldlM_combineAll_cons hstate hstates, ?_⟩
          simp [finish, hv, hfinish]

end GroupOutput

open GroupOutput

namespace Rows

variable {ctx : Context} {keys : List Scalar} {outputs : List GroupOutput}
  {keyOf : Row → List Value}

theorem toList_group_nil {rows : Rows} (h : rows.toList = []) :
    (rows.group ctx keys outputs none).toList = [] := by
  induction rows with
  | done => rfl
  | item x tail => cases h
  | step n tail ih => exact ih () h

theorem toList_group_first {rows : Rows} {first : Row} {items : List (Except Error Row)}
    (h : rows.toList = .ok first :: items) {key : List Value}
    (hkey : Scalar.evalList ctx first keys = .ok key) {run : List Row} {states : List Value}
    (hstates : (first :: run).foldlM (fun states row => combineAll ctx row outputs states)
      (outputs.map initial) = .ok states) :
    ∃ (tail : Rows) (opened : List Value), tail.toList = items ∧
      run.foldlM (fun states row => combineAll ctx row outputs states) opened = .ok states ∧
      (rows.group ctx keys outputs none).toList =
        (tail.group ctx keys outputs (some ⟨key, first, opened⟩)).toList := by
  rw [List.foldlM_cons] at hstates
  obtain ⟨opened, hopened, hstates⟩ := bind_eq_ok.1 hstates
  have hstart : OpenRun.start ctx outputs key first = .ok ⟨key, first, opened⟩ := by
    simp [OpenRun.start, hopened]
  induction rows with
  | done => cases h
  | item x tail =>
      obtain ⟨rfl, htail⟩ := List.cons.inj h
      refine ⟨tail (), opened, htail, hstates, ?_⟩
      rw [group, hkey, Except.bind, hstart]
      rfl
  | step n tail ih => exact ih () h

theorem toList_group_add {run : List Row} {more : List (Except Error Row)} {rows : Rows}
    (hrows : rows.toList = run.map .ok ++ more)
    (hkeys : ∀ r ∈ run, Scalar.evalList ctx r keys = .ok (keyOf r)) {g : OpenRun}
    (hrun : ∀ r ∈ run, sameList (keyOf r) g.key = true) {states : List Value}
    (hstates : run.foldlM (fun states row => combineAll ctx row outputs states) g.states =
      .ok states) :
    ∃ tail : Rows, tail.toList = more ∧ (rows.group ctx keys outputs (some g)).toList =
      (tail.group ctx keys outputs (some { g with states })).toList := by
  induction rows generalizing run g with
  | done =>
      obtain ⟨hnil, rfl⟩ := List.append_eq_nil_iff.1 hrows.symm
      obtain rfl := List.map_eq_nil_iff.1 hnil
      cases hstates
      exact ⟨done, rfl, rfl⟩
  | step n tail ih => exact ih () hrows hkeys hrun hstates
  | item x tail ih =>
      cases run with
      | nil =>
          cases hstates
          exact ⟨item x tail, hrows, rfl⟩
      | cons row run =>
          obtain ⟨rfl, htail⟩ := List.cons.inj hrows
          rw [List.foldlM_cons] at hstates
          obtain ⟨states₁, hstates₁, hstates⟩ := bind_eq_ok.1 hstates
          rw [group, hkeys row List.mem_cons_self]
          simp only [hrun row List.mem_cons_self, if_true, OpenRun.add, hstates₁, ok_bind, pure_eq,
            toList_step]
          exact ih () (g := { g with states := states₁ }) htail
            (fun r hr => hkeys r (List.mem_cons_of_mem _ hr))
            (fun r hr => hrun r (List.mem_cons_of_mem _ hr)) hstates

/-- What comes after a run: nothing, or first of all a row with another key. -/
def EndsRun (ctx : Context) (keys : List Scalar) (key : List Value)
    (items : List (Except Error Row)) : Prop :=
  ∀ x ∈ items.head?, ∃ row key', x = .ok row ∧ Scalar.evalList ctx row keys = .ok key' ∧
    sameList key' key = false

theorem toList_group_close {g : OpenRun} {rows : Rows}
    (hends : EndsRun ctx keys g.key rows.toList) {out : Row}
    (hout : finish ctx g.first outputs g.states = .ok out) :
    (rows.group ctx keys outputs (some g)).toList =
      .ok out :: (rows.group ctx keys outputs none).toList := by
  induction rows with
  | done =>
      rw [group, group, OpenRun.result, hout]
      rfl
  | step n tail ih => exact ih () hends
  | item x tail =>
      obtain ⟨row, key, rfl, hkey, hdiffers⟩ := hends x rfl
      rw [group, group, hkey, Except.bind]
      simp only [hdiffers, Bool.false_eq_true, if_false, OpenRun.result, hout, toList_item]
      cases OpenRun.start ctx outputs key row <;> rfl

theorem toList_group_cons {run : List Row} (hne : run ≠ [])
    (hsame : ∀ r ∈ run, ∀ r' ∈ run, sameList (keyOf r) (keyOf r') = true)
    (hkeys : ∀ r ∈ run, Scalar.evalList ctx r keys = .ok (keyOf r)) {out : Row}
    (hout : rowOver ctx outputs run = .ok out) {more : List (Except Error Row)}
    (hmore : ∀ r ∈ run, EndsRun ctx keys (keyOf r) more) {rows : Rows}
    (hrows : rows.toList = run.map .ok ++ more) :
    ∃ tail : Rows, tail.toList = more ∧ (rows.group ctx keys outputs none).toList =
      .ok out :: (tail.group ctx keys outputs none).toList := by
  obtain ⟨first, run, rfl⟩ := List.exists_cons_of_ne_nil hne
  obtain ⟨states, hstates, hfinish⟩ := exists_states hout
  obtain ⟨rows', opened, hrows', hstates, hfirst⟩ :=
    toList_group_first hrows (hkeys first List.mem_cons_self) hstates
  obtain ⟨tail, rfl, hadd⟩ := toList_group_add (g := ⟨keyOf first, first, opened⟩) hrows'
    (fun r hr => hkeys r (List.mem_cons_of_mem _ hr))
    (fun r hr => hsame r (List.mem_cons_of_mem _ hr) first List.mem_cons_self) hstates
  refine ⟨tail, rfl, hfirst.trans (hadd.trans ?_)⟩
  exact toList_group_close (hmore first List.mem_cons_self) hfinish

/-- Over classes of rows one after the other, one row comes out for each class. -/
theorem toList_group {classes : List (List Row)} {outs : List Row}
    (hascending : classes.Pairwise fun c d =>
      ∀ r ∈ c, ∀ r' ∈ d, cmpList (keyOf r) (keyOf r') = .lt)
    (hne : ∀ c ∈ classes, c ≠ [])
    (hsame : ∀ c ∈ classes, ∀ r ∈ c, ∀ r' ∈ c, sameList (keyOf r) (keyOf r') = true)
    (houts : classes.mapM (rowOver ctx outputs) = .ok outs) {rows : Rows}
    (hrows : rows.toList = classes.flatten.map .ok)
    (hkeys : ∀ r ∈ classes.flatten, Scalar.evalList ctx r keys = .ok (keyOf r)) :
    (rows.group ctx keys outputs none).toList = outs.map .ok := by
  induction classes generalizing rows outs with
  | nil =>
      cases houts
      exact toList_group_nil hrows
  | cons c classes ih =>
      obtain ⟨hless, hrising⟩ := List.pairwise_cons.1 hascending
      rw [List.mapM_cons] at houts
      obtain ⟨out, hout, houts⟩ := bind_eq_ok.1 houts
      obtain ⟨outs, hrest, houts⟩ := bind_eq_ok.1 houts
      cases houts
      have hrows : rows.toList = c.map .ok ++ classes.flatten.map .ok := by simpa using hrows
      have hends : ∀ r ∈ c, EndsRun ctx keys (keyOf r) (classes.flatten.map .ok) := by
        intro r hr x hx
        obtain ⟨row, hrow, rfl⟩ := List.mem_map.1 (List.mem_of_mem_head? hx)
        obtain ⟨d, hd, hrowd⟩ := List.mem_flatten.1 hrow
        exact ⟨row, keyOf row, rfl, hkeys row (List.mem_append_right _ hrow),
          (sameList_eq_false_of_lt (hless d hd r hr row hrowd)).2⟩
      obtain ⟨tail, htail, hgroup⟩ := toList_group_cons (hne c List.mem_cons_self)
        (hsame c List.mem_cons_self) (fun r hr => hkeys r (List.mem_append_left _ hr)) hout hends
        hrows
      rw [hgroup, List.map_cons, ih hrising (fun d hd => hne d (List.mem_cons_of_mem _ hd))
        (fun d hd => hsame d (List.mem_cons_of_mem _ hd)) hrest htail
        fun r hr => hkeys r (List.mem_append_right _ hr)]

end Rows

end QueryEngine
