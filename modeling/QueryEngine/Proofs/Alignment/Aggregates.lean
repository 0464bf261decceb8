import QueryEngine.Proofs.Alignment.Rows
import QueryEngine.Proofs.Grouping.Runs

namespace QueryEngine

namespace Aggregate

/-- The states that combining leads to from the initial one. -/
inductive State (a : Aggregate) : Value → Prop
  | initial : State a a.initial
  | combine {s s' : Value} (args : List Value) :
      State a s → a.combine s args = .ok s' → State a s'

structure Sound (a : Aggregate) : Prop where
  combine : ∀ s, a.State s → ∀ args, External (a.combine s args)
  finalize : ∀ s, a.State s → External (a.finalize s)

theorem external_skipNulls {f : Value → Value → Except Error Value}
    (hf : ∀ s arg, External (f s arg)) (s : Value) (args : List Value) :
    External (skipNulls f s args) := by
  unfold skipNulls
  split
  · exact external_ok _
  · exact external_ok _
  · exact hf _ _

theorem sound_skipNulls {a : Aggregate} {f : Value → Value → Except Error Value}
    (hcombine : a.combine = skipNulls f) (hfinalize : a.finalize = .ok)
    (hf : ∀ s arg, External (f s arg)) : a.Sound where
  combine s _ args := by
    rw [hcombine]
    exact external_skipNulls hf s args
  finalize s _ := by
    rw [hfinalize]
    exact external_ok s

theorem sound_sum : sum.Sound :=
  sound_skipNulls rfl rfl fun s arg => Operation.external_binary .plus s arg

theorem sound_min : min.Sound :=
  sound_skipNulls rfl rfl fun _ _ => external_ok _

theorem sound_max : max.Sound :=
  sound_skipNulls rfl rfl fun _ _ => external_ok _

theorem sound_count : count.Sound where
  combine s _ args := by
    simp only [count]
    split
    · exact external_ok _
    · exact Operation.external_binary .plus s _
  finalize s _ := external_ok s

theorem exists_of_state_average {s : Value} (h : average.State s) :
    ∃ c v, s = .list [.integer c, v] := by
  induction h with
  | initial => exact ⟨_, _, rfl⟩
  | @combine s s' args _ hcombine ih =>
      obtain ⟨c, v, rfl⟩ := ih
      simp only [average, averageState, ok_bind] at hcombine
      split at hcombine
      · cases hcombine
        exact ⟨c, v, rfl⟩
      · obtain ⟨sum, -, hcombine⟩ := bind_eq_ok.1 hcombine
        cases hcombine
        exact ⟨_, _, rfl⟩

theorem sound_average : average.Sound where
  combine s hs args := by
    obtain ⟨c, v, rfl⟩ := exists_of_state_average hs
    simp only [average]
    split
    · exact external_ok _
    · exact (Operation.external_binary .plus v _).bind fun _ _ => external_ok _
  finalize s hs := by
    obtain ⟨c, v, rfl⟩ := exists_of_state_average hs
    simp only [average, averageState, ok_bind]
    split
    · exact external_ok _
    · exact Operation.external_binary .divide _ _

theorem sound_builtins : ∀ a ∈ builtins, a.Sound := by
  simp only [builtins, List.mem_cons, List.not_mem_nil, or_false]
  rintro a (rfl | rfl | rfl | rfl | rfl)
  · exact sound_count
  · exact sound_sum
  · exact sound_min
  · exact sound_max
  · exact sound_average

end Aggregate

namespace GroupOutput

def Fits (n : Nat) : GroupOutput → Prop
  | scalar e => e.Fits n
  | aggregate a args => a.Sound ∧ Scalar.FitsList n args

def State : GroupOutput → Value → Prop
  | scalar _, _ => True
  | aggregate a _, s => a.State s

variable {ctx : Context} {n : Nat}

theorem state_initial (o : GroupOutput) : o.State o.initial := by
  cases o with
  | scalar e => trivial
  | aggregate a args => exact .initial

theorem external_combine {o : GroupOutput} (ho : o.Fits n) {row : Row} (hrow : row.length = n)
    {s : Value} (hs : o.State s) : External (o.combine ctx row s) := by
  cases o with
  | scalar e => exact external_ok _
  | aggregate a args => exact (ho.2 ctx row hrow).bind fun vs _ => ho.1.combine s hs vs

theorem state_of_combine {o : GroupOutput} {row : Row} {s s' : Value} (hs : o.State s)
    (h : o.combine ctx row s = .ok s') : o.State s' := by
  cases o with
  | scalar e => trivial
  | aggregate a args =>
      obtain ⟨vs, -, h⟩ := bind_eq_ok.1 h
      exact .combine vs hs h

theorem external_combineAll {outputs : List GroupOutput} (ho : ∀ o ∈ outputs, o.Fits n) {row : Row}
    (hrow : row.length = n) {states : List Value} (hs : List.Forall₂ State outputs states) :
    External (combineAll ctx row outputs states) := by
  induction hs with
  | nil => exact external_ok _
  | cons hs _ ih =>
      rw [combineAll_cons]
      refine (external_combine (ho _ List.mem_cons_self) hrow hs).bind fun _ _ => ?_
      exact (ih fun o h => ho o (List.mem_cons_of_mem _ h)).bind fun _ _ => external_ok _

theorem state_of_combineAll {outputs : List GroupOutput} {row : Row} {states states' : List Value}
    (hs : List.Forall₂ State outputs states) (h : combineAll ctx row outputs states = .ok states') :
    List.Forall₂ State outputs states' := by
  induction hs generalizing states' with
  | nil =>
      cases h
      exact .nil
  | cons hs _ ih =>
      rw [combineAll_cons] at h
      obtain ⟨s, hcombine, h⟩ := bind_eq_ok.1 h
      obtain ⟨ss, hrest, h⟩ := bind_eq_ok.1 h
      cases h
      exact .cons (state_of_combine hs hcombine) (ih hrest)

theorem itemAligned_finish {outputs : List GroupOutput} (ho : ∀ o ∈ outputs, o.Fits n) {first : Row}
    (hfirst : first.length = n) {states : List Value} (hs : List.Forall₂ State outputs states) :
    Rows.ItemAligned outputs.length (finish ctx first outputs states) := by
  have hvalue {x : Except Error Value} {y : Except Error Row} {k : Nat} (hx : External x)
      (hy : Rows.ItemAligned k y) :
      Rows.ItemAligned (k + 1) (x >>= fun v => y >>= fun vs => pure (v :: vs)) := by
    cases x with
    | error e => exact hx e rfl
    | ok v =>
        cases y with
        | error e => exact hy
        | ok vs => exact congrArg (· + 1) hy
  induction hs with
  | nil => rfl
  | @cons o s outputs states hs _ ih =>
      have ih := ih fun o h => ho o (List.mem_cons_of_mem _ h)
      have ho := ho o List.mem_cons_self
      cases o with
      | scalar e => exact hvalue (ho ctx first hfirst) ih
      | aggregate a args => exact hvalue (ho.1.finalize s hs) ih

end GroupOutput

namespace Rows

open GroupOutput

variable {ctx : Context} {n : Nat} {keys : List Scalar} {outputs : List GroupOutput}

structure RunFits (n : Nat) (outputs : List GroupOutput) (g : OpenRun) : Prop where
  first : g.first.length = n
  states : List.Forall₂ State outputs g.states

theorem forall₂_initial (outputs : List GroupOutput) :
    List.Forall₂ State outputs (outputs.map GroupOutput.initial) := by
  rw [List.forall₂_map_right_iff, List.forall₂_same]
  exact fun o _ => state_initial o

theorem external_start (ho : ∀ o ∈ outputs, o.Fits n) (key : List Value) {row : Row}
    (hrow : row.length = n) : External (OpenRun.start ctx outputs key row) :=
  (external_combineAll ho hrow (forall₂_initial outputs)).bind fun _ _ => external_ok _

theorem RunFits.of_start {key : List Value} {row : Row} (hrow : row.length = n) {g : OpenRun}
    (h : OpenRun.start ctx outputs key row = .ok g) : RunFits n outputs g := by
  obtain ⟨states, hstates, h⟩ := bind_eq_ok.1 h
  cases h
  exact ⟨hrow, state_of_combineAll (forall₂_initial outputs) hstates⟩

theorem RunFits.of_add {g g' : OpenRun} (hg : RunFits n outputs g) {row : Row}
    (h : g.add ctx outputs row = .ok g') : RunFits n outputs g' := by
  obtain ⟨states, hstates, h⟩ := bind_eq_ok.1 h
  cases h
  exact ⟨hg.first, state_of_combineAll hg.states hstates⟩

theorem RunFits.itemAligned_result {g : OpenRun} (hg : RunFits n outputs g)
    (ho : ∀ o ∈ outputs, o.Fits n) : ItemAligned outputs.length (g.result ctx outputs) :=
  itemAligned_finish ho hg.first hg.states

theorem RunFits.external_add {g : OpenRun} (hg : RunFits n outputs g) (ho : ∀ o ∈ outputs, o.Fits n)
    {row : Row} (hrow : row.length = n) : External (g.add ctx outputs row) :=
  (external_combineAll ho hrow hg.states).bind fun _ _ => external_ok _

section

variable (hkeys : Scalar.FitsList n keys) (ho : ∀ o ∈ outputs, o.Fits n) {row : Row}
  (hrow : row.length = n) {tail : Unit → Rows}
  (htail : ∀ r, RunFits n outputs r →
    ((tail ()).group ctx keys outputs (some r)).Aligned outputs.length)

include hkeys ho hrow htail

theorem aligned_group_first :
    ((item (.ok row) tail).group ctx keys outputs none).Aligned outputs.length := by
  rw [Rows.group]
  cases hkey : Scalar.evalList ctx row keys with
  | error e => exact aligned_fail.2 (hkeys ctx row hrow e hkey)
  | ok key =>
      have hstart : External (OpenRun.start ctx outputs key row) := external_start ho key hrow
      cases hr : OpenRun.start ctx outputs key row with
      | error e => simpa [Except.bind, hr] using hstart e hr
      | ok r => simpa [Except.bind, hr] using htail r (.of_start hrow hr)

theorem aligned_group_row {r : OpenRun} (hr : RunFits n outputs r) :
    ((item (.ok row) tail).group ctx keys outputs (some r)).Aligned outputs.length := by
  rw [Rows.group]
  cases hkey : Scalar.evalList ctx row keys with
  | error e => exact aligned_fail.2 (hkeys ctx row hrow e hkey)
  | ok key =>
      dsimp only
      split
      · cases hadd : r.add ctx outputs row with
        | error e => exact aligned_fail.2 (hr.external_add ho hrow e hadd)
        | ok r' => exact aligned_step.2 (htail r' (hr.of_add hadd))
      · have hout : ItemAligned outputs.length (r.result ctx outputs) := hr.itemAligned_result ho
        cases hclosed : r.result ctx outputs with
        | error e =>
            rw [hclosed] at hout
            exact aligned_fail.2 hout
        | ok out =>
            rw [hclosed] at hout
            refine aligned_item.2 ⟨hout, ?_⟩
            cases hstart : OpenRun.start ctx outputs key row with
            | error e => exact aligned_fail.2 (external_start ho key hrow e hstart)
            | ok r' => exact htail r' (.of_start hrow hstart)

end

theorem Aligned.group {rows : Rows} (h : rows.Aligned n) (hkeys : Scalar.FitsList n keys)
    (ho : ∀ o ∈ outputs, o.Fits n) {g : Option OpenRun} (hg : ∀ r ∈ g, RunFits n outputs r) :
    (rows.group ctx keys outputs g).Aligned outputs.length := by
  induction rows generalizing g with
  | step k tail ih => cases g <;> exact ih () h hg
  | done =>
      cases g with
      | none => exact aligned_done
      | some r =>
          have hout : ItemAligned outputs.length (r.result ctx outputs) :=
            (hg r rfl).itemAligned_result ho
          rw [Rows.group]
          cases hr : r.result ctx outputs with
          | error e =>
              rw [hr] at hout
              exact aligned_fail.2 hout
          | ok out =>
              rw [hr] at hout
              exact aligned_single.2 hout
  | item x tail ih =>
      obtain ⟨hx, htail⟩ := aligned_item.1 h
      cases x with
      | error e => cases g <;> exact aligned_fail.2 hx
      | ok row =>
          have hrest : ∀ r, RunFits n outputs r →
              ((tail ()).group ctx keys outputs (some r)).Aligned outputs.length := by
            intro r hr
            refine ih () htail ?_
            rintro r' ⟨⟩
            exact hr
          cases g with
          | none => exact aligned_group_first hkeys ho hx hrest
          | some r => exact aligned_group_row hkeys ho hx hrest (hg r rfl)

end Rows

end QueryEngine
