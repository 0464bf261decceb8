import QueryEngine.Proofs.Grouping.Exact

namespace QueryEngine

open Physical

namespace Physical

variable {schema : Schema} {functions : FunctionRegistry}

theorem planProjection_of_ne {e : Expr} (he : ∀ q, e ≠ .star q) (es : List Expr) :
    planProjection functions schema (e :: es) = do
      let s ← Scalar.plan schema functions e
      return s :: (← planProjection functions schema es) := by
  rw [planProjection]
  exact he

theorem groupOutputs_of_planProjection {position : Nat} {es : List Expr} {ss : List Scalar}
    (h : planProjection functions schema es = .ok ss) :
    groupOutputs functions schema [] position es = .ok (ss.map .scalar) := by
  induction es generalizing position ss with
  | nil =>
      cases h
      rfl
  | cons e es ih =>
      by_cases hstar : ∃ q, e = .star q
      · obtain ⟨q, rfl⟩ := hstar
        obtain ⟨positions, hpositions, h⟩ := bind_eq_ok.1 h
        obtain ⟨tail, htail, h⟩ := bind_eq_ok.1 h
        cases h
        simp [groupOutputs, hpositions, ih htail, Function.comp_def]
      · have hstar : ∀ q, e ≠ .star q := fun q hq => hstar ⟨q, hq⟩
        rw [planProjection_of_ne hstar] at h
        obtain ⟨s, hs, h⟩ := bind_eq_ok.1 h
        obtain ⟨tail, htail, h⟩ := bind_eq_ok.1 h
        cases h
        simp [groupOutputs_of_ne hstar, groupOutput, hs, ih htail]

end Physical

namespace Typing

/-- Position `p` of a projection is that of the `k`-th field of `e`, one of the expressions. -/
inductive Covers (schema : Schema) (functions : FunctionRegistry) :
    List Expr → Nat → Expr → Nat → Prop
  | here {e es own k} (hown : projectedFields schema functions e = .ok own) (hk : k < own.length) :
    Covers schema functions (e :: es) k e k
  | there {e es own p e' k} (hown : projectedFields schema functions e = .ok own)
    (h : Covers schema functions es p e' k) :
    Covers schema functions (e :: es) (own.length + p) e' k

def bindingAt (functions : FunctionRegistry) (position : Nat) (e : Expr) :
    Option AggregateBinding :=
  match e.unaliased with
  | .call name args => if functions.isAggregate name then some ⟨position, name, args⟩ else none
  | _ => none

/-- The scalar that computes the `k`-th field of a projected expression. -/
inductive Computes (schema : Schema) (functions : FunctionRegistry) : Expr → Nat → Scalar → Prop
  | column {q positions k i} (hpositions : schema.selectAll q = .ok positions)
    (hi : positions[k]? = some i) : Computes schema functions (.star q) k (.column i)
  | own {e s} (he : ∀ q, e ≠ .star q) (hs : Scalar.plan schema functions e = .ok s) :
    Computes schema functions e 0 s

variable {schema : Schema} {functions : FunctionRegistry} {e : Expr} {es : List Expr}
  {own fields : List Field} {p k n : Nat}

theorem projectedFields_cases (h : projectedFields schema functions e = .ok own) :
    (∃ q positions, e = .star q ∧ schema.selectAll q = .ok positions ∧
      own.length = positions.length) ∨
    ((∀ q, e ≠ .star q) ∧ (∀ q, e.unaliased ≠ .star q) ∧ own.length = 1) := by
  by_cases hstar : ∃ q, e = .star q
  · obtain ⟨q, rfl⟩ := hstar
    obtain ⟨positions, hpositions, h⟩ := bind_eq_ok.1 h
    cases h
    exact .inl ⟨q, positions, rfl, hpositions, List.length_map _⟩
  · have hstar : ∀ q, e ≠ .star q := fun q hq => hstar ⟨q, hq⟩
    rw [projectedFields_of_ne hstar] at h
    obtain ⟨f, hf, h⟩ := bind_eq_ok.1 h
    cases h
    exact .inr ⟨hstar, unaliased_ne_star hf, rfl⟩

theorem projectedWidth_of_fields (h : projectedFields schema functions e = .ok own) :
    projectedWidth schema e = .ok own.length := by
  rcases projectedFields_cases h with ⟨q, positions, rfl, hpositions, hlength⟩ | ⟨he, -, hlength⟩
  · simp [projectedWidth, hpositions, hlength]
  · rw [projectedWidth, hlength]
    exact he

theorem bindingAt_eq_some_iff {b : AggregateBinding} : bindingAt functions n e = some b ↔
    ∃ name args, e.unaliased = .call name args ∧ functions.isAggregate name = true ∧
      b = ⟨n, name, args⟩ := by
  unfold bindingAt
  split
  · next name args hu =>
      rw [hu]
      by_cases hagg : functions.isAggregate name = true
      · simp only [if_pos hagg, Option.some.injEq, Expr.call.injEq]
        constructor
        · rintro rfl
          exact ⟨name, args, ⟨rfl, rfl⟩, hagg, rfl⟩
        · rintro ⟨_, _, ⟨rfl, rfl⟩, -, rfl⟩
          rfl
      · simp only [if_neg hagg, reduceCtorEq, Expr.call.injEq, false_iff]
        rintro ⟨_, _, ⟨rfl, rfl⟩, h, -⟩
        exact hagg h
  · next hu =>
      simp only [reduceCtorEq, false_iff]
      rintro ⟨name, args, hcall, -⟩
      exact hu name args hcall

theorem position_of_bindingAt {b : AggregateBinding} (h : bindingAt functions n e = some b) :
    b.position = n := by
  obtain ⟨name, args, -, -, rfl⟩ := bindingAt_eq_some_iff.1 h
  rfl

theorem aggregateBindingsFrom_cons (h : projectedFields schema functions e = .ok own)
    (es : List Expr) : aggregateBindingsFrom schema functions n (e :: es) = do
      let rest ← aggregateBindingsFrom schema functions (n + own.length) es
      return (bindingAt functions n e).toList ++ rest := by
  rcases projectedFields_cases h with ⟨q, positions, rfl, hpositions, hlength⟩ | ⟨-, hu, hlength⟩
  · simp [aggregateBindingsFrom, Expr.unaliased, hpositions, hlength, bindingAt]
  · rw [aggregateBindingsFrom, bindingAt, hlength]
    cases hcase : e.unaliased with
    | star q => exact absurd hcase (hu q)
    | call name args =>
        by_cases hagg : functions.isAggregate name = true <;> simp [hagg]
    | _ => simp

theorem exists_of_groupOutputs_cons {bindings : List AggregateBinding} {outputs : List GroupOutput}
    (hown : projectedFields schema functions e = .ok own)
    (h : groupOutputs functions schema bindings n (e :: es) = .ok outputs) :
    ∃ first rest, outputs = first ++ rest ∧ first.length = own.length ∧
      groupOutputs functions schema bindings (n + own.length) es = .ok rest ∧
      ((∃ q positions, e = .star q ∧ schema.selectAll q = .ok positions ∧
        first = positions.map (.scalar <| .column ·)) ∨
      ((∀ q, e ≠ .star q) ∧
        ∃ o, groupOutput functions schema bindings n e = .ok o ∧ first = [o])) := by
  rcases projectedFields_cases hown with ⟨q, positions, rfl, hpositions, hlength⟩ | ⟨he, -, hlength⟩
  · rw [groupOutputs, hpositions, ok_bind, ← hlength] at h
    obtain ⟨rest, hrest, h⟩ := bind_eq_ok.1 h
    cases h
    exact ⟨_, rest, rfl, by simp [hlength], hrest, .inl ⟨q, positions, rfl, hpositions, rfl⟩⟩
  · rw [groupOutputs_of_ne he] at h
    obtain ⟨o, ho, h⟩ := bind_eq_ok.1 h
    obtain ⟨rest, hrest, h⟩ := bind_eq_ok.1 h
    cases h
    exact ⟨[o], rest, rfl, hlength.symm, hlength ▸ hrest, .inr ⟨he, o, ho, rfl⟩⟩

theorem exists_projectionFields
    (h : ∀ e ∈ es, ∃ own, projectedFields schema functions e = .ok own) :
    ∃ fields, projectionFields schema functions es = .ok fields := by
  induction es with
  | nil => exact ⟨[], rfl⟩
  | cons e es ih =>
      obtain ⟨own, hown⟩ := h e List.mem_cons_self
      obtain ⟨rest, hrest⟩ := ih fun e' he' => h e' (List.mem_cons_of_mem _ he')
      exact ⟨own ++ rest, by simp [projectionFields, hown, hrest]⟩

theorem exists_covers (h : projectionFields schema functions es = .ok fields)
    (hp : p < fields.length) : ∃ e k, Covers schema functions es p e k := by
  induction es generalizing p fields with
  | nil =>
      cases h
      cases hp
  | cons e es ih =>
      obtain ⟨own, hown, h⟩ := bind_eq_ok.1 h
      obtain ⟨rest, hrest, h⟩ := bind_eq_ok.1 h
      cases h
      by_cases hlt : p < own.length
      · exact ⟨e, p, .here hown hlt⟩
      · rw [List.length_append] at hp
        obtain ⟨p, rfl⟩ := Nat.exists_eq_add_of_le (Nat.le_of_not_lt hlt)
        obtain ⟨e', k, hcovers⟩ := ih hrest (p := p) (by omega)
        exact ⟨e', k, .there hown hcovers⟩

theorem Covers.getElem?_fields (c : Covers schema functions es p e k)
    (h : projectionFields schema functions es = .ok fields) :
    ∃ own, projectedFields schema functions e = .ok own ∧ k < own.length ∧
      fields[p]? = own[k]? := by
  induction c generalizing fields with
  | here hown hk =>
      obtain ⟨own, hown', h⟩ := bind_eq_ok.1 h
      obtain ⟨rest, -, h⟩ := bind_eq_ok.1 h
      cases h
      cases hown.symm.trans hown'
      exact ⟨_, hown, hk, List.getElem?_append_left hk⟩
  | there hown _ ih =>
      obtain ⟨own, hown', h⟩ := bind_eq_ok.1 h
      obtain ⟨rest, hrest, h⟩ := bind_eq_ok.1 h
      cases h
      cases hown.symm.trans hown'
      obtain ⟨own', hown', hk, hfield⟩ := ih hrest
      exact ⟨own', hown', hk, by rw [← hfield, List.getElem?_append_right] <;> simp⟩

theorem Covers.projectedAt_eq (c : Covers schema functions es p e k) (offset : Nat) :
    projectedAt schema (offset + p) offset es = .ok e.unaliased := by
  induction c generalizing offset with
  | here hown hk =>
      rw [projectedAt, projectedWidth_of_fields hown, ok_bind, if_pos (by omega)]
      rfl
  | @there e es own p e' k hown _ ih =>
      rw [projectedAt, projectedWidth_of_fields hown, ok_bind, if_neg (by omega), ← Nat.add_assoc]
      exact ih (offset + own.length)

theorem exists_aggregateBindingsFrom
    (h : ∀ e ∈ es, ∃ own, projectedFields schema functions e = .ok own) (n : Nat) :
    ∃ bindings, aggregateBindingsFrom schema functions n es = .ok bindings := by
  induction es generalizing n with
  | nil => exact ⟨[], rfl⟩
  | cons e es ih =>
      obtain ⟨own, hown⟩ := h e List.mem_cons_self
      obtain ⟨rest, hrest⟩ := ih (fun e' he' => h e' (List.mem_cons_of_mem _ he')) (n + own.length)
      exact ⟨_, by rw [aggregateBindingsFrom_cons hown, hrest]; rfl⟩

/-- An expression that binds an aggregate is no star, so it covers its own position only. -/
theorem length_of_bindingAt {b : AggregateBinding}
    (hown : projectedFields schema functions e = .ok own)
    (h : bindingAt functions n e = some b) : own.length = 1 := by
  rcases projectedFields_cases hown with ⟨q, -, rfl, -⟩ | ⟨-, -, hlength⟩
  · cases h
  · exact hlength

theorem Covers.mem_bindings_iff (c : Covers schema functions es p e k)
    {bindings : List AggregateBinding}
    (h : aggregateBindingsFrom schema functions n es = .ok bindings) (b : AggregateBinding) :
    b ∈ bindings ∧ b.position = n + p ↔ bindingAt functions (n + p) e = some b := by
  induction c generalizing n bindings with
  | @here e es own k hown hk =>
      rw [aggregateBindingsFrom_cons hown] at h
      obtain ⟨rest, hrest, h⟩ := bind_eq_ok.1 h
      cases h
      have hlater := le_position_of_aggregateBindingsFrom hrest
      constructor
      · rintro ⟨hb, hposition⟩
        rcases List.mem_append.1 hb with hb | hb
        · have hb : bindingAt functions n e = some b := Option.mem_toList.1 hb
          have hone : own.length = 1 := length_of_bindingAt hown hb
          obtain rfl : k = 0 := by omega
          exact hb
        · have := hlater b hb
          omega
      · intro hb
        have hone : own.length = 1 := length_of_bindingAt hown hb
        obtain rfl : k = 0 := by omega
        exact ⟨List.mem_append_left _ (Option.mem_toList.2 hb), position_of_bindingAt hb⟩
  | @there e es own p e' k hown c ih =>
      rw [aggregateBindingsFrom_cons hown] at h
      obtain ⟨rest, hrest, h⟩ := bind_eq_ok.1 h
      cases h
      rw [← Nat.add_assoc, ← ih hrest, List.mem_append, Option.mem_toList, or_and_right,
        or_iff_right]
      rintro ⟨hb, hposition⟩
      have hone : own.length = 1 := length_of_bindingAt hown hb
      have hfirst : b.position = n := position_of_bindingAt hb
      omega

theorem position_lt_of_aggregateBindingsFrom {bindings : List AggregateBinding}
    (hfields : projectionFields schema functions es = .ok fields)
    (h : aggregateBindingsFrom schema functions n es = .ok bindings) :
    ∀ b ∈ bindings, b.position < n + fields.length := by
  induction es generalizing n fields bindings with
  | nil =>
      cases h
      simp
  | cons e es ih =>
      obtain ⟨own, hown, hfields⟩ := bind_eq_ok.1 hfields
      obtain ⟨later, hlater, hfields⟩ := bind_eq_ok.1 hfields
      cases hfields
      rw [aggregateBindingsFrom_cons hown] at h
      obtain ⟨rest, hrest, h⟩ := bind_eq_ok.1 h
      cases h
      intro b hb
      rw [List.length_append]
      rcases List.mem_append.1 hb with hb | hb
      · have hb : bindingAt functions n e = some b := Option.mem_toList.1 hb
        have hone : own.length = 1 := length_of_bindingAt hown hb
        have hfirst : b.position = n := position_of_bindingAt hb
        omega
      · have := ih hlater hrest b hb
        omega

theorem pairwise_position_of_aggregateBindingsFrom {bindings : List AggregateBinding}
    (h : ∀ e ∈ es, ∃ own, projectedFields schema functions e = .ok own)
    (hbindings : aggregateBindingsFrom schema functions n es = .ok bindings) :
    bindings.Pairwise fun b b' => b.position < b'.position := by
  induction es generalizing n bindings with
  | nil =>
      cases hbindings
      exact .nil
  | cons e es ih =>
      obtain ⟨own, hown⟩ := h e List.mem_cons_self
      rw [aggregateBindingsFrom_cons hown] at hbindings
      obtain ⟨rest, hrest, hbindings⟩ := bind_eq_ok.1 hbindings
      cases hbindings
      have hpairwise := ih (fun e' he' => h e' (List.mem_cons_of_mem _ he')) hrest
      cases hb : bindingAt functions n e with
      | none => exact hpairwise
      | some b =>
          refine List.pairwise_cons.2 ⟨fun b' hb' => ?_, hpairwise⟩
          have hone : own.length = 1 := length_of_bindingAt hown hb
          have hfirst : b.position = n := position_of_bindingAt hb
          have := le_position_of_aggregateBindingsFrom hrest b' hb'
          omega

theorem length_of_groupOutputs {bindings : List AggregateBinding} {outputs : List GroupOutput}
    (hfields : projectionFields schema functions es = .ok fields)
    (h : groupOutputs functions schema bindings n es = .ok outputs) :
    outputs.length = fields.length := by
  induction es generalizing n fields outputs with
  | nil =>
      cases hfields
      cases h
      rfl
  | cons e es ih =>
      obtain ⟨own, hown, hfields⟩ := bind_eq_ok.1 hfields
      obtain ⟨later, hlater, hfields⟩ := bind_eq_ok.1 hfields
      cases hfields
      obtain ⟨first, rest, rfl, hfirst, hrest, -⟩ := exists_of_groupOutputs_cons hown h
      rw [List.length_append, List.length_append, hfirst, ih hlater hrest]

theorem Covers.output (c : Covers schema functions es p e k) {bindings : List AggregateBinding}
    {outputs : List GroupOutput}
    (h : groupOutputs functions schema bindings n es = .ok outputs) :
    ∃ o, outputs[p]? = some o ∧
      ((∃ q i, e = .star q ∧ Computes schema functions e k (.column i) ∧ o = .scalar (.column i)) ∨
      ((∀ q, e ≠ .star q) ∧ k = 0 ∧
        groupOutput functions schema bindings (n + p) e = .ok o)) := by
  induction c generalizing n outputs with
  | @here e es own k hown hk =>
      obtain ⟨first, rest, rfl, hfirst, -, hown⟩ := exists_of_groupOutputs_cons hown h
      have hk' : k < first.length := hfirst ▸ hk
      rw [List.getElem?_append_left hk', List.getElem?_eq_getElem hk']
      refine ⟨_, rfl, ?_⟩
      rcases hown with ⟨q, positions, rfl, hpositions, rfl⟩ | ⟨he, o, ho, rfl⟩
      · rw [List.length_map] at hk'
        refine .inl ⟨q, positions[k], rfl, ?_, by simp⟩
        exact .column hpositions (List.getElem?_eq_getElem hk')
      · obtain rfl : k = 0 := by simpa using hk'
        exact .inr ⟨he, rfl, ho⟩
  | @there e es own p e' k hown c ih =>
      obtain ⟨first, rest, rfl, hfirst, hrest, -⟩ := exists_of_groupOutputs_cons hown h
      rw [← hfirst, List.getElem?_append_right (Nat.le_add_right _ _), Nat.add_sub_cancel_left,
        ← Nat.add_assoc]
      exact ih (hfirst ▸ hrest)

theorem Covers.aggregate_output (c : Covers schema functions es p e k)
    {bindings : List AggregateBinding} {outputs : List GroupOutput} {b : AggregateBinding}
    (hbindings : aggregateBindings schema functions es = .ok bindings)
    (h : groupOutputs functions schema bindings 0 es = .ok outputs) (hb : b ∈ bindings)
    (hposition : b.position = p) :
    ∃ a args, functions.aggregate b.function = .ok a ∧
      Scalar.planList schema functions b.args = .ok args ∧
      outputs[p]? = some (.aggregate a args) := by
  have hmem := c.mem_bindings_iff hbindings
  simp only [Nat.zero_add] at hmem
  obtain ⟨o, ho, ⟨q, i, rfl, -⟩ | ⟨-, -, houtput⟩⟩ := c.output h
  · cases (hmem b).1 ⟨hb, hposition⟩
  · obtain ⟨b', hfind⟩ : ∃ b', bindings.find? (·.position = 0 + p) = some b' :=
      Option.isSome_iff_exists.1 (List.find?_isSome.2 ⟨b, hb, by simp [hposition]⟩)
    have hposition' : b'.position = p := by simpa using List.find?_some hfind
    have hb' := (hmem b').1 ⟨List.mem_of_find?_eq_some hfind, hposition'⟩
    obtain rfl := Option.some.inj (hb'.symm.trans ((hmem b).1 ⟨hb, hposition⟩))
    rw [groupOutput, hfind] at houtput
    obtain ⟨a, ha, houtput⟩ := bind_eq_ok.1 houtput
    obtain ⟨args, hargs, houtput⟩ := bind_eq_ok.1 houtput
    cases houtput
    exact ⟨a, args, ha, hargs, ho⟩

theorem Covers.scalar_output (c : Covers schema functions es p e k)
    {bindings : List AggregateBinding} {outputs : List GroupOutput}
    (h : groupOutputs functions schema bindings 0 es = .ok outputs)
    (hnone : ∀ b ∈ bindings, b.position ≠ p) :
    ∃ s, outputs[p]? = some (.scalar s) ∧ Computes schema functions e k s := by
  obtain ⟨o, ho, ⟨q, i, rfl, hcolumn, rfl⟩ | ⟨he, rfl, houtput⟩⟩ := c.output h
  · exact ⟨.column i, ho, hcolumn⟩
  · have hfind : bindings.find? (·.position = 0 + p) = none := by
      simpa [List.find?_eq_none] using hnone
    rw [groupOutput, hfind] at houtput
    obtain ⟨s, hs, houtput⟩ := bind_eq_ok.1 houtput
    cases houtput
    exact ⟨s, ho, .own he hs⟩

/-- If every projected expression has its fields, then each position below their number is covered,
and the expression found there, the aggregate bound there, the output of a grouping there and the
column of a projection there are all those of the covering expression. -/
theorem positions_agree (h : ∀ e ∈ es, ∃ own, projectedFields schema functions e = .ok own) :
    ∃ fields bindings, projectionFields schema functions es = .ok fields ∧
      aggregateBindings schema functions es = .ok bindings ∧
      (bindings.Pairwise fun b b' => b.position < b'.position) ∧
      (∀ b ∈ bindings, b.position < fields.length) ∧
      (∀ outputs, groupOutputs functions schema bindings 0 es = .ok outputs →
        outputs.length = fields.length) ∧
      (∀ columns, planProjection functions schema es = .ok columns →
        columns.length = fields.length) ∧
      (∀ p < fields.length, ∃ e k, Covers schema functions es p e k) ∧
      ∀ p e k, Covers schema functions es p e k →
        (∃ own, projectedFields schema functions e = .ok own ∧ k < own.length ∧
          fields[p]? = own[k]?) ∧
        projectedAt schema p 0 es = .ok e.unaliased ∧
        (∀ b, b ∈ bindings ∧ b.position = p ↔ ∃ name args, e.unaliased = .call name args ∧
          functions.isAggregate name = true ∧ b = ⟨p, name, args⟩) ∧
        (∀ outputs, groupOutputs functions schema bindings 0 es = .ok outputs →
          (∀ b ∈ bindings, b.position = p →
            ∃ a args, functions.aggregate b.function = .ok a ∧
              Scalar.planList schema functions b.args = .ok args ∧
              outputs[p]? = some (.aggregate a args)) ∧
          ((∀ b ∈ bindings, b.position ≠ p) →
            ∃ s, outputs[p]? = some (.scalar s) ∧ Computes schema functions e k s)) ∧
        ∀ columns, planProjection functions schema es = .ok columns →
          ∃ s, columns[p]? = some s ∧ Computes schema functions e k s := by
  obtain ⟨fields, hfields⟩ := exists_projectionFields h
  obtain ⟨bindings, hbindings⟩ := exists_aggregateBindingsFrom h 0
  refine ⟨fields, bindings, hfields, hbindings,
    pairwise_position_of_aggregateBindingsFrom h hbindings, ?_, ?_, ?_, ?_, ?_⟩
  · simpa using position_lt_of_aggregateBindingsFrom hfields hbindings
  · intro outputs houtputs
    exact length_of_groupOutputs hfields houtputs
  · intro columns hcolumns
    have houtputs : groupOutputs functions schema [] 0 es = .ok (columns.map .scalar) :=
      groupOutputs_of_planProjection hcolumns
    simpa using length_of_groupOutputs hfields houtputs
  · intro p hp
    exact exists_covers hfields hp
  · intro p e k c
    refine ⟨c.getElem?_fields hfields, ?_, ?_, ?_, ?_⟩
    · simpa using c.projectedAt_eq 0
    · intro b
      simpa only [Nat.zero_add, bindingAt_eq_some_iff] using c.mem_bindings_iff hbindings b
    · intro outputs houtputs
      exact ⟨fun b hb hposition => c.aggregate_output hbindings houtputs hb hposition,
        c.scalar_output houtputs⟩
    · intro columns hcolumns
      have houtputs : groupOutputs functions schema [] 0 es = .ok (columns.map .scalar) :=
        groupOutputs_of_planProjection hcolumns
      obtain ⟨s, hs, hcomputes⟩ := c.scalar_output houtputs (by simp)
      exact ⟨s, by simpa using hs, hcomputes⟩

/-- Two stars shift the aggregate, which is renamed twice, to the sixth position. -/
theorem positions_agree_shifted :
    let field (owner name : String) : Field := ⟨name, .integer, .nullable, [], some owner⟩
    let schema : Schema := ⟨none, [field "a" "x", field "b" "y", field "b" "z"]⟩
    let total : Expr := .call "sum" [.var "y"]
    let es : List Expr := [.star none, .star (some "b"), .rename "m" (.rename "n" total),
      .var "b.z"]
    ∃ fields bindings outputs, (∀ e ∈ es, ∃ own, projectedFields schema .builtins e = .ok own) ∧
      projectionFields schema .builtins es = .ok fields ∧ fields.length = 7 ∧
      aggregateBindings schema .builtins es = .ok bindings ∧
      (∀ b, b ∈ bindings ∧ b.position = 5 ↔ b = ⟨5, "sum", [.var "y"]⟩) ∧
      projectedAt schema 5 0 es = .ok total ∧
      groupOutputs .builtins schema bindings 0 es = .ok outputs ∧ outputs.length = 7 ∧
      (∃ a, FunctionRegistry.builtins.aggregate "sum" = .ok a ∧
        outputs[5]? = some (.aggregate a [.column 1])) ∧
      ∃ s, outputs[4]? = some (.scalar s) ∧ Computes schema .builtins (.star (some "b")) 1 s := by
  intro field schema total es
  have hown : ∀ e ∈ es, ∃ own, projectedFields schema .builtins e = .ok own := by
    simp only [es, List.forall_mem_cons, List.not_mem_nil, false_implies, implies_true, and_true]
    exact ⟨⟨_, rfl⟩, ⟨_, rfl⟩, ⟨_, rfl⟩, ⟨_, rfl⟩⟩
  obtain ⟨fields, bindings, hfields, hbindings, -, -, houtputs, -, -, hcovers⟩ :=
    positions_agree hown
  obtain rfl := Except.ok.inj (hfields.symm.trans rfl)
  obtain rfl : [⟨5, "sum", [.var "y"]⟩] = bindings := Except.ok.inj (hbindings.symm.trans rfl).symm
  have hall : projectedFields schema .builtins (.star none) = .ok schema.fields := rfl
  have hb : projectedFields schema .builtins (.star (some "b")) = .ok (schema.fields.drop 1) := rfl
  have hsum : Covers schema .builtins es
      (schema.fields.length + ((schema.fields.drop 1).length + 0))
      (.rename "m" (.rename "n" total)) 0 :=
    .there hall (.there hb (.here rfl Nat.zero_lt_one))
  have hstar : Covers schema .builtins es (schema.fields.length + 1) (.star (some "b")) 1 :=
    .there hall (.here hb Nat.one_lt_two)
  obtain ⟨-, hat, hbound, hout, -⟩ := hcovers 5 _ _ hsum
  obtain ⟨-, -, -, hout', -⟩ := hcovers 4 _ _ hstar
  refine ⟨_, _, _, hown, hfields, rfl, hbindings, fun b => ?_, hat, rfl, houtputs _ rfl, ?_,
    (hout' _ rfl).2 (by decide)⟩
  · rw [hbound]
    constructor
    · rintro ⟨_, _, ⟨⟩, -, rfl⟩
      rfl
    · rintro rfl
      exact ⟨_, _, rfl, rfl, rfl⟩
  · obtain ⟨a, args, ha, hargs, houtput⟩ := (hout _ rfl).1 _ List.mem_cons_self rfl
    cases hargs
    exact ⟨a, ha, houtput⟩

end Typing

end QueryEngine
