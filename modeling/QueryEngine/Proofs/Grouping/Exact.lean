import QueryEngine.Proofs.Grouping.Runs

namespace QueryEngine

open Value GroupOutput

namespace Physical

theorem compareKeys_ascending {es : List Scalar} {as bs : List Value} (ha : as.length = es.length)
    (hb : bs.length = es.length) :
    SortKey.compareKeys (es.map fun e => ⟨e, false⟩) as bs = cmpList as bs := by
  induction es generalizing as bs with
  | nil =>
      rw [List.eq_nil_of_length_eq_zero ha, List.eq_nil_of_length_eq_zero hb]
      rfl
  | cons e es ih =>
      cases as with
      | nil => cases ha
      | cons a as =>
          cases bs with
          | nil => cases hb
          | cons b bs =>
              simp only [List.length_cons, Nat.add_right_cancel_iff] at ha hb
              simp [SortKey.compareKeys, cmpList, ih ha hb]

variable {ctx : Context} {keys : List Scalar} {keyOf : Row → List Value} {rs : List Row}

theorem sortRows_ascending (hkeys : ∀ r ∈ rs, Scalar.evalList ctx r keys = .ok (keyOf r)) :
    Rows.sortRows ctx (keys.map fun e => ⟨e, false⟩) rs = .ok (sortedByKey keyOf rs) := by
  have hexprs : (keys.map fun e => (⟨e, false⟩ : SortKey)).map (·.expr) = keys := by
    simp [Function.comp_def]
  have hlength : ∀ r ∈ rs, (keyOf r).length = keys.length := fun r hr =>
    Rows.length_evalList (hkeys r hr)
  have hsort := List.map_mergeSort (l := rs) (f := id)
    (r := fun r r' => (cmpList (keyOf r) (keyOf r')).isLE)
    (s := fun r r' =>
      (SortKey.comparePadded (keys.map fun e => ⟨e, false⟩) (keyOf r) (keyOf r')).isLE)
    fun a ha b hb => by
      rw [id, id, ← SortKey.compareKeys_eq_comparePadded (by simpa using hlength a ha)
        (by simpa using hlength b hb), compareKeys_ascending (hlength a ha) (hlength b hb)]
  rw [Rows.sortRows_eq (hexprs ▸ hkeys), sortedByKey]
  simpa using hsort.symm

theorem execute_sortedBy {input : Physical} {rows : Rows} (hrows : execute ctx input = .ok rows)
    (hrs : rows.toList = rs.map .ok)
    (hkeys : ∀ r ∈ rs, Scalar.evalList ctx r keys = .ok (keyOf r)) :
    ∃ sorted, execute ctx (sortedBy input keys) = .ok sorted ∧
      sorted.toList = (sortedByKey keyOf rs).map .ok := by
  cases keys with
  | nil =>
      have hempty : ∀ r ∈ rs, keyOf r = [] := fun r hr => (Except.ok.inj (hkeys r hr)).symm
      have hsame : sortedByKey keyOf rs = rs := by
        apply List.mergeSort_of_pairwise
        refine List.pairwise_of_forall_mem_list fun a ha b hb => ?_
        rw [hempty a ha, hempty b hb]
        rfl
      exact ⟨rows, hrows, by rw [hsame, hrs]⟩
  | cons e es =>
      refine ⟨_, rfl, ?_⟩
      rw [hrows, Rows.toList_delay]
      refine (Rows.toList_sortOnto_of_rows hrs).trans ?_
      rw [sortRows_ascending hkeys]

variable {functions : FunctionRegistry} {schema : Schema}

/-- The output of a projected expression: an aggregate where it calls one, under any renames, and
the bound expression otherwise. -/
def outputOf (functions : FunctionRegistry) (schema : Schema) (e : Expr) :
    Except Error GroupOutput :=
  match e.unaliased with
  | .call name args =>
    if functions.isAggregate name then do
      let a ← functions.aggregate name
      return .aggregate a (← Scalar.planList schema functions args)
    else do return .scalar (← Scalar.plan schema functions e)
  | _ => do return .scalar (← Scalar.plan schema functions e)

def outputsOf (functions : FunctionRegistry) (schema : Schema) :
    Expr → Except Error (List GroupOutput)
  | .star q => do return (← schema.selectAll q).map fun i => .scalar (.column i)
  | e => do return [← outputOf functions schema e]

open Typing

theorem unaliased_ne_star {e : Expr} {f : Field} (h : fieldOf schema functions e = .ok f)
    (q : Option String) : e.unaliased ≠ .star q := by
  induction e using Expr.unaliased.induct generalizing f with
  | case1 name e ih =>
      obtain ⟨f, hf, -⟩ := bind_eq_ok.1 h
      exact ih hf
  | case2 e he =>
      rw [Expr.unaliased]
      · rintro rfl
        cases h
      · exact he

theorem le_position_of_aggregateBindingsFrom {position : Nat} {exprs : List Expr}
    {bindings : List AggregateBinding}
    (h : aggregateBindingsFrom schema functions position exprs = .ok bindings) :
    ∀ b ∈ bindings, position ≤ b.position := by
  induction exprs generalizing position bindings with
  | nil =>
      cases h
      simp
  | cons e es ih =>
      rw [aggregateBindingsFrom] at h
      split at h
      · obtain ⟨positions, -, h⟩ := bind_eq_ok.1 h
        intro b hb
        exact Nat.le_trans (Nat.le_add_right _ _) (ih h b hb)
      · obtain ⟨rest, hrest, h⟩ := bind_eq_ok.1 h
        have hle : ∀ b ∈ rest, position ≤ b.position :=
          fun b hb => Nat.le_of_succ_le (ih hrest b hb)
        split at h <;> cases h
        · intro b hb
          rcases List.mem_cons.1 hb with rfl | hb
          · exact Nat.le_refl _
          · exact hle b hb
        · exact hle
      · intro b hb
        exact Nat.le_of_succ_le (ih h b hb)

theorem find?_position_eq_none {position : Nat} {before after : List AggregateBinding}
    (hbefore : ∀ b ∈ before, b.position < position)
    (hafter : ∀ b ∈ after, position + 1 ≤ b.position) :
    (before ++ after).find? (·.position = position) = none := by
  rw [List.find?_eq_none]
  intro b hb
  rcases List.mem_append.1 hb with hb | hb
  · have := hbefore b hb
    simp only [decide_eq_true_eq]
    omega
  · have := hafter b hb
    simp only [decide_eq_true_eq]
    omega

section

variable {e : Expr} (he : ∀ q, e ≠ .star q)

include he

theorem projectedFields_of_ne : projectedFields schema functions e = do
    return [← fieldOf schema functions e] := by
  rw [projectedFields]
  exact he

theorem outputsOf_of_ne : outputsOf functions schema e = do
    return [← outputOf functions schema e] := by
  rw [outputsOf]
  exact he

theorem groupOutputs_of_ne (bindings : List AggregateBinding) (position : Nat) (es : List Expr) :
    groupOutputs functions schema bindings position (e :: es) = do
      let output ← groupOutput functions schema bindings position e
      return output :: (← groupOutputs functions schema bindings (position + 1) es) := by
  rw [groupOutputs]
  exact he

end

theorem groupOutput_eq {position : Nat} {e : Expr} {es : List Expr}
    (he : ∀ q, e.unaliased ≠ .star q) {before bindings : List AggregateBinding}
    (hbefore : ∀ b ∈ before, b.position < position)
    (h : aggregateBindingsFrom schema functions position (e :: es) = .ok bindings) :
    ∃ own rest, bindings = own ++ rest ∧ (∀ b ∈ own, b.position = position) ∧
      aggregateBindingsFrom schema functions (position + 1) es = .ok rest ∧
      groupOutput functions schema (before ++ bindings) position e =
        outputOf functions schema e := by
  have hscalar (rest : List AggregateBinding)
      (hrest : aggregateBindingsFrom schema functions (position + 1) es = .ok rest) :
      groupOutput functions schema (before ++ rest) position e = do
        return .scalar (← Scalar.plan schema functions e) := by
    rw [groupOutput, find?_position_eq_none hbefore (le_position_of_aggregateBindingsFrom hrest)]
  rw [aggregateBindingsFrom] at h
  cases hu : e.unaliased with
  | star q => exact absurd hu (he q)
  | call name args =>
      simp only [hu] at h
      obtain ⟨rest, hrest, h⟩ := bind_eq_ok.1 h
      by_cases hagg : functions.isAggregate name = true
      · rw [if_pos hagg] at h
        cases h
        refine ⟨[⟨position, name, args⟩], rest, rfl, by simp, hrest, ?_⟩
        have hnone : before.find? (·.position = position) = none := by
          have hnil : ∀ b ∈ ([] : List AggregateBinding), position + 1 ≤ b.position := by simp
          simpa using find?_position_eq_none hbefore hnil
        have hfind : (before ++ ⟨position, name, args⟩ :: rest).find? (·.position = position) =
            some ⟨position, name, args⟩ := by
          simp [List.find?_append, hnone]
        rw [groupOutput, hfind]
        simp only [outputOf, hu, if_pos hagg]
      · rw [if_neg hagg] at h
        obtain rfl := Except.ok.inj h
        refine ⟨[], rest, rfl, by simp, hrest, ?_⟩
        rw [hscalar rest hrest]
        simp only [outputOf, hu, if_neg hagg]
  | _ =>
      simp only [hu] at h
      refine ⟨[], bindings, rfl, by simp, h, ?_⟩
      rw [hscalar bindings h]
      simp only [outputOf, hu]

/-- With the aggregates that resolution finds, every position gets the output of its expression. -/
theorem groupOutputs_eq {position : Nat} {exprs : List Expr} {fields : List Field}
    {before bindings : List AggregateBinding} {outputs : List GroupOutput}
    (hfields : projectionFields schema functions exprs = .ok fields)
    (hbindings : aggregateBindingsFrom schema functions position exprs = .ok bindings)
    (hbefore : ∀ b ∈ before, b.position < position)
    (h : groupOutputs functions schema (before ++ bindings) position exprs = .ok outputs) :
    ∃ parts, exprs.mapM (outputsOf functions schema) = .ok parts ∧ outputs = parts.flatten := by
  induction exprs generalizing position fields before bindings outputs with
  | nil =>
      cases h
      exact ⟨[], rfl, rfl⟩
  | cons e es ih =>
      obtain ⟨own, hown, hfields⟩ := bind_eq_ok.1 hfields
      obtain ⟨rest, hrest, -⟩ := bind_eq_ok.1 hfields
      by_cases hstar : ∃ q, e = .star q
      · -- no aggregate is bound among the columns of a star
        obtain ⟨q, rfl⟩ := hstar
        obtain ⟨positions, hpositions, h⟩ := bind_eq_ok.1 h
        obtain ⟨tail, htail, h⟩ := bind_eq_ok.1 h
        cases h
        obtain ⟨positions', hpositions', hbindings⟩ := bind_eq_ok.1 hbindings
        obtain rfl := Except.ok.inj (hpositions.symm.trans hpositions')
        obtain ⟨parts, hparts, rfl⟩ := ih hrest hbindings
          (fun b hb => Nat.lt_of_lt_of_le (hbefore b hb) (Nat.le_add_right _ _)) htail
        exact ⟨positions.map (.scalar <| .column ·) :: parts,
          by simp [outputsOf, hpositions, hparts], rfl⟩
      · have hstar : ∀ q, e ≠ .star q := fun q hq => hstar ⟨q, hq⟩
        rw [projectedFields_of_ne hstar] at hown
        obtain ⟨f, hf, -⟩ := bind_eq_ok.1 hown
        obtain ⟨owns, later, rfl, howns, hlater, houtput⟩ :=
          groupOutput_eq (unaliased_ne_star hf) hbefore hbindings
        rw [groupOutputs_of_ne hstar, houtput] at h
        obtain ⟨output, houtput, h⟩ := bind_eq_ok.1 h
        obtain ⟨tail, htail, h⟩ := bind_eq_ok.1 h
        cases h
        rw [← List.append_assoc] at htail
        -- the aggregates bound so far are all before the next position
        have hlt : ∀ b ∈ before ++ owns, b.position < position + 1 := by
          intro b hb
          rcases List.mem_append.1 hb with hb | hb
          · exact Nat.lt_succ_of_lt (hbefore b hb)
          · rw [howns b hb]
            exact Nat.lt_succ_self _
        obtain ⟨parts, hparts, rfl⟩ := ih hrest hlater hlt htail
        have hone : outputsOf functions schema e = .ok [output] := by
          rw [outputsOf_of_ne hstar, houtput, ok_bind, pure_eq]
        exact ⟨[output] :: parts, by simp [hone, hparts], rfl⟩

/-- Plans that group the rows of `inner` and project `exprs`, with the aggregates found there: a
grouping, or a projection whose whole input is one group. -/
inductive Groups (functions : FunctionRegistry) (inner : Plan) (exprs : List Expr) :
    List AggregateBinding → Plan → Prop
  | projected {schema own bindings} (hschema : inner.outputSchema = .ok schema)
    (hbindings : aggregateBindings schema functions exprs = .ok bindings) :
    Groups functions inner exprs bindings (.project inner exprs own)
  | grouped {own keys bindings own'} :
    Groups functions inner exprs bindings (.groupBy (.project inner exprs own) keys bindings own')

def boundKeys (functions : FunctionRegistry) : Plan → Except Error (List Expr)
  | .groupBy input keys _ _ => groupKeys functions input keys
  | _ => .ok []

variable {relation : String → Except Error Relation} {config : Config} {plan inner : Plan}
  {exprs : List Expr} {bindings : List AggregateBinding} {input sorted : Physical}
  {planned : List Scalar} {outputs : List GroupOutput}

theorem compile_eq_group (hplan : Groups functions inner exprs bindings plan)
    (hinput : compile relation functions config inner = .ok input)
    (hgroup : compile relation functions config plan = .ok (.group sorted planned outputs)) :
    ∃ schema bound, inner.outputSchema = .ok schema ∧ boundKeys functions plan = .ok bound ∧
      Scalar.planList schema functions bound = .ok planned ∧ sorted = sortedBy input planned ∧
      groupOutputs functions schema bindings 0 exprs = .ok outputs := by
  cases hplan with
  | @projected schema own _ hschema hbindings =>
      simp only [compile, hschema, hinput, ok_bind, project?, hbindings] at hgroup
      split at hgroup
      · obtain ⟨outs, houts, h⟩ := bind_eq_ok.1 hgroup
        cases h
        exact ⟨schema, [], hschema, rfl, rfl, rfl, houts⟩
      · obtain ⟨columns, -, h⟩ := bind_eq_ok.1 hgroup
        cases h
  | grouped =>
      rw [compile] at hgroup
      obtain ⟨schema, hschema, hgroup⟩ := bind_eq_ok.1 hgroup
      obtain ⟨bound, hbound, hgroup⟩ := bind_eq_ok.1 hgroup
      obtain ⟨keys, hkeys, hgroup⟩ := bind_eq_ok.1 hgroup
      obtain ⟨input', hinput', hgroup⟩ := bind_eq_ok.1 hgroup
      obtain ⟨outs, houts, h⟩ := bind_eq_ok.1 hgroup
      obtain rfl := Except.ok.inj (hinput.symm.trans hinput')
      cases h
      exact ⟨schema, bound, hschema, hbound, hkeys, rfl, houts⟩

theorem execute_group_of_classes {rows : Rows} (hrows : execute ctx input = .ok rows)
    (hrs : rows.toList = rs.map .ok)
    (hkeys : ∀ r ∈ rs, Scalar.evalList ctx r planned = .ok (keyOf r))
    {classes : List (List Row)} (hclasses : Classes keyOf rs classes) {outs : List Row}
    (houts : classes.mapM (rowOver ctx outputs) = .ok outs) :
    ∃ result, execute ctx (.group (sortedBy input planned) planned outputs) = .ok result ∧
      result.toList = outs.map .ok := by
  obtain ⟨sorted, hsorted, hlist⟩ := execute_sortedBy hrows hrs hkeys
  obtain ⟨classes', hclasses', hflat⟩ := exists_classes keyOf rs
  obtain rfl := hclasses.unique hclasses'
  refine ⟨_, by rw [execute, hsorted, ok_bind, pure_eq], ?_⟩
  refine Rows.toList_group hclasses.ascending (fun c hc => hclasses.ne_nil hc)
    (fun c hc r hr r' hr' => hclasses.same_of_mem hc hr hr') houts (by rw [hlist, hflat]) ?_
  intro r hr
  rw [hflat, sortedByKey, List.mem_mergeSort] at hr
  exact hkeys r hr

/-- One row comes out for each class of rows with the same key, in the order of the keys: its
aggregates are folded over the class in input order, and everything else is evaluated on the first
row of the class. -/
theorem execute_group (hplan : Groups functions inner exprs bindings plan)
    (hinput : compile relation functions config inner = .ok input)
    (hgroup : compile relation functions config plan = .ok (.group sorted planned outputs))
    {rows : Rows} (hrows : execute ctx input = .ok rows) (hrs : rows.toList = rs.map .ok)
    (hkeys : ∀ r ∈ rs, Scalar.evalList ctx r planned = .ok (keyOf r))
    (houts : ∀ r ∈ rs, ∃ out,
      rowOver ctx outputs (rs.filter fun r' => sameList (keyOf r') (keyOf r)) = .ok out) :
    ∃ result classes outs, execute ctx (.group sorted planned outputs) = .ok result ∧
      Classes keyOf rs classes ∧ classes.mapM (rowOver ctx outputs) = .ok outs ∧
      result.toList = outs.map .ok ∧
      (planned = [] → rs ≠ [] → classes = [rs]) ∧ (rs = [] → result.toList = []) ∧
      (∃ schema bound, inner.outputSchema = .ok schema ∧ boundKeys functions plan = .ok bound ∧
        Scalar.planList schema functions bound = .ok planned) ∧
      ∀ schema fields, inner.outputSchema = .ok schema →
        projectionFields schema functions exprs = .ok fields →
        aggregateBindings schema functions exprs = .ok bindings →
        ∃ parts, exprs.mapM (outputsOf functions schema) = .ok parts ∧ outputs = parts.flatten := by
  obtain ⟨schema, bound, hschema, hbound, hplanned, rfl, houtputs⟩ :=
    compile_eq_group hplan hinput hgroup
  obtain ⟨classes, hclasses, -⟩ := exists_classes keyOf rs
  obtain ⟨outs, houts⟩ := hclasses.exists_mapM houts
  obtain ⟨result, hresult, hlist⟩ := execute_group_of_classes hrows hrs hkeys hclasses houts
  refine ⟨result, classes, outs, hresult, hclasses, houts, hlist, ?_, ?_,
    ⟨schema, bound, hschema, hbound, hplanned⟩, ?_⟩
  · rintro rfl hne
    refine hclasses.unique (.singleton hne fun r hr r' hr' => ?_)
    rw [← Except.ok.inj (hkeys r hr), ← Except.ok.inj (hkeys r' hr')]
    rfl
  · rintro rfl
    obtain rfl := hclasses.unique .nil
    cases houts
    exact hlist
  · intro schema' fields hschema' hfields hbindings
    obtain rfl := Except.ok.inj (hschema.symm.trans hschema')
    have hnil : ∀ b ∈ ([] : List AggregateBinding), b.position < 0 := by simp
    exact groupOutputs_eq hfields hbindings hnil houtputs

/-- A NULL key is a class of its own, and an integer is in the class of the float it equals. -/
theorem execute_group_mixed_keys :
    let field (name : String) (type : DataType) : Field := ⟨name, type, .nullable, [], none⟩
    let schema : Schema := ⟨none, [field "key" .float, field "size" .integer]⟩
    let rs : List Row := [[.float (Binary64.ofInt 1), .integer 10], [.null, .integer 20],
      [.integer 1, .integer 5], [.integer 0, .integer 7]]
    let relation (_ : String) : Except Error Relation := .ok ⟨schema, ⟨.ok (.ofRows rs)⟩⟩
    let exprs : List Expr := [.var "key", .rename "rows" (.call "count" []),
      .call "sum" [.var "size"]]
    let plan : Plan := .groupBy (.project (.load "table" (some schema)) exprs (some ⟨none,
      [field "key" .float, field "rows" .integer, field "sum" .integer]⟩)) [.var "key"]
      [⟨1, "count", []⟩, ⟨2, "sum", [.var "size"]⟩] none
    ∃ p result, compile relation .builtins {} plan = .ok p ∧ execute {} p = .ok result ∧
      result.toList = [.ok [.null, .integer 1, .integer 20],
        .ok [.integer 0, .integer 1, .integer 7],
        .ok [.float (Binary64.ofInt 1), .integer 2, .integer 15]] := by
  intro field schema rs relation exprs plan
  let keyOf : Row → List Value := fun r => [r.headD .null]
  have hinput : compile relation .builtins {} (.load "table" (some schema)) =
      .ok (.scan ⟨.ok (.ofRows rs)⟩) := rfl
  have hgroup : compile relation .builtins {} plan = .ok (.group
      (sortedBy (.scan ⟨.ok (.ofRows rs)⟩) [.column 0]) [.column 0]
      [.scalar (.column 0), .aggregate .count [], .aggregate .sum [.column 1]]) := rfl
  have hrows : execute {} (.scan ⟨.ok (.ofRows rs)⟩) = .ok (.ofRows rs) := rfl
  have hkeys : ∀ r ∈ rs, Scalar.evalList {} r [.column 0] = .ok (keyOf r) := by
    simp only [rs, List.mem_cons, List.not_mem_nil, or_false]
    rintro r (rfl | rfl | rfl | rfl) <;> rfl
  have hclasses : Classes keyOf rs [[rs[1]], [rs[3]], [rs[0], rs[2]]] := by
    refine ⟨?_, ?_, by simp [rs]⟩
    · simp only [List.pairwise_cons, List.mem_cons, List.not_mem_nil, or_false, forall_eq_or_imp,
        forall_eq]
      refine ⟨⟨rfl, rfl, rfl⟩, ⟨rfl, rfl⟩, ?_⟩
      simp
    · simp only [List.mem_cons, List.not_mem_nil, or_false]
      rintro c (rfl | rfl | rfl) <;> exact ⟨_, List.mem_cons_self, rfl⟩
  have houts : ∀ r ∈ rs, ∃ out, rowOver {} [.scalar (.column 0), .aggregate .count [],
      .aggregate .sum [.column 1]] (rs.filter fun r' => sameList (keyOf r') (keyOf r)) =
        .ok out := by
    simp only [rs, List.mem_cons, List.not_mem_nil, or_false]
    rintro r (rfl | rfl | rfl | rfl) <;> exact ⟨_, rfl⟩
  obtain ⟨result, classes, outs, hresult, hclasses', houts, hlist, -⟩ :=
    execute_group .grouped hinput hgroup hrows (Rows.toList_ofRows rs) hkeys houts
  obtain rfl := hclasses'.unique hclasses
  refine ⟨_, result, hgroup, hresult, hlist.trans ?_⟩
  cases houts
  rfl

end Physical

end QueryEngine
