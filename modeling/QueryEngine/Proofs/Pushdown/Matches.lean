import QueryEngine.Proofs.Pushdown.Documents

namespace QueryEngine

open Typing Physical

namespace Document

variable (functions : FunctionRegistry) (docs : List Document)

/-- Every predicate on the listing of keys has a value on every key. -/
def KeysEvaluate (ctx : Context) (p : Plan) : Prop :=
  ∀ e, KeyPredicate p e → ∀ s, Scalar.plan keySchema functions e = .ok s →
    ∀ d ∈ docs, ∃ v, Scalar.eval ctx d.keyRow s = .ok v

/-- Where the first plan compiles over the table, the second compiles over the adapter and gives the
same rows, as long as key predicates have values. -/
def Compiles (p q : Plan) : Prop :=
  ∀ config ctx P, compile (plain functions docs).relation functions config p = .ok P →
    KeysEvaluate functions docs ctx q →
      ∃ Q, compile (served functions docs).relation (register docs functions) config q = .ok Q ∧
        Refines ctx P Q

/-- Resolved plans with the same schema and the same rows. A projection, which may be grouped, has
to stay one. -/
structure Matches (p q : Plan) : Prop where
  schema : q.outputSchema = p.outputSchema
  compiles : Compiles functions docs p q
  grouped : ∀ i es s, p = .project i es s → ∃ i', q = .project i' es s ∧
    i'.outputSchema = i.outputSchema ∧ Compiles functions docs i i'

variable {functions docs} {p : Plan} {ps : List Plan}

theorem table_eq_ok (hf : functions.tables = FunctionRegistry.builtins.tables) {name : String}
    {f : TableFunction} (h : functions.table name = .ok f) :
    f = .flatten ∧ (register docs functions).table name = .ok f := by
  have hkeys : Unicode.lowercase TableFunction.flatten.name ≠ Unicode.lowercase keysFunction := by
    decide
  have hdecode : Unicode.lowercase TableFunction.flatten.name ≠ Unicode.lowercase decodeFunction := by
    decide
  have hbuiltins : FunctionRegistry.builtins.tables =
      [(Unicode.lowercase TableFunction.flatten.name, .flatten)] := rfl
  unfold FunctionRegistry.table at h
  split at h
  · next f' hget =>
      cases h
      rw [hf, hbuiltins, Assoc.get?, List.find?_singleton] at hget
      split at hget
      · next hname =>
          have hname : Unicode.lowercase TableFunction.flatten.name = Unicode.lowercase name := by
            simpa using hname
          cases hget
          refine ⟨rfl, ?_⟩
          have hflatten : functions.tables.get? (Unicode.lowercase TableFunction.flatten.name) =
              some .flatten := by
            simp [hf, hbuiltins, Assoc.get?]
          simp [FunctionRegistry.table, register, FunctionRegistry.addTable, listKeys, decodeKeys,
            ← hname, hkeys, hdecode, hflatten]
      · cases hget
  · cases h

theorem groupedProjection_eq_ok {input inner : Plan} {es : List Expr}
    (h : Plan.groupedProjection input = .ok (inner, es)) : ∃ own, input = .project inner es own := by
  cases input with
  | project i es own =>
      cases h
      exact ⟨own, rfl⟩
  | _ => cases h

theorem groupKeys_matches {inner inner' : Plan} {es : List Expr} {own : Option Schema}
    (h : inner'.outputSchema = inner.outputSchema) (keys : List Expr) :
    groupKeys (register docs functions) (.project inner' es own) keys =
      groupKeys functions (.project inner es own) keys := by
  refine (groupKeys_withTables functions _ _ keys).trans ?_
  simp only [groupKeys, Plan.groupedProjection, ok_bind, h]
  rfl

theorem argSchemas_matches {args : List (TableArg Plan)}
    (h : List.Forall₂ (Matches functions docs) (Plan.relationArgs args) ps) :
    argSchemas (Plan.refillArgs args ps) = argSchemas args := by
  induction args generalizing ps with
  | nil => rfl
  | cons a args ih =>
      cases a with
      | constant v => simp only [Plan.refillArgs, argSchemas, ih h]
      | relation p =>
          rcases h with _ | ⟨hp, h⟩
          simp only [Plan.refillArgs, argSchemas, hp.schema, ih h]

theorem nodeSchema_matches (hf : functions.tables = FunctionRegistry.builtins.tables)
    (h : List.Forall₂ (Matches functions docs) p.children ps)
    (hload : ∀ name s, p = .load name s → name = "") {s : Schema}
    (hs : nodeSchema functions (plain functions docs).schema p = .ok s) :
    nodeSchema (register docs functions) (served functions docs).schema (p.refill ps) = .ok s := by
  have hcheck (s : Schema) (e : Option Expr) :
      checkPredicate (register docs functions) s e = checkPredicate functions s e :=
    checkPredicate_withTables s functions _ e
  have hcheckAll (s : Schema) (es : List Expr) :
      checkAll (register docs functions) s es = checkAll functions s es :=
    checkAll_withTables s functions _ es
  cases p with
  | load name own =>
      obtain rfl := hload name own rfl
      exact hs
  | placeholder => cases hs
  | tableFunction name args own =>
      obtain ⟨f, hf', hs⟩ := bind_eq_ok.1 hs
      obtain ⟨schemas, hschemas, hs⟩ := bind_eq_ok.1 hs
      simp only [Plan.refill, nodeSchema, (table_eq_ok hf hf').2, ok_bind, argSchemas_matches h,
        hschemas, hs]
  | join l r e t own =>
      rcases h with _ | ⟨hl, _ | ⟨hr, _ | _⟩⟩
      simpa only [Plan.refill, nodeSchema, hl.schema, hr.schema, hcheck] using hs
  | unionAll l r own =>
      rcases h with _ | ⟨hl, _ | ⟨hr, _ | _⟩⟩
      simpa only [Plan.refill, nodeSchema, hl.schema, hr.schema] using hs
  | groupBy i keys as own =>
      rcases h with _ | ⟨hi, _ | _⟩
      obtain ⟨⟨inner, es⟩, hgrouped, hs⟩ := bind_eq_ok.1 hs
      obtain ⟨own', rfl⟩ := groupedProjection_eq_ok hgrouped
      obtain ⟨inner', rfl, hinner, -⟩ := hi.grouped inner es own' rfl
      simpa only [Plan.refill, nodeSchema, Plan.groupedProjection, ok_bind, hinner, hi.schema,
        groupKeys_matches hinner, hcheckAll] using hs
  | project i es own =>
      rcases h with _ | ⟨hi, _ | _⟩
      have hfields (s : Schema) : projectionFields s (register docs functions) es =
          projectionFields s functions es := projectionFields_withTables s functions _ es
      simpa only [Plan.refill, nodeSchema, hi.schema, hfields] using hs
  | aliased n i own | select i e own | orderBy i ks own | slice i a b own =>
      rcases h with _ | ⟨hi, _ | _⟩
      simpa only [Plan.refill, nodeSchema, hi.schema, hcheck, hcheckAll] using hs

theorem bindAggregates_matches (h : List.Forall₂ (Matches functions docs) p.children ps) {q : Plan}
    (hq : bindAggregates functions p = .ok q) :
    bindAggregates (register docs functions) (p.refill ps) = .ok (q.refill ps) := by
  by_cases hkind : p.kind = "GroupBy"
  · cases p with
    | groupBy i keys as own =>
        rcases h with _ | ⟨hi, _ | _⟩
        obtain ⟨⟨inner, es⟩, hgrouped, hq⟩ := bind_eq_ok.1 hq
        obtain ⟨s, hs, hq⟩ := bind_eq_ok.1 hq
        obtain ⟨bindings, hbindings, hq⟩ := bind_eq_ok.1 hq
        cases hq
        obtain ⟨own', rfl⟩ := groupedProjection_eq_ok hgrouped
        obtain ⟨inner', rfl, hinner, -⟩ := hi.grouped inner es own' rfl
        have hbindings : aggregateBindings s (register docs functions) es = .ok bindings :=
          (aggregateBindings_withTables s functions _ es).trans hbindings
        simp [Plan.refill, bindAggregates, Plan.groupedProjection, hinner, hs, hbindings]
    | _ => simp [Plan.kind] at hkind
  · have hsame (functions : FunctionRegistry) {p : Plan} (hkind : p.kind ≠ "GroupBy") :
        bindAggregates functions p = .ok p := by
      cases p with
      | groupBy => exact absurd rfl hkind
      | _ => rfl
    rw [hsame functions hkind] at hq
    cases hq
    exact hsame _ (by rwa [Plan.kind_refill])

theorem annotateNode_matches (hf : functions.tables = FunctionRegistry.builtins.tables)
    (h : List.Forall₂ (Matches functions docs) p.children ps)
    (hload : ∀ name s, p = .load name s → name = "") {q : Plan}
    (hq : annotateNode functions (plain functions docs).schema p = .ok q) :
    annotateNode (register docs functions) (served functions docs).schema (p.refill ps) =
      .ok (q.refill ps) := by
  by_cases hhole : p = .placeholder
  · subst hhole
    cases hq
    rfl
  · have hhole' : p.refill ps ≠ .placeholder := by
      intro h
      have hkind := Plan.kind_refill p ps
      rw [h] at hkind
      cases p <;> simp [Plan.kind] at hkind hhole
    rw [annotateNode_of_ne hhole] at hq
    rw [annotateNode_of_ne hhole']
    obtain ⟨s, hs, hq⟩ := bind_eq_ok.1 hq
    obtain ⟨b, hb, hq⟩ := bind_eq_ok.1 hq
    cases hq
    simp [resolveNode, nodeSchema_matches hf h hload hs, bindAggregates_matches h hb,
      Plan.withSchema_refill]

theorem compileArgs_matches {args : List (TableArg Plan)} {config : Config} {ctx : Context}
    (h : List.Forall₂ (Matches functions docs) (Plan.relationArgs args) ps)
    (hkeys : ∀ q ∈ ps, KeysEvaluate functions docs ctx q)
    {compiled : List (TableArg (Schema × Physical))}
    (hc : compileArgs (plain functions docs).relation functions config args = .ok compiled) :
    ∃ compiled', compileArgs (served functions docs).relation (register docs functions) config
        (Plan.refillArgs args ps) = .ok compiled' ∧
      List.Forall₂ (ArgRefines ctx) compiled compiled' := by
  induction args generalizing ps compiled with
  | nil =>
      cases hc
      exact ⟨[], rfl, .nil⟩
  | cons a args ih =>
      cases a with
      | constant v =>
          obtain ⟨rest, hrest, hc⟩ := bind_eq_ok.1 hc
          cases hc
          obtain ⟨rest', hrest', hall⟩ := ih h hkeys hrest
          exact ⟨.constant v :: rest', by simp [Plan.refillArgs, compileArgs, hrest'],
            .cons (.constant v) hall⟩
      | relation p =>
          rcases h with _ | ⟨hp, h⟩
          obtain ⟨s, hs, hc⟩ := bind_eq_ok.1 hc
          obtain ⟨P, hP, hc⟩ := bind_eq_ok.1 hc
          obtain ⟨rest, hrest, hc⟩ := bind_eq_ok.1 hc
          cases hc
          obtain ⟨Q, hQ, hrefines⟩ := hp.compiles config ctx P hP (hkeys _ List.mem_cons_self)
          obtain ⟨rest', hrest', hall⟩ := ih h (fun q hq => hkeys q (List.mem_cons_of_mem _ hq)) hrest
          exact ⟨.relation (s, Q) :: rest',
            by simp [Plan.refillArgs, compileArgs, hp.schema, hs, hQ, hrest'],
            .cons (.relation s hrefines) hall⟩

theorem Matches.input {i i' q : Plan} (h : Matches functions docs i i') {config : Config}
    {ctx : Context} {P : Physical}
    (hP : compile (plain functions docs).relation functions config i = .ok P)
    (hkeys : KeysEvaluate functions docs ctx q) (hi : i' ∈ q.children) :
    ∃ Q, compile (served functions docs).relation (register docs functions) config i' = .ok Q ∧
      Refines ctx P Q :=
  h.compiles config ctx P hP fun e he => hkeys e (.inside hi he)

section

variable {i i' : Plan} (h : Matches functions docs i i')

include h

theorem Matches.project (es : List Expr) (own : Option Schema) :
    Compiles functions docs (.project i es own) (.project i' es own) := by
  intro config ctx P hP hkeys
  obtain ⟨s, hs, hP⟩ := bind_eq_ok.1 hP
  obtain ⟨input, hinput, hP⟩ := bind_eq_ok.1 hP
  obtain ⟨input', hinput', hrefines⟩ := h.input hinput hkeys (List.mem_singleton_self _)
  obtain ⟨Q, hQ, hrefines⟩ := hrefines.project? hP
  have hQ : project? (register docs functions) input' s es = .ok Q :=
    (project?_withTables s functions _ _ _).trans hQ
  exact ⟨Q, by simp [compile, h.schema, hs, hinput', hQ], hrefines⟩

theorem Matches.select (e : Option Expr) (own : Option Schema) :
    Compiles functions docs (.select i e own) (.select i' e own) := by
  intro config ctx P hP hkeys
  cases e with
  | none =>
      obtain ⟨input, hinput, hP⟩ := bind_eq_ok.1 hP
      cases hP
      obtain ⟨input', hinput', hrefines⟩ := h.input hinput hkeys (List.mem_singleton_self _)
      exact ⟨.filter input' none, by simp [compile, hinput'], hrefines.filter none⟩
  | some e =>
      obtain ⟨s, hs, hP⟩ := bind_eq_ok.1 hP
      obtain ⟨sc, hsc, hP⟩ := bind_eq_ok.1 hP
      obtain ⟨input, hinput, hP⟩ := bind_eq_ok.1 hP
      cases hP
      obtain ⟨input', hinput', hrefines⟩ := h.input hinput hkeys (List.mem_singleton_self _)
      have hsc : Scalar.plan s (register docs functions) e = .ok sc :=
        (Scalar.plan_withTables s functions _ _).trans hsc
      exact ⟨.filter input' (some sc), by simp [compile, h.schema, hs, hsc, hinput'],
        hrefines.filter (some sc)⟩

theorem Matches.orderBy (ks : List Expr) (own : Option Schema) :
    Compiles functions docs (.orderBy i ks own) (.orderBy i' ks own) := by
  intro config ctx P hP hkeys
  obtain ⟨s, hs, hP⟩ := bind_eq_ok.1 hP
  obtain ⟨keys, hsort, hP⟩ := bind_eq_ok.1 hP
  obtain ⟨input, hinput, hP⟩ := bind_eq_ok.1 hP
  cases hP
  obtain ⟨input', hinput', hrefines⟩ := h.input hinput hkeys (List.mem_singleton_self _)
  have hsort : sortKeys (register docs functions) s ks = .ok keys :=
    (sortKeys_withTables s functions _ _).trans hsort
  exact ⟨.sort input' keys, by simp [compile, h.schema, hs, hsort, hinput'], hrefines.sort keys⟩

theorem Matches.slice (start stop : Option Nat) (own : Option Schema) :
    Compiles functions docs (.slice i start stop own) (.slice i' start stop own) := by
  intro config ctx P hP hkeys
  obtain ⟨input, hinput, hP⟩ := bind_eq_ok.1 hP
  cases hP
  obtain ⟨input', hinput', hrefines⟩ := h.input hinput hkeys (List.mem_singleton_self _)
  exact ⟨.limit input' start stop, by simp [compile, hinput'], hrefines.limit start stop⟩

theorem Matches.groupBy (keys : List Expr) (bindings : List AggregateBinding)
    (own : Option Schema) :
    Compiles functions docs (.groupBy i keys bindings own) (.groupBy i' keys bindings own) := by
  intro config ctx P hP hkeys
  cases i with
  | project inner es own' =>
      obtain ⟨inner', rfl, hinner, hcompiles⟩ := h.grouped inner es own' rfl
      obtain ⟨s, hs, hP⟩ := bind_eq_ok.1 hP
      obtain ⟨groupKeys, hgroupKeys, hP⟩ := bind_eq_ok.1 hP
      obtain ⟨planned, hplanned, hP⟩ := bind_eq_ok.1 hP
      obtain ⟨input, hinput, hP⟩ := bind_eq_ok.1 hP
      obtain ⟨outputs, houtputs, hP⟩ := bind_eq_ok.1 hP
      cases hP
      obtain ⟨input', hinput', hrefines⟩ := hcompiles config ctx input hinput fun e he =>
        hkeys e (.inside (List.mem_singleton_self _) (.inside (List.mem_singleton_self _) he))
      have hplanned : Scalar.planList s (register docs functions) groupKeys = .ok planned :=
        (Scalar.planList_withTables s functions _ _).trans hplanned
      have houtputs : groupOutputs (register docs functions) s bindings 0 es = .ok outputs :=
        (groupOutputs_withTables s functions _ _ _ _).trans houtputs
      refine ⟨_, ?_, (hrefines.sortedBy planned).group planned outputs⟩
      simp [compile, hinner, hs, groupKeys_matches hinner, hgroupKeys, hplanned, hinput', houtputs]
  | _ => cases hP

variable {j j' : Plan} (h' : Matches functions docs j j')

include h'

theorem Matches.unionAll (own : Option Schema) :
    Compiles functions docs (.unionAll i j own) (.unionAll i' j' own) := by
  intro config ctx P hP hkeys
  obtain ⟨left, hleft, hP⟩ := bind_eq_ok.1 hP
  obtain ⟨right, hright, hP⟩ := bind_eq_ok.1 hP
  cases hP
  obtain ⟨left', hleft', hl⟩ := h.input hleft hkeys List.mem_cons_self
  obtain ⟨right', hright', hr⟩ :=
    h'.input hright hkeys (List.mem_cons_of_mem _ List.mem_cons_self)
  exact ⟨.union left' right', by simp [compile, hleft', hright'], hl.union hr⟩

theorem Matches.join (e : Option Expr) (type : JoinType) (own : Option Schema) :
    Compiles functions docs (.join i j e type own) (.join i' j' e type own) := by
  intro config ctx P hP hkeys
  obtain ⟨s, hs, hP⟩ := bind_eq_ok.1 hP
  obtain ⟨leftSchema, hleftSchema, hP⟩ := bind_eq_ok.1 hP
  obtain ⟨rightSchema, hrightSchema, hP⟩ := bind_eq_ok.1 hP
  obtain ⟨left, hleft, hP⟩ := bind_eq_ok.1 hP
  obtain ⟨right, hright, hP⟩ := bind_eq_ok.1 hP
  obtain ⟨left', hleft', hl⟩ := h.input hleft hkeys List.mem_cons_self
  obtain ⟨right', hright', hr⟩ :=
    h'.input hright hkeys (List.mem_cons_of_mem _ List.mem_cons_self)
  obtain ⟨Q, hQ, hrefines⟩ := hl.join? hr hP
  have hQ : join? (register docs functions) config left' right' s leftSchema.size rightSchema.size e
      type = .ok Q :=
    (join?_withTables s functions _ _ _ _ _ _ _ _).trans hQ
  have hs : (Plan.join i' j' e type own).outputSchema = .ok s := hs
  exact ⟨Q, by simp [compile, h.schema, h'.schema, hs, hleftSchema, hrightSchema, hleft', hright', hQ],
    hrefines⟩

end

/-- A node over matching children compiles to the same operator over refining inputs. -/
theorem compiles_refill (hf : functions.tables = FunctionRegistry.builtins.tables)
    (h : List.Forall₂ (Matches functions docs) p.children ps)
    (hload : ∀ name s, p = .load name s → name = "") : Compiles functions docs p (p.refill ps) := by
  cases p with
  | load name own =>
      obtain rfl := hload name own rfl
      rintro config ctx P ⟨⟩ -
      exact ⟨.empty, rfl, .refl _⟩
  | placeholder =>
      rintro config ctx P ⟨⟩
  | aliased n i own =>
      rcases h with _ | ⟨hi, _ | _⟩
      exact fun config ctx P hP hkeys => hi.input hP hkeys (List.mem_singleton_self _)
  | project i es own =>
      rcases h with _ | ⟨hi, _ | _⟩
      exact hi.project es own
  | select i e own =>
      rcases h with _ | ⟨hi, _ | _⟩
      exact hi.select e own
  | orderBy i ks own =>
      rcases h with _ | ⟨hi, _ | _⟩
      exact hi.orderBy ks own
  | groupBy i keys bindings own =>
      rcases h with _ | ⟨hi, _ | _⟩
      exact hi.groupBy keys bindings own
  | slice i start stop own =>
      rcases h with _ | ⟨hi, _ | _⟩
      exact hi.slice start stop own
  | join l r e t own =>
      rcases h with _ | ⟨hl, _ | ⟨hr, _ | _⟩⟩
      exact hl.join hr e t own
  | unionAll l r own =>
      rcases h with _ | ⟨hl, _ | ⟨hr, _ | _⟩⟩
      exact hl.unionAll hr own
  | tableFunction name args own =>
      intro config ctx P hP hkeys
      obtain ⟨f, hf', hP⟩ := bind_eq_ok.1 hP
      obtain ⟨compiled, hcompiled, hP⟩ := bind_eq_ok.1 hP
      cases hP
      obtain ⟨rfl, htable⟩ := @table_eq_ok functions docs hf _ _ hf'
      have hchildren : ((Plan.tableFunction name args own).refill ps).children = ps :=
        Plan.children_refill _ _ h.length_eq.symm
      obtain ⟨compiled', hcompiled', hall⟩ := compileArgs_matches h
        (fun q hq e he => hkeys e (.inside (hchildren.symm ▸ hq) he)) hcompiled
      exact ⟨.tableFunction .flatten compiled', by simp [Plan.refill, compile, htable, hcompiled'],
        .flatten hall⟩

theorem matches_refill (hf : functions.tables = FunctionRegistry.builtins.tables)
    (h : List.Forall₂ (Matches functions docs) p.children ps)
    (hload : ∀ name s, p = .load name s → name = "") : Matches functions docs p (p.refill ps) where
  schema := Plan.outputSchema_refill p ps
  compiles := compiles_refill hf h hload
  grouped i es s hp := by
    subst hp
    rcases h with _ | ⟨hi, _ | _⟩
    exact ⟨_, rfl, hi.schema, hi.compiles⟩

theorem exists_matches_node (hf : functions.tables = FunctionRegistry.builtins.tables)
    (h : List.Forall₂ (Matches functions docs) p.children ps)
    (hload : ∀ name s, p = .load name s → name = "") {q : Plan}
    (hq : annotateNode functions (plain functions docs).schema p = .ok q) :
    ∃ q', annotateNode (register docs functions) (served functions docs).schema (p.refill ps) =
      .ok q' ∧ Matches functions docs q q' := by
  have hchildren := (annotateNode_eq_ok hq).1
  refine ⟨_, annotateNode_matches hf h hload hq, matches_refill hf (hchildren ▸ h) fun name s hs => ?_⟩
  subst hs
  have hkind := kind_of_annotateNode hq
  cases p with
  | load name' own =>
      obtain ⟨_, -, hq⟩ := bind_eq_ok.1 hq
      cases hq
      exact hload name own rfl
  | _ => simp [Plan.kind] at hkind

end Document

end QueryEngine
