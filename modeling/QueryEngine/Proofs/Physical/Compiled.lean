import QueryEngine.Proofs.Alignment.Operators
import QueryEngine.Proofs.Resolution.Annotate

namespace QueryEngine

open Typing

namespace Typing

variable {functions : FunctionRegistry} {schemaOf : String → Except Error Schema} {p : Plan}

theorem annotate_of_mem_children (h : annotate functions schemaOf p = .ok p) :
    ∀ c ∈ p.children, annotate functions schemaOf c = .ok c := by
  rw [annotate_eq] at h
  obtain ⟨cs, hcs, h⟩ := bind_eq_ok.1 h
  have hchildren := (annotateNode_eq_ok h).1
  rw [Plan.children_refill _ _ (length_of_mapM hcs)] at hchildren
  rw [← hchildren, mapM_eq_ok, List.forall₂_same] at hcs
  exact hcs

theorem resolveNode_of_annotate (h : annotate functions schemaOf p = .ok p)
    (hhole : p ≠ .placeholder) : resolveNode functions schemaOf p = .ok p := by
  have hchildren : p.children.mapM (annotate functions schemaOf) = .ok p.children := by
    rw [mapM_eq_ok, List.forall₂_same]
    exact annotate_of_mem_children h
  rwa [annotate_eq, hchildren, ok_bind, Plan.refill_children, annotateNode_of_ne hhole] at h

theorem nodeSchema_of_annotate (h : annotate functions schemaOf p = .ok p) {s : Schema}
    (hs : p.outputSchema = .ok s) : nodeSchema functions schemaOf p = .ok s := by
  have hhole : p ≠ .placeholder := by
    rintro rfl
    cases hs
  obtain ⟨s', hs', h⟩ := bind_eq_ok.1 (resolveNode_of_annotate h hhole)
  obtain ⟨b, -, h⟩ := bind_eq_ok.1 h
  have hb : b.withSchema s' = p := Except.ok.inj h
  have hschema : b.withSchema s' = .placeholder ∨ (b.withSchema s').schema? = some s' := by
    cases b <;> simp [Plan.withSchema, Plan.schema?]
  rcases hschema with hb' | hschema
  · exact absurd (hb.symm.trans hb') hhole
  · rw [hb] at hschema
    simp only [Plan.outputSchema, hschema, Except.ok.injEq] at hs
    rw [hs', hs]

theorem of_unionSchema {l r s : Schema} (h : unionSchema l r = .ok s) :
    l = s ∧ r.size = s.size := by
  unfold unionSchema at h
  split at h
  · cases h
  · next hsize =>
      obtain ⟨_, -, h⟩ := bind_eq_ok.1 h
      cases h
      exact ⟨rfl, (not_not.1 hsize).symm⟩

end Typing

namespace Physical

variable (relation : String → Except Error Relation) (functions : FunctionRegistry)
  (config : Config)

/-- The plan carries the schema and compiles to the physical plan, as do the plans below it. -/
inductive Compiles : Plan → Schema → Physical → Prop
  | empty {s : Schema} (hs : s = Schema.empty) : Compiles (.load "" (some s)) s .empty
  | scan {name : String} {s : Schema} {r : Relation} (hname : name ≠ "")
    (hr : relation name = .ok r) : Compiles (.load name (some s)) s (.scan r.source)
  | aliased {name : String} {input : Plan} {s : Schema} {P : Physical} (h : Compiles input s P) :
    Compiles (.aliased name input (some (s.qualified name))) (s.qualified name) P
  | project {input : Plan} {es : List Expr} {s : Schema} {fields : List Field} {I P : Physical}
    (h : Compiles input s I) (hfields : projectionFields s functions es = .ok fields)
    (hP : project? functions I s es = .ok P) :
    Compiles (.project input es (some ⟨none, fields⟩)) ⟨none, fields⟩ P
  | select {input : Plan} {predicate : Option Expr} {s : Schema} {test : Option Scalar}
    {I : Physical} (h : Compiles input s I)
    (htest : planPredicate functions s predicate = .ok test) :
    Compiles (.select input predicate (some s)) s (.filter I test)
  | join {left right : Plan} {predicate : Option Expr} {type : JoinType} {l r : Schema}
    {L R P : Physical} (hl : Compiles left l L) (hr : Compiles right r R)
    (hP : join? functions config L R (joinSchema type l r) l.size r.size predicate type = .ok P) :
    Compiles (.join left right predicate type (some (joinSchema type l r))) (joinSchema type l r) P
  | unionAll {left right : Plan} {l r : Schema} {L R : Physical} (hl : Compiles left l L)
    (hr : Compiles right r R) (hsize : r.size = l.size) :
    Compiles (.unionAll left right (some l)) l (.union L R)
  | orderBy {input : Plan} {keys : List Expr} {s : Schema} {sort : List SortKey} {I : Physical}
    (h : Compiles input s I) (hsort : sortKeys functions s keys = .ok sort) :
    Compiles (.orderBy input keys (some s)) s (.sort I sort)
  | groupBy {inner : Plan} {es keys bound : List Expr} {bindings : List AggregateBinding}
    {s : Schema} {fields : List Field} {planned : List Scalar} {outputs : List GroupOutput}
    {I : Physical} (h : Compiles inner s I)
    (hfields : projectionFields s functions es = .ok fields)
    (hbindings : aggregateBindings s functions es = .ok bindings)
    (hplanned : Scalar.planList s functions bound = .ok planned)
    (houtputs : groupOutputs functions s bindings 0 es = .ok outputs) :
    Compiles (.groupBy (.project inner es (some ⟨none, fields⟩)) keys bindings
      (some ⟨none, fields⟩)) ⟨none, fields⟩ (.group (sortedBy I planned) planned outputs)
  | slice {input : Plan} {start stop : Option Nat} {s : Schema} {I : Physical}
    (h : Compiles input s I) : Compiles (.slice input start stop (some s)) s (.limit I start stop)
  | tableFunction {name : String} {args : List (TableArg Plan)} {f : TableFunction}
    {compiled : List (TableArg (Schema × Physical))} {s : Schema}
    (hf : functions.table name = .ok f)
    (hcompiled : compileArgs relation functions config args = .ok compiled)
    (hs : f.schema (compiled.map (TableArg.map (·.1))) = .ok s)
    (hargs : ∀ p ∈ Plan.relationArgs args, ∀ s' P, p.outputSchema = .ok s' →
      compile relation functions config p = .ok P → Compiles p s' P) :
    Compiles (.tableFunction name args (some s)) s (.tableFunction f compiled)

variable {relation functions config} {schemaOf : String → Except Error Schema}

inductive CompilesArg (relation : String → Except Error Relation) (functions : FunctionRegistry)
    (config : Config) : TableArg Plan → TableArg (Schema × Physical) → Prop
  | constant (v : Value) : CompilesArg relation functions config (.constant v) (.constant v)
  | relation {p : Plan} {s : Schema} {P : Physical} (hs : p.outputSchema = .ok s)
    (hP : compile relation functions config p = .ok P) :
    CompilesArg relation functions config (.relation p) (.relation (s, P))

variable {args : List (TableArg Plan)} {compiled : List (TableArg (Schema × Physical))}

theorem forall₂_of_compileArgs (h : compileArgs relation functions config args = .ok compiled) :
    List.Forall₂ (CompilesArg relation functions config) args compiled := by
  induction args generalizing compiled with
  | nil =>
      cases h
      exact .nil
  | cons a args ih =>
      cases a with
      | constant v =>
          obtain ⟨rest, hrest, h⟩ := bind_eq_ok.1 h
          cases h
          exact .cons (.constant v) (ih hrest)
      | relation p =>
          obtain ⟨s, hs, h⟩ := bind_eq_ok.1 h
          obtain ⟨P, hP, h⟩ := bind_eq_ok.1 h
          obtain ⟨rest, hrest, h⟩ := bind_eq_ok.1 h
          cases h
          exact .cons (.relation hs hP) (ih hrest)

theorem schemas_of_compileArgs (h : compileArgs relation functions config args = .ok compiled)
    {schemas : List (TableArg Schema)} (hschemas : argSchemas args = .ok schemas) :
    schemas = compiled.map (TableArg.map (·.1)) := by
  have hargs := forall₂_of_compileArgs h
  clear h
  induction hargs generalizing schemas with
  | nil =>
      cases hschemas
      rfl
  | cons ha _ ih =>
      cases ha with
      | constant v =>
          obtain ⟨rest, hrest, hschemas⟩ := bind_eq_ok.1 hschemas
          cases hschemas
          rw [ih hrest]
          rfl
      | relation hs _ =>
          obtain ⟨s, hs', hschemas⟩ := bind_eq_ok.1 hschemas
          obtain ⟨rest, hrest, hschemas⟩ := bind_eq_ok.1 hschemas
          obtain rfl := Except.ok.inj (hs.symm.trans hs')
          cases hschemas
          rw [ih hrest]
          rfl

theorem exists_of_mem_compileArgs (h : compileArgs relation functions config args = .ok compiled)
    {s : Schema} {P : Physical} (hmem : .relation (s, P) ∈ compiled) :
    ∃ p ∈ Plan.relationArgs args, p.outputSchema = .ok s ∧
      compile relation functions config p = .ok P := by
  have hargs := forall₂_of_compileArgs h
  clear h
  induction hargs with
  | nil => cases hmem
  | cons ha _ ih =>
      cases ha with
      | constant v =>
          obtain ⟨p, hp, hs⟩ := ih (by simpa using hmem)
          exact ⟨p, hp, hs⟩
      | @relation p _ _ hs hP =>
          rcases List.mem_cons.1 hmem with hmem | hmem
          · cases hmem
            exact ⟨p, List.mem_cons_self, hs, hP⟩
          · obtain ⟨q, hq, hs⟩ := ih hmem
            exact ⟨q, List.mem_cons_of_mem _ hq, hs⟩

theorem Compiles.outputSchema_eq {p : Plan} {s : Schema} {P : Physical}
    (h : Compiles relation functions config p s P) : p.outputSchema = .ok s := by
  cases h <;> rfl

theorem aggregateBindings_of_annotate {inner : Plan} {es keys : List Expr}
    {bindings : List AggregateBinding} {own own' : Option Schema} {s : Schema}
    (h : annotate functions schemaOf (.groupBy (.project inner es own) keys bindings own') =
      .ok (.groupBy (.project inner es own) keys bindings own'))
    (hs : inner.outputSchema = .ok s) : aggregateBindings s functions es = .ok bindings := by
  have hnode := resolveNode_of_annotate h (by simp)
  obtain ⟨_, -, hnode⟩ := bind_eq_ok.1 hnode
  simp only [bindAggregates, Plan.groupedProjection, ok_bind, hs] at hnode
  obtain ⟨b, hb, hnode⟩ := bind_eq_ok.1 hnode
  obtain ⟨bindings', hbindings', hb⟩ := bind_eq_ok.1 hb
  cases hb
  cases hnode
  exact hbindings'

theorem schema?_of_outputSchema {p : Plan} {s : Schema} (h : p.outputSchema = .ok s) :
    p.schema? = some s := by
  unfold Plan.outputSchema at h
  split at h
  · next hs =>
      cases h
      exact hs
  · cases h

variable (relation functions config) in
def CompilesAs (p : Plan) : Prop :=
  ∀ s P, p.outputSchema = .ok s → compile relation functions config p = .ok P →
    Compiles relation functions config p s P

section

variable {input : Plan} {own : Option Schema} (hinput : CompilesAs relation functions config input)

theorem compilesAs_load {name : String}
    (hp : annotate functions schemaOf (.load name own) = .ok (.load name own)) :
    CompilesAs relation functions config (.load name own) := by
  intro s P hs hP
  have hnode := nodeSchema_of_annotate hp hs
  obtain rfl : own = some s := schema?_of_outputSchema hs
  rw [compile] at hP
  split at hP
  · next hname =>
      subst hname
      cases hP
      simp only [nodeSchema, if_true] at hnode
      exact .empty (Except.ok.inj hnode).symm
  · next hname =>
      obtain ⟨r, hr, hP⟩ := bind_eq_ok.1 hP
      cases hP
      exact .scan hname hr

include hinput

theorem compilesAs_aliased {name : String}
    (hp : annotate functions schemaOf (.aliased name input own) = .ok (.aliased name input own)) :
    CompilesAs relation functions config (.aliased name input own) := by
  intro s P hs hP
  have hnode := nodeSchema_of_annotate hp hs
  obtain rfl : own = some s := schema?_of_outputSchema hs
  obtain ⟨i, hi, hnode⟩ := bind_eq_ok.1 hnode
  cases hnode
  exact .aliased (hinput i P hi hP)

theorem compilesAs_project {es : List Expr}
    (hp : annotate functions schemaOf (.project input es own) = .ok (.project input es own)) :
    CompilesAs relation functions config (.project input es own) := by
  intro s P hs hP
  have hnode := nodeSchema_of_annotate hp hs
  obtain rfl : own = some s := schema?_of_outputSchema hs
  obtain ⟨i, hi, hnode⟩ := bind_eq_ok.1 hnode
  obtain ⟨fields, hfields, hnode⟩ := bind_eq_ok.1 hnode
  cases hnode
  obtain ⟨i', hi', hP⟩ := bind_eq_ok.1 hP
  obtain rfl := Except.ok.inj (hi.symm.trans hi')
  obtain ⟨I, hI, hP⟩ := bind_eq_ok.1 hP
  exact .project (hinput i I hi hI) hfields hP

theorem compilesAs_select {predicate : Option Expr}
    (hp : annotate functions schemaOf (.select input predicate own) =
      .ok (.select input predicate own)) :
    CompilesAs relation functions config (.select input predicate own) := by
  intro s P hs hP
  have hnode := nodeSchema_of_annotate hp hs
  obtain rfl : own = some s := schema?_of_outputSchema hs
  obtain ⟨i, hi, hnode⟩ := bind_eq_ok.1 hnode
  obtain ⟨_, -, hnode⟩ := bind_eq_ok.1 hnode
  cases hnode
  cases predicate with
  | none =>
      obtain ⟨I, hI, hP⟩ := bind_eq_ok.1 hP
      cases hP
      exact .select (hinput s I hi hI) rfl
  | some e =>
      obtain ⟨i', hi', hP⟩ := bind_eq_ok.1 hP
      obtain rfl := Except.ok.inj (hi.symm.trans hi')
      obtain ⟨test, htest, hP⟩ := bind_eq_ok.1 hP
      obtain ⟨I, hI, hP⟩ := bind_eq_ok.1 hP
      cases hP
      exact .select (hinput s I hi hI) (by simp [planPredicate, htest])

theorem compilesAs_orderBy {keys : List Expr}
    (hp : annotate functions schemaOf (.orderBy input keys own) = .ok (.orderBy input keys own)) :
    CompilesAs relation functions config (.orderBy input keys own) := by
  intro s P hs hP
  have hnode := nodeSchema_of_annotate hp hs
  obtain rfl : own = some s := schema?_of_outputSchema hs
  obtain ⟨i, hi, hnode⟩ := bind_eq_ok.1 hnode
  obtain ⟨_, -, hnode⟩ := bind_eq_ok.1 hnode
  cases hnode
  obtain ⟨i', hi', hP⟩ := bind_eq_ok.1 hP
  obtain rfl := Except.ok.inj (hi.symm.trans hi')
  obtain ⟨sort, hsort, hP⟩ := bind_eq_ok.1 hP
  obtain ⟨I, hI, hP⟩ := bind_eq_ok.1 hP
  cases hP
  exact .orderBy (hinput s I hi hI) hsort

theorem compilesAs_slice {start stop : Option Nat}
    (hp : annotate functions schemaOf (.slice input start stop own) =
      .ok (.slice input start stop own)) :
    CompilesAs relation functions config (.slice input start stop own) := by
  intro s P hs hP
  have hnode := nodeSchema_of_annotate hp hs
  obtain rfl : own = some s := schema?_of_outputSchema hs
  obtain ⟨I, hI, hP⟩ := bind_eq_ok.1 hP
  cases hP
  exact .slice (hinput s I hnode hI)

theorem compilesAs_groupBy {es keys : List Expr} {bindings : List AggregateBinding}
    {own' : Option Schema}
    (hp : annotate functions schemaOf (.groupBy (.project input es own) keys bindings own') =
      .ok (.groupBy (.project input es own) keys bindings own')) :
    CompilesAs relation functions config (.groupBy (.project input es own) keys bindings own') := by
  intro s P hs hP
  have hnode := nodeSchema_of_annotate hp hs
  obtain rfl : own' = some s := schema?_of_outputSchema hs
  obtain ⟨_, -, hnode⟩ := bind_eq_ok.1 hnode
  obtain ⟨_, -, hnode⟩ := bind_eq_ok.1 hnode
  obtain ⟨_, -, hnode⟩ := bind_eq_ok.1 hnode
  obtain ⟨_, -, hnode⟩ := bind_eq_ok.1 hnode
  obtain rfl : own = some s := schema?_of_outputSchema hnode
  have hproject := annotate_of_mem_children hp _ List.mem_cons_self
  obtain ⟨i, hi, hschema⟩ := bind_eq_ok.1 (nodeSchema_of_annotate hproject hnode)
  obtain ⟨fields, hfields, hschema⟩ := bind_eq_ok.1 hschema
  cases hschema
  obtain ⟨i', hi', hP⟩ := bind_eq_ok.1 hP
  obtain rfl := Except.ok.inj (hi.symm.trans hi')
  obtain ⟨bound, -, hP⟩ := bind_eq_ok.1 hP
  obtain ⟨planned, hplanned, hP⟩ := bind_eq_ok.1 hP
  obtain ⟨I, hI, hP⟩ := bind_eq_ok.1 hP
  obtain ⟨outputs, houtputs, hP⟩ := bind_eq_ok.1 hP
  cases hP
  exact .groupBy (hinput i I hi hI) hfields (aggregateBindings_of_annotate hp hi) hplanned houtputs

end

theorem compilesAs_join {left right : Plan} {predicate : Option Expr} {type : JoinType}
    {own : Option Schema} (hleft : CompilesAs relation functions config left)
    (hright : CompilesAs relation functions config right)
    (hp : annotate functions schemaOf (.join left right predicate type own) =
      .ok (.join left right predicate type own)) :
    CompilesAs relation functions config (.join left right predicate type own) := by
  intro s P hs hP
  have hnode := nodeSchema_of_annotate hp hs
  obtain rfl : own = some s := schema?_of_outputSchema hs
  obtain ⟨l, hl, hnode⟩ := bind_eq_ok.1 hnode
  obtain ⟨r, hr, hnode⟩ := bind_eq_ok.1 hnode
  obtain ⟨_, -, hnode⟩ := bind_eq_ok.1 hnode
  cases hnode
  obtain ⟨s', hs', hP⟩ := bind_eq_ok.1 hP
  obtain rfl := Except.ok.inj (hs.symm.trans hs')
  obtain ⟨l', hl', hP⟩ := bind_eq_ok.1 hP
  obtain rfl := Except.ok.inj (hl.symm.trans hl')
  obtain ⟨r', hr', hP⟩ := bind_eq_ok.1 hP
  obtain rfl := Except.ok.inj (hr.symm.trans hr')
  obtain ⟨L, hL, hP⟩ := bind_eq_ok.1 hP
  obtain ⟨R, hR, hP⟩ := bind_eq_ok.1 hP
  exact .join (hleft l L hl hL) (hright r R hr hR) hP

theorem compilesAs_unionAll {left right : Plan} {own : Option Schema}
    (hleft : CompilesAs relation functions config left)
    (hright : CompilesAs relation functions config right)
    (hp : annotate functions schemaOf (.unionAll left right own) = .ok (.unionAll left right own)) :
    CompilesAs relation functions config (.unionAll left right own) := by
  intro s P hs hP
  have hnode := nodeSchema_of_annotate hp hs
  obtain rfl : own = some s := schema?_of_outputSchema hs
  obtain ⟨l, hl, hnode⟩ := bind_eq_ok.1 hnode
  obtain ⟨r, hr, hnode⟩ := bind_eq_ok.1 hnode
  obtain ⟨rfl, hsize⟩ := of_unionSchema hnode
  obtain ⟨L, hL, hP⟩ := bind_eq_ok.1 hP
  obtain ⟨R, hR, hP⟩ := bind_eq_ok.1 hP
  cases hP
  exact .unionAll (hleft l L hl hL) (hright r R hr hR) hsize

theorem compilesAs_tableFunction {name : String} {args : List (TableArg Plan)}
    {own : Option Schema} (hargs : ∀ p ∈ Plan.relationArgs args,
      CompilesAs relation functions config p)
    (hp : annotate functions schemaOf (.tableFunction name args own) =
      .ok (.tableFunction name args own)) :
    CompilesAs relation functions config (.tableFunction name args own) := by
  intro s P hs hP
  have hnode := nodeSchema_of_annotate hp hs
  obtain rfl : own = some s := schema?_of_outputSchema hs
  obtain ⟨f, hf, hnode⟩ := bind_eq_ok.1 hnode
  obtain ⟨schemas, hschemas, hnode⟩ := bind_eq_ok.1 hnode
  obtain ⟨f', hf', hP⟩ := bind_eq_ok.1 hP
  obtain rfl := Except.ok.inj (hf.symm.trans hf')
  obtain ⟨compiled, hcompiled, hP⟩ := bind_eq_ok.1 hP
  cases hP
  rw [schemas_of_compileArgs hcompiled hschemas] at hnode
  exact .tableFunction hf hcompiled hnode hargs

theorem compiles_of_annotate {p : Plan} (hp : annotate functions schemaOf p = .ok p) :
    CompilesAs relation functions config p := by
  -- on the size: a grouping compiles the input of its projection, two levels down
  induction hsize : p.size using Nat.strong_induction_on generalizing p with
  | h n ih =>
      have hbelow (c : Plan) (hc : c ∈ p.children) : CompilesAs relation functions config c :=
        ih c.size (hsize ▸ Plan.size_lt_of_mem_children hc) (annotate_of_mem_children hp c hc) rfl
      cases p with
      | load => exact compilesAs_load hp
      | aliased name input => exact compilesAs_aliased (hbelow input List.mem_cons_self) hp
      | project input => exact compilesAs_project (hbelow input List.mem_cons_self) hp
      | select input => exact compilesAs_select (hbelow input List.mem_cons_self) hp
      | join left right =>
          have hright := hbelow right (by simp [Plan.children])
          exact compilesAs_join (hbelow left List.mem_cons_self) hright hp
      | unionAll left right =>
          have hright := hbelow right (by simp [Plan.children])
          exact compilesAs_unionAll (hbelow left List.mem_cons_self) hright hp
      | orderBy input => exact compilesAs_orderBy (hbelow input List.mem_cons_self) hp
      | groupBy input =>
          cases input with
          | project inner es own =>
              have hinner : CompilesAs relation functions config inner := by
                have hproject := annotate_of_mem_children hp _ List.mem_cons_self
                refine ih inner.size ?_ (annotate_of_mem_children hproject _ List.mem_cons_self) rfl
                rw [← hsize]
                simp only [Plan.size]
                omega
              exact compilesAs_groupBy hinner hp
          | _ => exact fun s P hs hP => by cases hP
      | slice input => exact compilesAs_slice (hbelow input List.mem_cons_self) hp
      | tableFunction => exact compilesAs_tableFunction hbelow hp
      | placeholder => exact fun s P hs hP => by cases hs

end Physical

end QueryEngine
