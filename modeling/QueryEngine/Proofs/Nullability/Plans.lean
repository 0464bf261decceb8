import QueryEngine.Proofs.Alignment.Plans
import QueryEngine.Proofs.Nullability.Projections

namespace QueryEngine

open Typing

namespace Plan

/-- What resolution leaves unchecked: a projection takes REQUIRED nested fields out of REQUIRED
records only; what fills the right fields of a UNION ALL fills the left ones, which are those of the
result; lists of records with REQUIRED fields are flattened where such lists hold nothing else. -/
def Guarded (solid : Prop) (functions : FunctionRegistry) : Plan → Prop
  | .project input es _ => ∀ s, input.outputSchema = .ok s → ∀ e ∈ es, e.Guarded s functions
  | .unionAll left right _ => ∀ l r, left.outputSchema = .ok l → right.outputSchema = .ok r →
    List.Forall₂ (Field.Covers solid) r.fields l.fields
  | .tableFunction _ [.relation input, .constant (.string path)] _ => ∀ s i f,
    input.outputSchema = .ok s → s.resolve path = .ok (i, f) → f.type = .record →
      solid ∨ ∀ g ∈ f.fields, g.mode ≠ .required
  | _ => True

def Anchored (relation : String → Except Error Relation) (name : String) (s : Schema) : Prop :=
  name ≠ "" → ∃ r, relation name = .ok r ∧ r.schema.fields = s.fields

end Plan

namespace FunctionRegistry

theorem lax_of_firstArgument {name : String} {args : List Field} {field : Field}
    (h : (ReturnField.firstArgument name).resolve args = .ok field) : field.Lax := by
  cases args with
  | nil => cases h
  | cons arg args =>
      cases h
      exact ⟨by simp, rfl⟩

theorem lax_builtins : builtins.Lax where
  scalars name f h := by
    cases h
  aggregates name a h args field hfield := by
    have ha := mem_builtins_of_aggregate h
    simp only [Aggregate.builtins, List.mem_cons, List.not_mem_nil, or_false] at ha
    rcases ha with rfl | rfl | rfl | rfl | rfl
    all_goals first
      | exact lax_of_firstArgument hfield
      | (cases hfield; exact ⟨by simp, rfl⟩)

end FunctionRegistry

namespace Physical

def Gives (solid : Prop) (fields : List Field) (P : Physical) : Prop :=
  ∀ ctx rows, execute ctx P = .ok rows → rows.Every (Conforms solid fields)

variable {solid : Prop} {functions : FunctionRegistry} {config : Config}

namespace Gives

variable {fields own : List Field} {p q P : Physical}

theorem filter (h : p.Gives solid fields) (test : Option Scalar) :
    (Physical.filter p test).Gives solid fields := by
  intro ctx rows hrows
  cases test with
  | none => exact h ctx rows hrows
  | some e =>
      obtain ⟨input, hinput, hrows⟩ := bind_eq_ok.1 hrows
      cases hrows
      exact (h ctx input hinput).filter _

theorem limit (h : p.Gives solid fields) (start stop : Option Nat) :
    (Physical.limit p start stop).Gives solid fields := by
  intro ctx rows hrows
  obtain ⟨input, hinput, hrows⟩ := bind_eq_ok.1 hrows
  cases hrows
  exact (h ctx input hinput).limit start stop

theorem union (h : p.Gives solid fields) (h' : q.Gives solid fields) :
    (Physical.union p q).Gives solid fields := by
  intro ctx rows hrows
  obtain ⟨left, hleft, hrows⟩ := bind_eq_ok.1 hrows
  cases hrows
  exact Rows.every_append.2 ⟨h ctx left hleft, Rows.every_ofStart (h' ctx)⟩

theorem sort (h : p.Gives solid fields) (keys : List SortKey) :
    (Physical.sort p keys).Gives solid fields := by
  intro ctx rows hrows
  cases hrows
  refine Rows.every_ofStart fun rows hrows => ?_
  obtain ⟨input, hinput, rfl⟩ := map_eq_ok.1 hrows
  exact (h ctx input hinput).sortOnto (by simp)

theorem sortedBy (h : p.Gives solid fields) (keys : List Scalar) :
    (Physical.sortedBy p keys).Gives solid fields := by
  unfold Physical.sortedBy
  split
  · exact h
  · exact h.sort _

theorem group (h : p.Gives solid fields) {outputs : List GroupOutput}
    (houtputs : List.Forall₂ (fun o f => GroupOutput.Fills solid fields f o) outputs own)
    (keys : List Scalar) : (Physical.group p keys outputs).Gives solid own := by
  intro ctx rows hrows
  obtain ⟨input, hinput, hrows⟩ := bind_eq_ok.1 hrows
  cases hrows
  refine (h ctx input hinput).group (fun g hg row hrow => ?_) (by simp)
  exact GroupOutput.conforms_finish houtputs hg.first hg.states hrow

theorem project (h : p.Gives solid fields) {ss : List Scalar}
    (hss : List.Forall₂ (fun s f => GroupOutput.Fills solid fields f (.scalar s)) ss own) :
    (Physical.project p ss).Gives solid own := by
  intro ctx rows hrows
  obtain ⟨input, hinput, hrows⟩ := bind_eq_ok.1 hrows
  cases hrows
  exact (h ctx input hinput).mapRows fun row hrow _ hvs =>
    GroupOutput.conforms_evalList hss hrow hvs

theorem project? (hf : functions.Lax) {s : Schema} (h : p.Gives solid s.fields)
    {es : List Expr} (hguarded : ∀ e ∈ es, e.Guarded s functions)
    (hfields : projectionFields s functions es = .ok fields)
    (hP : project? functions p s es = .ok P) : P.Gives solid fields := by
  unfold Physical.project? at hP
  split at hP
  · obtain ⟨bindings, hbindings, hP⟩ := bind_eq_ok.1 hP
    obtain ⟨outputs, houtputs, hP⟩ := bind_eq_ok.1 hP
    cases hP
    exact h.group (fills_of_groupOutputs hf hguarded hfields hbindings houtputs) []
  · next hnone =>
      obtain ⟨columns, hcolumns, hP⟩ := bind_eq_ok.1 hP
      cases hP
      have hbindings : aggregateBindings s functions es = .ok [] :=
        aggregateBindingsFrom_eq_nil hfields (Bool.eq_false_iff.2 hnone)
      have houtputs : groupOutputs functions s [] 0 es = .ok (columns.map .scalar) :=
        groupOutputs_of_planProjection hcolumns
      exact h.project <| List.forall₂_map_left_iff.1 <|
        fills_of_groupOutputs hf hguarded hfields hbindings houtputs

section

variable {l r : Schema} (hl : p.Gives solid l.fields) (hr : q.Gives solid r.fields)

include hl hr

theorem nestedJoin (predicate : Option Scalar) (type : JoinType) :
    (Physical.nestedJoin p q predicate type r.size).Gives solid (joinSchema type l r).fields := by
  intro ctx rows hrows
  obtain ⟨right, hright, hrows⟩ := bind_eq_ok.1 hrows
  cases hrows
  refine (hr ctx right hright).nestedJoin (fun _ _ => conforms_joined type) (hl ctx) ?_ _
  rintro rfl left hleft
  exact conforms_unmatched hleft

theorem hashJoin {keys : JoinKeys} (hkeys : ∀ k ∈ keys, k.2 < r.size) (type : JoinType) :
    (Physical.hashJoin p q keys type r.size).Gives solid (joinSchema type l r).fields := by
  intro ctx rows hrows
  obtain ⟨right, hright, hrows⟩ := bind_eq_ok.1 hrows
  cases hrows
  refine (hr ctx right hright).hashJoin (fun _ _ => conforms_joined type) (hl ctx) ?_ ?_
  · rintro rfl left hleft
    exact conforms_unmatched hleft
  · intro row hrow k hk
    have hlength : r.fields.length = row.length := hrow.length_eq
    rw [← hlength]
    exact hkeys k hk

theorem join? {predicate : Option Expr} {type : JoinType}
    (hP : join? functions config p q (joinSchema type l r) l.size r.size predicate type = .ok P) :
    P.Gives solid (joinSchema type l r).fields := by
  obtain ⟨keys, hkeys, rfl⟩ | ⟨test, -, rfl⟩ := Physical.of_join? (size_joinSchema type l r) hP
  · exact hl.hashJoin hr (fun k hk => (hkeys k hk).2) type
  · exact hl.nestedJoin hr test type

end

end Gives

theorem gives_empty : empty.Gives solid [] := by
  intro ctx rows hrows
  cases hrows
  exact Rows.every_single.2 .nil

theorem gives_flatten {s s' : Schema} {path : Value} {P : Physical}
    (hs : TableFunction.flatten.schema [.relation s, .constant path] = .ok s')
    (h : P.Gives solid s.fields) (hnested : ∀ name i f, path = .string name →
      s.resolve name = .ok (i, f) → f.type = .record → solid ∨ ∀ g ∈ f.fields, g.mode ≠ .required) :
    (tableFunction .flatten [.relation (s, P), .constant path]).Gives solid s'.fields := by
  intro ctx rows hrows
  obtain ⟨l, hl, rfl⟩ := map_eq_ok.1 hs
  obtain ⟨l', hl', hrows⟩ := bind_eq_ok.1 hrows
  obtain rfl := Except.ok.inj (hl.symm.trans hl')
  obtain ⟨input, hinput, hrows⟩ := bind_eq_ok.1 hrows
  cases hrows
  refine (h ctx input hinput).flatMap fun row hrow => ?_
  cases path with
  | string name =>
      obtain ⟨⟨i, f⟩, hfield, -⟩ := bind_eq_ok.1 hl
      exact Flatten.conforms_flattened hfield (hnested name i f rfl hfield) hl hrow
  | _ => cases hl

variable {relation : String → Except Error Relation}

theorem flatten_arguments {args : List (TableArg Plan)}
    {compiled : List (TableArg (Schema × Physical))} {s' : Schema}
    (hcompiled : compileArgs relation functions config args = .ok compiled)
    (hs : TableFunction.flatten.schema (compiled.map (TableArg.map (·.1))) = .ok s') :
    ∃ input path s P, args = [.relation input, .constant path] ∧
      compiled = [.relation (s, P), .constant path] ∧ input.outputSchema = .ok s ∧
      compile relation functions config input = .ok P := by
  have hshape : ∃ s P path, compiled = [.relation (s, P), .constant path] := by
    rcases compiled with _ | ⟨_ | ⟨s, P⟩, _ | ⟨path | _, _ | _⟩⟩
    case cons.relation.cons.constant.nil => exact ⟨s, P, path, rfl⟩
    all_goals cases hs
  obtain ⟨s, P, path, rfl⟩ := hshape
  cases forall₂_of_compileArgs hcompiled with
  | cons hfirst hrest =>
      cases hfirst with
      | @relation input _ _ hinput hP =>
          cases hrest with
          | cons hpath hrest =>
              cases hpath
              cases hrest
              exact ⟨input, path, s, P, rfl, rfl, hinput, hP⟩

theorem Compiles.gives (hf : functions.Lax)
    (htables : ∀ name f, functions.table name = .ok f → f = .flatten)
    (hrelation : ∀ name r rows, relation name = .ok r → r.source.records = .ok rows →
      rows.Every (Conforms solid r.schema.fields))
    {p : Plan} {s : Schema} {P : Physical} (h : Compiles relation functions config p s P)
    (hp : p.Everywhere fun p => p.Carries (Plan.Anchored relation) ∧ p.Guarded solid functions) :
    P.Gives solid s.fields := by
  induction h with
  | empty hs =>
      subst hs
      exact gives_empty
  | scan hname hr =>
      obtain ⟨_, hown, hanchored⟩ := hp.here.1
      cases hown
      obtain ⟨r, hr', hfields⟩ := hanchored hname
      obtain rfl := Except.ok.inj (hr.symm.trans hr')
      exact fun ctx rows hrows => hfields ▸ hrelation _ _ rows hr hrows
  | aliased _ ih =>
      have hgives := ih (hp.of_mem_children List.mem_cons_self)
      exact fun ctx rows hrows row hrow =>
        (hgives ctx rows hrows row hrow).map fun _ _ hv => hv.congr rfl rfl
  | project h hfields hP ih =>
      have hgives := ih (hp.of_mem_children List.mem_cons_self)
      exact hgives.project? hf (hp.here.2 _ h.outputSchema_eq) hfields hP
  | select _ _ ih => exact (ih (hp.of_mem_children List.mem_cons_self)).filter _
  | join _ _ hP ihl ihr =>
      have hright := ihr (hp.of_mem_children (by simp [Plan.children]))
      exact (ihl (hp.of_mem_children List.mem_cons_self)).join? hright hP
  | unionAll hl hr _ ihl ihr =>
      have hright := ihr (hp.of_mem_children (by simp [Plan.children]))
      have hcovers := hp.here.2 _ _ hl.outputSchema_eq hr.outputSchema_eq
      exact (ihl (hp.of_mem_children List.mem_cons_self)).union fun ctx rows hrows row hrow =>
        (hright ctx rows hrows row hrow).covered hcovers
  | orderBy _ _ ih => exact (ih (hp.of_mem_children List.mem_cons_self)).sort _
  | groupBy h hfields hbindings _ houtputs ih =>
      have hproject := hp.of_mem_children List.mem_cons_self
      have hgives := ih (hproject.of_mem_children List.mem_cons_self)
      have hguarded := hproject.here.2 _ h.outputSchema_eq
      exact (hgives.sortedBy _).group
        (fills_of_groupOutputs hf hguarded hfields hbindings houtputs) _
  | slice _ ih => exact (ih (hp.of_mem_children List.mem_cons_self)).limit _ _
  | @tableFunction name args f compiled s hname hcompiled hs _ ih =>
      obtain rfl := htables name f hname
      obtain ⟨input, path, s', I, rfl, rfl, hinput, hI⟩ := flatten_arguments hcompiled hs
      have hmem : input ∈ Plan.relationArgs [.relation input, .constant path] := List.mem_cons_self
      refine gives_flatten hs (ih input hmem s' I hinput hI (hp.of_mem_children hmem)) ?_
      rintro name' i f rfl hfield
      exact hp.here.2 s' i f hinput hfield

end Physical

end QueryEngine
