import QueryEngine.Proofs.Alignment.Compile
import QueryEngine.Proofs.Nullability.Expressions
import QueryEngine.Proofs.Nullability.Rows

namespace QueryEngine

open Typing

namespace GroupOutput

/-- On rows that fill the fields of the input, the output fills its own field. An aggregate may be
NULL, and its field allows that. -/
def Fills (solid : Prop) (fields : List Field) (f : Field) : GroupOutput → Prop
  | scalar e => ∀ ctx row, Conforms solid fields row → ∀ v, Scalar.eval ctx row e = .ok v →
    f.Filled solid True v
  | aggregate _ _ => f.Lax

variable {solid : Prop} {fields own : List Field} {ctx : Context} {row : Row}

theorem conforms_evalList {ss : List Scalar} {vs : List Value}
    (h : List.Forall₂ (fun s f => (scalar s).Fills solid fields f) ss own)
    (hrow : Conforms solid fields row) (hvs : Scalar.evalList ctx row ss = .ok vs) :
    Conforms solid own vs := by
  induction h generalizing vs with
  | nil =>
      cases hvs
      exact .nil
  | cons hfirst _ ih =>
      obtain ⟨v, hv, hvs⟩ := bind_eq_ok.1 hvs
      obtain ⟨rest, hrest, hvs⟩ := bind_eq_ok.1 hvs
      cases hvs
      exact .cons (hfirst ctx row hrow v hv) (ih hrest)

theorem conforms_finish {outputs : List GroupOutput} {states : List Value} {first : Row}
    (h : List.Forall₂ (fun o f => Fills solid fields f o) outputs own)
    (hfirst : Conforms solid fields first) (hlength : states.length = outputs.length)
    (hrow : finish ctx first outputs states = .ok row) : Conforms solid own row := by
  induction h generalizing states row with
  | nil =>
      cases hrow
      exact .nil
  | @cons o f outputs own hfills _ ih =>
      cases states with
      | nil => cases hlength
      | cons s states =>
          have htail : states.length = outputs.length := Nat.succ.inj hlength
          cases o with
          | scalar e =>
              obtain ⟨v, hv, hrow⟩ := bind_eq_ok.1 hrow
              obtain ⟨rest, hrest, hrow⟩ := bind_eq_ok.1 hrow
              cases hrow
              exact .cons (hfills ctx first hfirst v hv) (ih htail hrest)
          | aggregate a args =>
              obtain ⟨v, -, hrow⟩ := bind_eq_ok.1 hrow
              obtain ⟨rest, hrest, hrow⟩ := bind_eq_ok.1 hrow
              cases hrow
              exact .cons (hfills.filled v) (ih htail hrest)

end GroupOutput

namespace Physical

variable {solid : Prop} {functions : FunctionRegistry} {schema : Schema}

theorem exists_fieldOf_unaliased {e : Expr} {f : Field}
    (h : fieldOf schema functions e = .ok f) :
    ∃ g, fieldOf schema functions e.unaliased = .ok g ∧ f.mode = g.mode ∧ f.fields = g.fields := by
  induction e using Expr.unaliased.induct generalizing f with
  | case1 name e ih =>
      obtain ⟨inner, hinner, h⟩ := bind_eq_ok.1 h
      cases h
      obtain ⟨g, hg, hmode, hfields⟩ := ih hinner
      exact ⟨g, hg, hmode, hfields⟩
  | case2 e he =>
      rw [Expr.unaliased]
      · exact ⟨f, h, rfl, rfl⟩
      · exact he

variable (hf : functions.Lax)

include hf

theorem fills_of_outputOf {e : Expr} {f : Field} {o : GroupOutput}
    (hguarded : e.Guarded schema functions) (hfield : fieldOf schema functions e = .ok f)
    (h : outputOf functions schema e = .ok o) : o.Fills solid schema.fields f := by
  have hscalar {o : GroupOutput}
      (h : (Scalar.plan schema functions e >>= fun s => pure (.scalar s)) = .ok o) :
      o.Fills solid schema.fields f := by
    obtain ⟨s, hs, h⟩ := bind_eq_ok.1 h
    cases h
    exact fun ctx row hrow v hv => filled_of_eval hf hrow e (fun _ => hguarded) hfield hs hv
  unfold outputOf at h
  split at h
  · next name args hcall =>
      split at h
      · obtain ⟨a, -, h⟩ := bind_eq_ok.1 h
        obtain ⟨ss, -, h⟩ := bind_eq_ok.1 h
        cases h
        obtain ⟨g, hg, hmode, hfields⟩ := exists_fieldOf_unaliased hfield
        rw [hcall] at hg
        obtain ⟨fields, -, hg⟩ := bind_eq_ok.1 hg
        obtain ⟨hrequired, hnil⟩ := hf.callField hg
        exact ⟨hmode ▸ hrequired, hfields.trans hnil⟩
      · exact hscalar h
  · exact hscalar h

theorem fills_of_outputsOf {e : Expr} {own : List Field} {outs : List GroupOutput}
    (hguarded : e.Guarded schema functions) (hown : projectedFields schema functions e = .ok own)
    (h : outputsOf functions schema e = .ok outs) :
    List.Forall₂ (fun o f => GroupOutput.Fills solid schema.fields f o) outs own := by
  by_cases hstar : ∃ q, e = .star q
  · obtain ⟨q, rfl⟩ := hstar
    obtain ⟨positions, hpositions, h⟩ := bind_eq_ok.1 h
    obtain ⟨positions', hpositions', hown⟩ := bind_eq_ok.1 hown
    obtain rfl := Except.ok.inj (hpositions.symm.trans hpositions')
    cases h
    cases hown
    rw [List.forall₂_map_left_iff, List.forall₂_map_right_iff, List.forall₂_same]
    intro i hi ctx row hrow v hv
    have hsize : i < schema.fields.length := Schema.lt_size_of_selectAll hpositions i hi
    have hfield : schema.fields[i]? = some (schema.fields.getD i default) := by
      simp [hsize]
    simp only [Scalar.eval, Scalar.columnValue] at hv
    split at hv
    · next v' hv' =>
        cases hv
        exact (hrow.filled hfield hv').congr rfl rfl
    · cases hv
  · have hstar : ∀ q, e ≠ .star q := fun q hq => hstar ⟨q, hq⟩
    rw [projectedFields_of_ne hstar] at hown
    rw [outputsOf_of_ne hstar] at h
    obtain ⟨f, hfield, hown⟩ := bind_eq_ok.1 hown
    obtain ⟨o, ho, h⟩ := bind_eq_ok.1 h
    cases hown
    cases h
    exact .cons (fills_of_outputOf hf hguarded hfield ho) .nil

theorem fills_of_mapM_outputsOf {es : List Expr} {fields : List Field}
    {parts : List (List GroupOutput)} (hguarded : ∀ e ∈ es, e.Guarded schema functions)
    (hfields : projectionFields schema functions es = .ok fields)
    (h : es.mapM (outputsOf functions schema) = .ok parts) :
    List.Forall₂ (fun o f => GroupOutput.Fills solid schema.fields f o) parts.flatten fields := by
  induction es generalizing fields parts with
  | nil =>
      cases h
      cases hfields
      exact .nil
  | cons e es ih =>
      rw [List.mapM_cons] at h
      obtain ⟨outs, houts, h⟩ := bind_eq_ok.1 h
      obtain ⟨rest, hrest, h⟩ := bind_eq_ok.1 h
      obtain ⟨own, hown, hfields⟩ := bind_eq_ok.1 hfields
      obtain ⟨others, hothers, hfields⟩ := bind_eq_ok.1 hfields
      cases h
      cases hfields
      have hrest := ih (fun e he => hguarded e (List.mem_cons_of_mem _ he)) hothers hrest
      exact List.rel_append (fills_of_outputsOf hf (hguarded e List.mem_cons_self) hown houts) hrest

theorem fills_of_groupOutputs {es : List Expr} {fields : List Field}
    {bindings : List AggregateBinding} {outputs : List GroupOutput}
    (hguarded : ∀ e ∈ es, e.Guarded schema functions)
    (hfields : projectionFields schema functions es = .ok fields)
    (hbindings : aggregateBindings schema functions es = .ok bindings)
    (h : groupOutputs functions schema bindings 0 es = .ok outputs) :
    List.Forall₂ (fun o f => GroupOutput.Fills solid schema.fields f o) outputs fields := by
  have hnone : ∀ b ∈ ([] : List AggregateBinding), b.position < 0 := by simp
  obtain ⟨parts, hparts, rfl⟩ := groupOutputs_eq hfields hbindings hnone h
  exact fills_of_mapM_outputsOf hf hguarded hfields hparts

omit hf in
theorem aggregateBindingsFrom_eq_nil {es : List Expr} {fields : List Field} {position : Nat}
    (hfields : projectionFields schema functions es = .ok fields)
    (h : hasAggregates functions es = false) :
    aggregateBindingsFrom schema functions position es = .ok [] := by
  induction es generalizing fields position with
  | nil => rfl
  | cons e es ih =>
      obtain ⟨own, hown, hfields⟩ := bind_eq_ok.1 hfields
      obtain ⟨others, hothers, -⟩ := bind_eq_ok.1 hfields
      obtain ⟨hfirst, hrest⟩ : isAggregateCall functions e = false ∧
          hasAggregates functions es = false := by
        simpa [hasAggregates] using h
      rw [aggregateBindingsFrom]
      split
      · next q hunaliased =>
          by_cases hstar : ∃ q, e = .star q
          · obtain ⟨q', rfl⟩ := hstar
            cases hunaliased
            obtain ⟨positions, hpositions, -⟩ := bind_eq_ok.1 hown
            rw [hpositions, ok_bind]
            exact ih hothers hrest
          · rw [projectedFields_of_ne fun q hq => hstar ⟨q, hq⟩] at hown
            obtain ⟨f, hf, -⟩ := bind_eq_ok.1 hown
            exact absurd hunaliased (unaliased_ne_star hf q)
      · next name args hunaliased =>
          have hname : functions.isAggregate name = false := by
            simpa [isAggregateCall, hunaliased] using hfirst
          rw [ih hothers hrest, ok_bind, if_neg (by simp [hname])]
          rfl
      · exact ih hothers hrest

end Physical

end QueryEngine
