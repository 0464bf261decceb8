import QueryEngine.Proofs.Alignment.Compile
import QueryEngine.Proofs.Physical.Compiled

namespace QueryEngine

open Typing

namespace Plan

/-- Every load carries a schema, which is as wide as the rows of its relation. -/
inductive Grounded (relation : String → Except Error Relation) : Plan → Prop
  | load {name : String} {s : Schema} (h : name ≠ "" → ∃ r rows, relation name = .ok r ∧
      r.source.records = .ok rows ∧ rows.Aligned s.size) : Grounded relation (.load name (some s))
  | node {p : Plan} (hp : ∀ name s, p ≠ .load name s) (h : ∀ c ∈ p.children, Grounded relation c) :
      Grounded relation p

theorem Grounded.of_mem_children {relation : String → Except Error Relation} {p c : Plan}
    (h : p.Grounded relation) (hc : c ∈ p.children) : c.Grounded relation := by
  cases h with
  | load => cases hc
  | node _ h => exact h c hc

inductive Everywhere (R : Plan → Prop) : Plan → Prop
  | node {p : Plan} (h : R p) (hchildren : ∀ c ∈ p.children, Everywhere R c) : Everywhere R p

def Carries (R : String → Schema → Prop) : Plan → Prop
  | .load name own => ∃ s, own = some s ∧ R name s
  | _ => True

section

variable {R R' : Plan → Prop} {p c : Plan}

theorem Everywhere.here (h : p.Everywhere R) : R p := by
  cases h with
  | node h _ => exact h

theorem Everywhere.of_mem_children (h : p.Everywhere R) (hc : c ∈ p.children) :
    c.Everywhere R := by
  cases h with
  | node _ hchildren => exact hchildren c hc

theorem Everywhere.mono (h : p.Everywhere R) (hR : ∀ p, R p → R' p) : p.Everywhere R' := by
  induction h with
  | node h _ ih => exact .node (hR _ h) ih

theorem Everywhere.and (h : p.Everywhere R) (h' : p.Everywhere R') :
    p.Everywhere fun p => R p ∧ R' p := by
  induction h with
  | node h _ ih => exact .node ⟨h, h'.here⟩ fun c hc => ih c hc (h'.of_mem_children hc)

theorem Carries.mono {R R' : String → Schema → Prop} (h : p.Carries R)
    (hR : ∀ name s, R name s → R' name s) : p.Carries R' := by
  cases p with
  | load name own =>
      obtain ⟨s, hown, hs⟩ := h
      exact ⟨s, hown, hR name s hs⟩
  | _ => trivial

theorem carries_of_ne {R : String → Schema → Prop} (hp : ∀ name s, p ≠ .load name s) :
    p.Carries R := by
  cases p with
  | load name own => exact absurd rfl (hp name own)
  | _ => trivial

theorem grounded_of_everywhere {relation : String → Except Error Relation}
    (h : p.Everywhere <| Carries fun name s => name ≠ "" → ∃ r rows, relation name = .ok r ∧
      r.source.records = .ok rows ∧ rows.Aligned s.size) : p.Grounded relation := by
  induction h with
  | @node p h _ ih =>
      by_cases hload : ∃ name own, p = .load name own
      · obtain ⟨name, own, rfl⟩ := hload
        obtain ⟨s, rfl, hs⟩ := h
        exact .load hs
      · exact .node (fun name own hp => hload ⟨name, own, hp⟩) ih

end

end Plan

namespace Physical

variable {functions : FunctionRegistry} {schemaOf : String → Except Error Schema}
  {relation : String → Except Error Relation} {config : Config}

variable (functions relation config) in
/-- What the plan compiles to gives rows as wide as its schema. -/
def CompilesToFit (p : Plan) : Prop :=
  ∀ P s, compile relation functions config p = .ok P → p.outputSchema = .ok s → P.Fits s.size

theorem Compiles.fits (hf : functions.Sound) {p : Plan} {s : Schema} {P : Physical}
    (h : Compiles relation functions config p s P) (hg : p.Grounded relation) : P.Fits s.size := by
  induction h with
  | empty hs =>
      subst hs
      exact fits_empty
  | scan hname hr =>
      cases hg with
      | load h =>
          obtain ⟨r, rows, hr', hrows, haligned⟩ := h hname
          obtain rfl := Except.ok.inj (hr.symm.trans hr')
          exact fits_scan hrows haligned
      | node hp _ => exact absurd rfl (hp _ _)
  | aliased _ ih =>
      have hfits := ih (hg.of_mem_children List.mem_cons_self)
      simpa [Schema.qualified, Schema.size] using hfits
  | project _ hfields hP ih =>
      exact (ih (hg.of_mem_children List.mem_cons_self)).project? hf hfields hP
  | select _ htest ih =>
      have hfits := ih (hg.of_mem_children List.mem_cons_self)
      exact hfits.filter (fits_of_planPredicate hf.scalars htest)
  | @join _ _ _ type l r _ _ _ _ _ hP ihl ihr =>
      have hleft := ihl (hg.of_mem_children List.mem_cons_self)
      have hright := ihr (hg.of_mem_children (by simp [Plan.children]))
      exact hleft.join? hf.scalars hright (size_joinSchema type l r) hP
  | unionAll _ _ hsize ihl ihr =>
      have hright := ihr (hg.of_mem_children (by simp [Plan.children]))
      exact (ihl (hg.of_mem_children List.mem_cons_self)).union (hsize ▸ hright)
  | orderBy _ hsort ih =>
      have hfits := ih (hg.of_mem_children List.mem_cons_self)
      exact hfits.sort (fits_of_sortKeys hf.scalars hsort)
  | groupBy _ hfields _ hplanned houtputs ih =>
      have hproject := hg.of_mem_children List.mem_cons_self
      have hfits := ih (hproject.of_mem_children List.mem_cons_self)
      have hkeys := Scalar.fitsList_of_planList hf.scalars _ hplanned
      obtain ⟨hlength, houts⟩ := fits_of_groupOutputs hf hfields houtputs
      have hgrouped := (hfits.sortedBy hkeys).group hkeys houts
      rwa [hlength] at hgrouped
  | slice _ ih => exact (ih (hg.of_mem_children List.mem_cons_self)).limit _ _
  | tableFunction hname hcompiled hs _ ih =>
      refine fits_tableFunction (hf.tables _ _ hname) hs fun s' P' hmem => ?_
      obtain ⟨p, hp, hs', hP'⟩ := exists_of_mem_compileArgs hcompiled hmem
      exact ih p hp s' P' hs' hP' (hg.of_mem_children hp)

/-- A resolved and grounded plan compiles to one that gives rows as wide as its schema. -/
theorem compilesToFit (hf : functions.Sound) {p : Plan}
    (hp : annotate functions schemaOf p = .ok p) (hg : p.Grounded relation) :
    CompilesToFit functions relation config p :=
  fun P s hP hs => (compiles_of_annotate hp s P hs hP).fits hf hg

end Physical

end QueryEngine
