import Mathlib.Order.WellFoundedSet
import QueryEngine.Assoc
import QueryEngine.Plan.Lemmas

namespace QueryEngine

namespace Plan

inductive Loads (name : String) : Plan → Prop
  | load (s : Option Schema) : Loads name (.load name s)
  | child {p c : Plan} (hc : c ∈ p.children) (h : Loads name c) : Loads name p

theorem loads_iff {name : String} {p : Plan} :
    p.Loads name ↔ (∃ s, p = .load name s) ∨ ∃ c ∈ p.children, c.Loads name := by
  constructor
  · rintro (s | ⟨hc, h⟩)
    · exact .inl ⟨s, rfl⟩
    · exact .inr ⟨_, hc, h⟩
  · rintro (⟨s, rfl⟩ | ⟨c, hc, h⟩)
    · exact .load s
    · exact .child hc h

@[simp] theorem loads_load {name name' : String} {s : Option Schema} :
    (load name' s).Loads name ↔ name = name' := by
  rw [loads_iff]
  simp [children, eq_comm]

def postorder (p : Plan) : List Plan :=
  (p.children.attach.map fun c => c.1.postorder).flatten ++ [p]
termination_by p.size
decreasing_by exact size_lt_of_mem_children c.2

theorem postorder_eq (p : Plan) : p.postorder = (p.children.map postorder).flatten ++ [p] := by
  rw [postorder, List.map_attach_eq_pmap, List.pmap_eq_map]

end Plan

/-- The plans to put in place of loads, by name. Through the loads in these plans, no name leads to
others without end. -/
structure Expansion where
  plan? : String → Option Plan
  acyclic : WellFounded fun name' name => ∃ p, plan? name = some p ∧ p.Loads name'

namespace Expansion

theorem wellFounded_of_finite {α : Type} {r : α → α → Prop} {s : Set α} (hs : s.Finite)
    (hr : ∀ a b, r a b → b ∈ s) (h : ∀ a, ¬ Relation.TransGen r a a) : WellFounded r := by
  have horder : IsStrictOrder α (Relation.TransGen r) := { irrefl := h }
  have hminimal : ∀ b ∉ s, Acc r b := fun b hb =>
    Acc.intro b fun a ha => absurd (hr a b ha) hb
  refine ⟨fun b => ?_⟩
  by_cases hb : b ∈ s
  · have hwf : s.WellFoundedOn (Relation.TransGen r) := hs.wellFoundedOn
    refine hwf.induction hb fun b _ ih => Acc.intro b fun a ha => ?_
    by_cases hmem : a ∈ s
    · exact ih a hmem (Relation.TransGen.single ha)
    · exact hminimal a hmem
  · exact hminimal b hb

/-- In a finite table it is enough that no name leads to itself. -/
def ofTable (table : Assoc Plan)
    (h : ∀ name, ¬ Relation.TransGen (fun name' name => ∃ p, table.get? name = some p ∧
      p.Loads name') name name) : Expansion where
  plan? := table.get?
  acyclic := by
    refine wellFounded_of_finite (List.finite_toSet (table.map (·.1))) ?_ h
    rintro name' name ⟨p, hp, -⟩
    obtain ⟨entry, hentry, -⟩ := Option.map_eq_some_iff.1 hp
    obtain rfl : entry.1 = name := by simpa using List.find?_some hentry
    exact List.mem_map_of_mem (List.mem_of_find?_eq_some hentry)

variable (e : Expansion)

def of? : Plan → Option Plan
  | .load name _ => e.plan? name
  | _ => none

def Below (q p : Plan) : Prop :=
  e.of? p = some q ∨ q ∈ p.children

theorem acc_of_loads {p : Plan} (h : ∀ name, p.Loads name → ∀ s, Acc e.Below (.load name s)) :
    Acc e.Below p := by
  induction p using Plan.inductionOnChildren with
  | h p ih =>
      by_cases hload : ∃ name s, p = .load name s
      · obtain ⟨name, s, rfl⟩ := hload
        exact h name (.load s) s
      · refine Acc.intro p fun q hq => ?_
        rcases hq with hq | hq
        · cases p with
          | load name s => exact absurd ⟨name, s, rfl⟩ hload
          | _ => cases hq
        · exact ih q hq fun name hname => h name (.child hq hname)

theorem wellFounded_below : WellFounded e.Below := by
  suffices h : ∀ name s, Acc e.Below (.load name s) from
    ⟨fun p => e.acc_of_loads fun name _ => h name⟩
  intro name
  induction name using e.acyclic.induction with
  | h name ih =>
      refine fun s => Acc.intro _ fun q hq => ?_
      rcases hq with hq | hq
      · exact e.acc_of_loads fun name' hname' => ih name' ⟨q, hq, hname'⟩
      · cases hq

/-- The plan with all its loads expanded, and those in their plans. -/
def expand (p : Plan) : Plan :=
  match _h : e.of? p with
  | some q => expand q
  | none => p.refill (p.children.attach.map fun c => expand c.1)
termination_by e.wellFounded_below.wrap p
decreasing_by
  · exact .inl ‹_›
  · exact .inr c.2

theorem expand_of_some {p q : Plan} (h : e.of? p = some q) : e.expand p = e.expand q := by
  rw [expand]
  split
  · next hq =>
      obtain rfl := Option.some.inj (h.symm.trans hq)
      rfl
  · next hnone => cases h.symm.trans hnone

theorem expand_of_none {p : Plan} (h : e.of? p = none) :
    e.expand p = p.refill (p.children.map e.expand) := by
  rw [expand]
  split
  · next hq => cases h.symm.trans hq
  · rw [List.map_attach_eq_pmap, List.pmap_eq_map]

def nested : Expansion :=
  ofTable [("pair", .unionAll (.load "first" none) (.load "b" none) none),
      ("first", .slice (.load "a" none) none (some 1) none)] <| by
    let rank (name : String) : Nat := if name = "pair" then 2 else if name = "first" then 1 else 0
    intro name h
    suffices hrank : Relation.TransGen (· < ·) (rank name) (rank name) by
      rw [Relation.transGen_eq_self] at hrank
      exact Nat.lt_irrefl _ hrank
    refine h.lift rank ?_
    rintro name' name ⟨p, hp, hloads⟩
    rw [Plan.loads_iff] at hloads
    by_cases hpair : name = "pair"
    · subst hpair
      cases hp
      rcases (by simpa [Plan.children] using hloads : name' = "first" ∨ name' = "b") with rfl | rfl
      · decide
      · decide
    · by_cases hfirst : name = "first"
      · subst hfirst
        cases hp
        obtain rfl : name' = "a" := by simpa [Plan.children] using hloads
        decide
      · simp [Assoc.get?, Ne.symm hpair, Ne.symm hfirst] at hp

end Expansion

end QueryEngine
