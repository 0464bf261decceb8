import QueryEngine.Physical.Compile
import QueryEngine.Proofs.Except
import QueryEngine.Proofs.Join.Below

namespace QueryEngine

namespace Physical

open Rows

variable (ctx : Context)

/-- Whenever the first plan starts the second one does, and gives the rows that the first gives
before an error. -/
def Refines (p q : Physical) : Prop :=
  StartsBelow (execute ctx p) (execute ctx q)

variable {ctx} {p q p' q' : Physical}

theorem Refines.refl (p : Physical) : Refines ctx p p :=
  StartsBelow.refl _

theorem Refines.filter (h : Refines ctx p q) (predicate : Option Scalar) :
    Refines ctx (.filter p predicate) (.filter q predicate) := by
  cases predicate with
  | none => exact h
  | some e => exact h.map fun _ _ hrows => hrows.filter (e.passes ctx)

theorem Refines.project (h : Refines ctx p q) (exprs : List Scalar) :
    Refines ctx (.project p exprs) (.project q exprs) :=
  h.map fun _ _ hrows => hrows.mapRows _

theorem Refines.limit (h : Refines ctx p q) (start stop : Option Nat) :
    Refines ctx (.limit p start stop) (.limit q start stop) :=
  h.map fun _ _ hrows => hrows.limit start stop

theorem Refines.union (h : Refines ctx p q) (h' : Refines ctx p' q') :
    Refines ctx (.union p p') (.union q q') :=
  h.map fun _ _ hrows => hrows.append h'.ofStart

theorem Refines.sort (h : Refines ctx p q) (keys : List SortKey) :
    Refines ctx (.sort p keys) (.sort q keys) :=
  .ok (.step (h.map fun _ _ hrows => hrows.sortOnto ctx keys []).ofStart)

theorem Refines.sortedBy (h : Refines ctx p q) (keys : List Scalar) :
    Refines ctx (sortedBy p keys) (sortedBy q keys) := by
  unfold Physical.sortedBy
  split
  · exact h
  · exact h.sort _

theorem Refines.hashJoin (h : Refines ctx p q) (h' : Refines ctx p' q') (keys : JoinKeys)
    (type : JoinType) (arity : Nat) :
    Refines ctx (.hashJoin p p' keys type arity) (.hashJoin q q' keys type arity) :=
  h'.map fun _ _ hrows =>
    @below_hashJoin (fun _ => execute ctx p) (fun _ => execute ctx q) h type arity _ _ _ hrows keys

theorem Refines.nestedJoin (h : Refines ctx p q) (h' : Refines ctx p' q')
    (predicate : Option Scalar) (type : JoinType) (arity : Nat) :
    Refines ctx (.nestedJoin p p' predicate type arity) (.nestedJoin q q' predicate type arity) :=
  h'.map fun _ _ hrows =>
    @below_nestedJoin (fun _ => execute ctx p) (fun _ => execute ctx q) h type arity _ _ _ hrows _

theorem Refines.group (h : Refines ctx p q) (keys : List Scalar) (outputs : List GroupOutput) :
    Refines ctx (.group p keys outputs) (.group q keys outputs) :=
  h.map fun _ _ hrows => hrows.group ctx keys outputs none

theorem Refines.project? (h : Refines ctx p q) {functions : FunctionRegistry} {schema : Schema}
    {es : List Expr} {P : Physical} (hP : project? functions p schema es = .ok P) :
    ∃ Q, Physical.project? functions q schema es = .ok Q ∧ Refines ctx P Q := by
  unfold Physical.project? at hP ⊢
  split at hP
  · obtain ⟨bindings, hbindings, hP⟩ := bind_eq_ok.1 hP
    obtain ⟨outputs, houtputs, hP⟩ := bind_eq_ok.1 hP
    cases hP
    exact ⟨_, by simp [*], h.group [] outputs⟩
  · obtain ⟨exprs, hexprs, hP⟩ := bind_eq_ok.1 hP
    cases hP
    exact ⟨_, by simp [*], h.project exprs⟩

theorem Refines.join? (h : Refines ctx p q) (h' : Refines ctx p' q') {functions : FunctionRegistry}
    {config : Config} {schema : Schema} {leftSize rightSize : Nat} {predicate : Option Expr}
    {type : JoinType} {P : Physical}
    (hP : join? functions config p p' schema leftSize rightSize predicate type = .ok P) :
    ∃ Q, Physical.join? functions config q q' schema leftSize rightSize predicate type = .ok Q ∧
      Refines ctx P Q := by
  unfold Physical.join? at hP ⊢
  split at hP
  · cases hP
    exact ⟨_, by simp [*], h.hashJoin h' _ type rightSize⟩
  · obtain ⟨test, htest, hP⟩ := bind_eq_ok.1 hP
    cases hP
    exact ⟨_, by simp [*], h.nestedJoin h' test type rightSize⟩

inductive ArgRefines (ctx : Context) :
    TableArg (Schema × Physical) → TableArg (Schema × Physical) → Prop
  | constant (v : Value) : ArgRefines ctx (.constant v) (.constant v)
  | relation (s : Schema) {p q : Physical} (h : Refines ctx p q) :
      ArgRefines ctx (.relation (s, p)) (.relation (s, q))

theorem Refines.flatten {args args' : List (TableArg (Schema × Physical))}
    (h : List.Forall₂ (ArgRefines ctx) args args') :
    Refines ctx (.tableFunction .flatten args) (.tableFunction .flatten args') := by
  intro rows hrows
  rcases h with _ | ⟨⟨v⟩ | @⟨s, p, q, hpq⟩, _ | ⟨⟨path⟩ | ⟨s'⟩, _ | ⟨⟨v⟩ | ⟨s'⟩, _⟩⟩⟩ <;>
    try cases hrows
  obtain ⟨l, hl, hrows⟩ := bind_eq_ok.1 hrows
  obtain ⟨input, hinput, hrows⟩ := bind_eq_ok.1 hrows
  obtain ⟨input', hinput', hbelow⟩ := hpq input hinput
  cases hrows
  refine ⟨input'.flatMap (Flatten.flattenRow l.position l.nested), ?_, hbelow.flatMap _⟩
  exact bind_eq_ok.2 ⟨l, hl, bind_eq_ok.2 ⟨input', hinput', rfl⟩⟩

end Physical

end QueryEngine
