import QueryEngine.Expr.Lemmas
import QueryEngine.Proofs.Except
import QueryEngine.Typing.Projection

namespace QueryEngine

namespace Expr

/-- The children that typing looks at. Of the elements of a tuple that is the first one. -/
def typedChildren : Expr → List Expr
  | tuple es => es.take 1
  | e => e.children

inductive Reaches (next : Expr → List Expr) : Expr → Expr → Prop
  | refl (e : Expr) : Reaches next e e
  | step {e c x : Expr} (hc : c ∈ next e) (h : Reaches next c x) : Reaches next e x

theorem any_of_mem_children {p : Expr → Bool} {e c : Expr} (hc : c ∈ e.children)
    (h : c.any p = true) : e.any p = true := by
  rw [any_eq, List.any_eq_true.2 ⟨c, hc, h⟩, Bool.or_true]

theorem any_of_reaches {p : Expr → Bool} {e x : Expr} (h : Reaches children e x)
    (hx : p x = true) : e.any p = true := by
  induction h with
  | refl e => rw [any.eq_def, hx, Bool.true_or]
  | step hc _ ih => exact any_of_mem_children hc (ih hx)

/-- A path means one field and a call is of a known function. The direction of a sort and `*` have
no meaning of their own. -/
def InScope (schema : Schema) (functions : FunctionRegistry) : Expr → Prop
  | var path => ∃ i, schema.candidates path = [i]
  | unary op _ => op ≠ .asc ∧ op ≠ .desc
  | call name _ => functions.isAggregate name = true ∨ ∃ f, functions.scalar name = .ok f
  | star _ => False
  | _ => True

def Scoped (schema : Schema) (functions : FunctionRegistry) (next : Expr → List Expr)
    (e : Expr) : Prop :=
  ∀ x, Reaches next e x → x.InScope schema functions

variable {schema : Schema} {functions : FunctionRegistry} {next : Expr → List Expr}

theorem Scoped.ofChild {e c : Expr} (h : e.Scoped schema functions next) (hc : c ∈ next e) :
    c.Scoped schema functions next :=
  fun x hx => h x (.step hc hx)

theorem Scoped.unaliased {e : Expr} (h : e.Scoped schema functions typedChildren) :
    e.unaliased.Scoped schema functions typedChildren := by
  induction e using Expr.unaliased.induct with
  | case1 name e ih => exact ih (h.ofChild (by simp [typedChildren, children]))
  | case2 e he =>
      rw [Expr.unaliased]
      · exact h
      · exact he

end Expr

namespace Typing

variable {schema : Schema} {functions : FunctionRegistry}

theorem exists_candidate {path : String} {found : Nat × Field}
    (h : schema.resolve path = .ok found) : ∃ i, schema.candidates path = [i] := by
  unfold Schema.resolve at h
  split at h
  · cases h
  · next i hi => exact ⟨i, hi⟩
  · cases h

theorem known_of_callField {name : String} {args : List Field} {f : Field}
    (h : callField functions name args = .ok f) :
    functions.isAggregate name = true ∨ ∃ g, functions.scalar name = .ok g := by
  unfold callField at h
  split at h
  · exact .inl ‹_›
  · obtain ⟨g, hg, -⟩ := bind_eq_ok.1 h
    exact .inr ⟨g, hg⟩

theorem field_of_fieldsOf {es : List Expr} {fs : List Field}
    (h : fieldsOf schema functions es = .ok fs) :
    ∀ e ∈ es, ∃ f, fieldOf schema functions e = .ok f := by
  induction es generalizing fs with
  | nil => simp
  | cons e es ih =>
      obtain ⟨f, hf, h⟩ := bind_eq_ok.1 h
      obtain ⟨rest, hrest, -⟩ := bind_eq_ok.1 h
      intro e' he'
      rcases List.mem_cons.1 he' with rfl | he'
      · exact ⟨f, hf⟩
      · exact ih hrest e' he'

theorem field_of_resultTypes {branches : List (Expr × Expr)} {types : List DataType}
    (h : resultTypes schema functions branches = .ok types) :
    ∀ e ∈ Expr.branchChildren branches, ∃ f, fieldOf schema functions e = .ok f := by
  induction branches generalizing types with
  | nil => simp [Expr.branchChildren]
  | cons branch rest ih =>
      obtain ⟨condition, hcondition, h⟩ := bind_eq_ok.1 h
      obtain ⟨result, hresult, h⟩ := bind_eq_ok.1 h
      obtain ⟨tail, htail, -⟩ := bind_eq_ok.1 h
      intro e he
      simp only [Expr.branchChildren, List.mem_cons] at he
      rcases he with rfl | rfl | he
      · exact ⟨condition, hcondition⟩
      · exact ⟨result, hresult⟩
      · exact ih htail e he

theorem field_of_defaultTypes {default : Option Expr} {types : List DataType}
    (h : defaultTypes schema functions default = .ok types) :
    ∀ e ∈ default.toList, ∃ f, fieldOf schema functions e = .ok f := by
  cases default with
  | none => simp
  | some e =>
      obtain ⟨f, hf, -⟩ := bind_eq_ok.1 h
      simpa using ⟨f, hf⟩

/-- An expression with a field is in scope, and the children that typing looks at have fields. -/
theorem inScope_of_fieldOf {e : Expr} {f : Field} (h : fieldOf schema functions e = .ok f) :
    e.InScope schema functions ∧
      ∀ c ∈ e.typedChildren, ∃ f, fieldOf schema functions c = .ok f := by
  cases e with
  | var path =>
      obtain ⟨found, hfound, -⟩ := bind_eq_ok.1 h
      exact ⟨exists_candidate hfound, by simp [Expr.typedChildren, Expr.children]⟩
  | const | param => exact ⟨trivial, by simp [Expr.typedChildren, Expr.children]⟩
  | unary op e =>
      obtain ⟨inner, hinner, h⟩ := bind_eq_ok.1 h
      refine ⟨?_, by simpa [Expr.typedChildren, Expr.children] using ⟨inner, hinner⟩⟩
      constructor <;> rintro rfl <;> cases h
  | item e | rename _ e | cast e =>
      obtain ⟨inner, hinner, -⟩ := bind_eq_ok.1 h
      exact ⟨trivial, by simpa [Expr.typedChildren, Expr.children] using ⟨inner, hinner⟩⟩
  | binary op l r =>
      obtain ⟨left, hleft, h⟩ := bind_eq_ok.1 h
      obtain ⟨right, hright, -⟩ := bind_eq_ok.1 h
      refine ⟨trivial, ?_⟩
      simpa [Expr.typedChildren, Expr.children] using ⟨⟨left, hleft⟩, ⟨right, hright⟩⟩
  | between e low high =>
      obtain ⟨input, hinput, h⟩ := bind_eq_ok.1 h
      obtain ⟨lowField, hlow, h⟩ := bind_eq_ok.1 h
      obtain ⟨_, -, h⟩ := bind_eq_ok.1 h
      obtain ⟨highField, hhigh, -⟩ := bind_eq_ok.1 h
      refine ⟨trivial, ?_⟩
      simpa [Expr.typedChildren, Expr.children] using
        ⟨⟨input, hinput⟩, ⟨lowField, hlow⟩, ⟨highField, hhigh⟩⟩
  | tuple es =>
      refine ⟨trivial, ?_⟩
      cases es with
      | nil => simp [Expr.typedChildren]
      | cons e es =>
          obtain ⟨type, htype, -⟩ := bind_eq_ok.1 h
          obtain ⟨first, hfirst, -⟩ := bind_eq_ok.1 htype
          simpa [Expr.typedChildren] using ⟨first, hfirst⟩
  | call name args =>
      obtain ⟨fs, hfs, h⟩ := bind_eq_ok.1 h
      exact ⟨known_of_callField h, field_of_fieldsOf hfs⟩
  | star q => cases h
  | caseWhen branches default =>
      obtain ⟨results, hresults, h⟩ := bind_eq_ok.1 h
      obtain ⟨other, hother, -⟩ := bind_eq_ok.1 h
      refine ⟨trivial, fun c hc => ?_⟩
      rcases List.mem_append.1 hc with hc | hc
      · exact field_of_resultTypes hresults c hc
      · exact field_of_defaultTypes hother c hc

theorem scoped_of_fieldOf {e : Expr} {f : Field} (h : fieldOf schema functions e = .ok f) :
    e.Scoped schema functions Expr.typedChildren := by
  intro x hx
  induction hx generalizing f with
  | refl e => exact (inScope_of_fieldOf h).1
  | step hc _ ih =>
      obtain ⟨g, hg⟩ := (inScope_of_fieldOf h).2 _ hc
      exact ih hg

end Typing

end QueryEngine
