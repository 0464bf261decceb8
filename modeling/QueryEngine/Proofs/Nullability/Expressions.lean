import QueryEngine.Proofs.Grouping.Exact
import QueryEngine.Proofs.Nullability.Fields

namespace QueryEngine

open Typing

namespace Operation

theorem nested_of_negate {v w : Value} (h : negate v = .ok w) :
    (v ≠ .null → w ≠ .null) ∧ (∀ record, w ≠ .record record) ∧ ∀ vs, w ≠ .list vs := by
  unfold negate at h
  split at h
  · cases h
    simp
  · split at h
    · cases h
      simp
    · cases h
  · cases h
    simp
  · cases h

theorem convert?_ne_null {type : DataType} {v w : Value} (h : convert? type v = some w) :
    w ≠ .null := by
  rintro rfl
  cases type with
  | integer | float | boolean | date | datetime | time | string =>
      cases v <;> simp [convert?, toInteger?, toFloat?, toText?, toBoolean?, toDate?, toDateTime?,
        toTime?, Option.bind_eq_some_iff] at h
  | record | binary | null => cases h

theorem cast_ne_null {type : DataType} {v w : Value} (hv : v ≠ .null) (h : cast v type = .ok w) :
    w ≠ .null := by
  unfold cast at h
  split at h
  · cases h
    exact hv
  · split at h
    · next hconvert =>
        cases h
        exact convert?_ne_null hconvert
    · cases h

end Operation

/-- Where its field is REQUIRED, the expression takes nested fields out of REQUIRED records only. -/
def Expr.Guarded (schema : Schema) (functions : FunctionRegistry) : Expr → Prop
  | .unary .neg e | .rename _ e | .cast e _ => e.Guarded schema functions
  | .item e key => ∀ f g, fieldOf schema functions e = .ok f → itemField f key = .ok g →
    g.mode = .required → f.mode = .required ∧ e.Guarded schema functions
  | _ => True

def Field.Lax (f : Field) : Prop :=
  f.mode ≠ .required ∧ f.fields = []

/-- No function promises anything of its results. -/
structure FunctionRegistry.Lax (r : FunctionRegistry) : Prop where
  scalars : ∀ name f, r.scalar name = .ok f → ∀ args field, f.returns args = .ok field →
    field.Lax
  aggregates : ∀ name a, r.aggregate name = .ok a → ∀ args field,
    a.returns.resolve args = .ok field → field.Lax

variable {solid due due' : Prop} {schema : Schema} {functions : FunctionRegistry}

theorem Field.Lax.filled {f : Field} (h : f.Lax) (v : Value) : f.Filled solid due v :=
  filled_of_fields_nil h.2 fun hmode => absurd hmode h.1

theorem Field.lax_anonymous (type : DataType) : (anonymous type).Lax :=
  ⟨by simp [anonymous], rfl⟩

theorem FunctionRegistry.Lax.callField (hf : functions.Lax) {name : String} {args : List Field}
    {field : Field} (h : Typing.callField functions name args = .ok field) : field.Lax := by
  unfold Typing.callField at h
  split at h
  · obtain ⟨a, ha, h⟩ := bind_eq_ok.1 h
    exact hf.aggregates name a ha args field h
  · obtain ⟨f, hf', h⟩ := bind_eq_ok.1 h
    exact hf.scalars name f hf' args field h

theorem itemField_cases {f g : Field} {key : Value} (h : itemField f key = .ok g)
    (hmode : f.mode ≠ .repeated) :
    g.Lax ∨ ∃ name, key = .string name ∧ g ∈ f.fields ∧ g.name = name := by
  unfold itemField at h
  rw [if_neg hmode] at h
  split at h
  · next name _ =>
      split at h
      · next nested hnested =>
          cases h
          exact .inr ⟨name, rfl, List.mem_of_find?_eq_some hnested,
            by simpa using List.find?_some hnested⟩
      · cases h
  · cases h
    exact .inl (Field.lax_anonymous _)

section

variable {f g : Field} {key v w : Value}

theorem filled_of_itemGet_repeated (hw : f.Filled solid due' w)
    (hmode : f.mode = .repeated) (hv : Operation.itemGet w key = .ok v) :
    ({ f with mode := .nullable } : Field).Filled solid due v := by
  have hnull : ({ f with mode := .nullable } : Field).Filled solid due .null :=
    Field.filled_null (by simp)
  unfold Operation.itemGet at hv
  split at hv
  · cases hv
    exact hnull
  · next vs i =>
      split at hv <;> cases hv
      · rw [List.getD_eq_getElem?_getD]
        cases he : vs[i.toInt.toNat]? with
        | none => exact hnull
        | some e => exact hw.element hmode (List.mem_of_getElem? he)
      · exact hnull
  · next record name =>
      -- a record in the place of a list
      by_cases hsolid : solid
      · by_cases hfields : f.fields = []
        · exact Field.filled_of_fields_nil hfields (by simp)
        · exact absurd rfl (((Field.filled_iff.1 hw).2.2 hsolid hmode hfields).1 record)
      · exact Field.filled_of_not hsolid _ v (by simp)
  · cases hv

/-- What an item access finds in a value, which has to fill its field as far as the nested field is
REQUIRED. -/
theorem filled_of_itemGet (hfield : itemField f key = .ok g)
    (hrequired : due → g.mode = .required → f.mode = .required)
    (hw : f.Filled solid (due ∧ g.mode = .required) w) (hv : Operation.itemGet w key = .ok v) :
    g.Filled solid due v := by
  by_cases hmode : f.mode = .repeated
  · unfold itemField at hfield
    rw [if_pos hmode] at hfield
    cases hfield
    exact (filled_of_itemGet_repeated hw hmode hv).congr rfl rfl
  · rcases itemField_cases hfield hmode with hlax | ⟨name, rfl, hmem, hname⟩
    · exact hlax.filled v
    · unfold Operation.itemGet at hv
      split at hv
      · cases hv
        refine Field.filled_null fun hd hg => ?_
        exact (Field.filled_iff.1 hw).1 ⟨hd, hg⟩ (hrequired hd hg) rfl
      · next hkey => cases hkey
      · next record name' hkey =>
          cases hkey
          cases hv
          have hnested := Field.filledAll_iff.1 ((Field.filled_iff.1 hw).2.1 record rfl) g hmem
          rw [← hname]
          exact hnested.mono fun hd hg => ⟨⟨hd, hg⟩, hrequired hd hg⟩
      · cases hv

end

theorem filled_of_eval (hf : functions.Lax) {ctx : Context} {row : Row}
    (hrow : Conforms solid schema.fields row) :
    (e : Expr) → ∀ {due : Prop} {f : Field} {s : Scalar} {v : Value},
      (due → e.Guarded schema functions) → fieldOf schema functions e = .ok f →
        Scalar.plan schema functions e = .ok s → Scalar.eval ctx row s = .ok v →
          f.Filled solid due v
  | .var path, due, f, s, v, _, hfield, hplan, hv => by
      obtain ⟨⟨i, own⟩, hresolve, hfield⟩ := bind_eq_ok.1 hfield
      cases hfield
      obtain ⟨j, hj, hplan⟩ := bind_eq_ok.1 hplan
      cases hplan
      obtain rfl : i = j := by simpa [Schema.position, hresolve, Except.map] using hj
      simp only [Scalar.eval, Scalar.columnValue] at hv
      split at hv
      · next v' hrow' =>
          cases hv
          have hfilled := hrow.filled (Schema.resolve_eq_ok hresolve) hrow'
          exact (hfilled.mono fun _ _ => trivial).congr rfl rfl
      · cases hv
  | .unary op e, due, f, s, v, hguarded, hfield, hplan, hv => by
      obtain ⟨inner, hinner, hfield⟩ := bind_eq_ok.1 hfield
      obtain ⟨se, hse, hplan⟩ := bind_eq_ok.1 hplan
      cases hplan
      obtain ⟨w, hw, hv⟩ := bind_eq_ok.1 hv
      cases op with
      | asc | desc => cases hfield
      | not =>
          cases hfield
          exact Field.Lax.filled ⟨by simp, rfl⟩ v
      | neg =>
          cases hfield
          have hfilled := filled_of_eval hf hrow e hguarded hinner hse hw
          obtain ⟨hnull, hrecord, hlist⟩ := Operation.nested_of_negate hv
          exact Field.filled_iff.2
            ⟨fun hd hmode => hnull ((Field.filled_iff.1 hfilled).1 hd hmode),
              fun record h => absurd h (hrecord record),
              fun _ _ _ => ⟨hrecord, fun vs h => absurd h (hlist vs)⟩⟩
  | .rename name e, due, f, s, v, hguarded, hfield, hplan, hv => by
      obtain ⟨inner, hinner, hfield⟩ := bind_eq_ok.1 hfield
      cases hfield
      exact (filled_of_eval hf hrow e hguarded hinner hplan hv).congr rfl rfl
  | .cast e type, due, f, s, v, hguarded, hfield, hplan, hv => by
      obtain ⟨inner, hinner, hfield⟩ := bind_eq_ok.1 hfield
      cases hfield
      obtain ⟨se, hse, hplan⟩ := bind_eq_ok.1 hplan
      cases hplan
      obtain ⟨w, hw, hv⟩ := bind_eq_ok.1 hv
      have hfilled := filled_of_eval hf hrow e hguarded hinner hse hw
      -- the field of a cast has no nested fields
      exact Field.filled_iff.2 ⟨fun hd hmode =>
        Operation.cast_ne_null ((Field.filled_iff.1 hfilled).1 hd hmode) hv,
        fun _ _ => trivial, fun _ _ h => absurd rfl h⟩
  | .item e key, due, f, s, v, hguarded, hfield, hplan, hv => by
      obtain ⟨inner, hinner, hfield⟩ := bind_eq_ok.1 hfield
      obtain ⟨se, hse, hplan⟩ := bind_eq_ok.1 hplan
      cases hplan
      obtain ⟨w, hw, hv⟩ := bind_eq_ok.1 hv
      -- nothing is due behind a nested field that may be NULL
      have hguarded (h : due ∧ f.mode = .required) :
          inner.mode = .required ∧ e.Guarded schema functions :=
        hguarded h.1 inner f hinner hfield h.2
      have hfilled := filled_of_eval hf hrow e (fun h => (hguarded h).2) hinner hse hw
      exact filled_of_itemGet hfield (fun hd hmode => (hguarded ⟨hd, hmode⟩).1) hfilled hv
  | .const _, due, f, _, v, _, hfield, _, _ | .param _, due, f, _, v, _, hfield, _, _ => by
      cases hfield
      exact (Field.lax_anonymous _).filled v
  | .binary op l r, due, f, _, v, _, hfield, _, _ => by
      obtain ⟨left, -, hfield⟩ := bind_eq_ok.1 hfield
      obtain ⟨right, -, hfield⟩ := bind_eq_ok.1 hfield
      obtain ⟨type, -, hfield⟩ := bind_eq_ok.1 hfield
      cases hfield
      exact (Field.lax_anonymous type).filled v
  | .between e low high, due, f, _, v, _, hfield, _, _ => by
      obtain ⟨input, -, hfield⟩ := bind_eq_ok.1 hfield
      obtain ⟨l, -, hfield⟩ := bind_eq_ok.1 hfield
      obtain ⟨_, -, hfield⟩ := bind_eq_ok.1 hfield
      obtain ⟨h, -, hfield⟩ := bind_eq_ok.1 hfield
      obtain ⟨_, -, hfield⟩ := bind_eq_ok.1 hfield
      cases hfield
      exact (Field.lax_anonymous .boolean).filled v
  | .tuple es, due, f, _, v, _, hfield, _, _ => by
      obtain ⟨type, -, hfield⟩ := bind_eq_ok.1 hfield
      cases hfield
      exact Field.Lax.filled ⟨by simp, rfl⟩ v
  | .call name args, due, f, _, v, _, hfield, _, _ => by
      obtain ⟨fields, -, hfield⟩ := bind_eq_ok.1 hfield
      exact (hf.callField hfield).filled v
  | .caseWhen branches default, due, f, _, v, _, hfield, _, _ => by
      obtain ⟨results, -, hfield⟩ := bind_eq_ok.1 hfield
      obtain ⟨other, -, hfield⟩ := bind_eq_ok.1 hfield
      cases hfield
      exact (Field.lax_anonymous _).filled v
  | .star _, _, _, _, _, _, hfield, _, _ => by cases hfield

end QueryEngine
