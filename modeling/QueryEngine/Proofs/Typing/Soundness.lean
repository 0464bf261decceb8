import QueryEngine.Proofs.Nullability.Fields

namespace QueryEngine

open Typing

namespace Value

/-- Whether a value may stand in a column of a type. NULL and lists may stand in any column. -/
def hasType (type : DataType) : Value → Bool
  | null | list _ => true
  | v => v.type = type

@[simp] theorem hasType_null (type : DataType) : null.hasType type = true := rfl

@[simp] theorem hasType_integer {i : Int64} {type : DataType} :
    (integer i).hasType type = true ↔ type = .integer := by
  simp [hasType, Value.type, eq_comm]

@[simp] theorem hasType_float {x : Binary64} {type : DataType} :
    (float x).hasType type = true ↔ type = .float := by
  simp [hasType, Value.type, eq_comm]

@[simp] theorem hasType_string {s : String} {type : DataType} :
    (string s).hasType type = true ↔ type = .string := by
  simp [hasType, Value.type, eq_comm]

theorem hasType_of_type {v : Value} {type : DataType} (h : v.type = type) :
    v.hasType type = true := by
  cases v <;> simp [hasType, h]

theorem toString?_eq_some {v : Value} {s : String} : v.toString? = some s ↔ v = .string s := by
  cases v <;> simp [toString?]

theorem toFloat?_eq_some {v : Value} {x : Binary64} (h : v.toFloat? = some x) :
    (∃ i, v = .integer i) ∨ v = .float x := by
  cases v <;> simp_all [toFloat?]

end Value

open Value

theorem Typing.binaryType_eq_ok {op : BinaryOp} {s t u : DataType} (h : binaryType op s t = .ok u) :
    u = if op.isArithmetic then arithmeticType s t else .boolean := by
  unfold binaryType at h
  split at h
  · cases h
  · split at h <;> cases h <;> simp [*]

namespace Operation

variable {op : BinaryOp} {a b v w : Value} {s t : DataType}

theorem hasType_ofTruth (x : Option Bool) : (ofTruth x).hasType .boolean = true := by
  cases x <;> rfl

theorem hasType_compareWith (op : BinaryOp) (a b : Value) :
    (compareWith op a b).hasType .boolean = true := by
  unfold compareWith
  split <;> rfl

theorem hasType_contains (h : contains a b = .ok v) : v.hasType .boolean = true := by
  unfold contains at h
  split at h
  · cases h
    rfl
  · split at h <;> cases h <;> rfl

theorem hasType_logic {connective : Option Bool → Option Bool → Option Bool}
    (h : logic connective a b = .ok v) : v.hasType .boolean = true := by
  obtain ⟨x, -, h⟩ := bind_eq_ok.1 h
  obtain ⟨y, -, h⟩ := bind_eq_ok.1 h
  cases h
  exact hasType_ofTruth _

theorem hasType_matchPattern {r : Regex} (h : matchPattern op a r = .ok v) :
    v.hasType .boolean = true := by
  unfold matchPattern at h
  split at h
  · cases h
    rfl
  · split at h <;> cases h <;> rfl
  · cases h

theorem hasType_matchWith (h : matchWith op a b = .ok v) : v.hasType .boolean = true := by
  obtain ⟨pattern, -, h⟩ := bind_eq_ok.1 h
  cases pattern with
  | none =>
      cases h
      rfl
  | some text =>
      obtain ⟨r, -, h⟩ := bind_eq_ok.1 h
      exact hasType_matchPattern h

theorem hasType_integerArithmetic {i j : Int64} (h : integerArithmetic op i j = .ok v) :
    v.hasType .integer = true := by
  unfold integerArithmetic at h
  dsimp only at h
  split at h
  iterate 3
    · split at h <;> cases h
      rfl
  · split at h
    · cases h
    · split at h <;> cases h
      rfl

theorem hasType_floatArithmetic {x y : Binary64} (h : floatArithmetic op x y = .ok v) :
    v.hasType .float = true := by
  unfold floatArithmetic at h
  split at h
  iterate 3
    · cases h
      rfl
  · split at h <;> cases h
    rfl

/-- Arithmetic looks at the types of the values as typing does at those of the expressions. -/
theorem hasType_arithmetic (ha : a.hasType s = true) (hb : b.hasType t = true)
    (h : arithmetic op a b = .ok v) : v.hasType (arithmeticType s t) = true := by
  unfold arithmetic at h
  split at h
  · cases h
    rfl
  · cases h
    rfl
  · obtain rfl := hasType_integer.1 ha
    obtain rfl := hasType_integer.1 hb
    exact hasType_integerArithmetic h
  · next hintegers =>
      split at h
      · next x y hx hy =>
          obtain rfl := toString?_eq_some.1 hx
          obtain rfl := toString?_eq_some.1 hy
          obtain rfl := hasType_string.1 ha
          obtain rfl := hasType_string.1 hb
          cases h
          rfl
      · split at h
        · next x y hx hy =>
            have htype : arithmeticType s t = .float := by
              rcases toFloat?_eq_some hx with ⟨i, rfl⟩ | rfl <;>
                rcases toFloat?_eq_some hy with ⟨j, rfl⟩ | rfl
              -- two integers have been dealt with before; with a float among them both are floats
              · exact absurd rfl (hintegers i j rfl)
              all_goals
                simp only [hasType_integer, hasType_float] at ha hb
                subst ha hb
                rfl
            rw [htype]
            exact hasType_floatArithmetic h
        · cases h

theorem hasType_binary_of_not_arithmetic (hop : op.isArithmetic = false)
    (h : binary op a b = .ok v) : v.hasType .boolean = true := by
  cases op with
  | plus | minus | times | divide => cases hop
  | eq | ne | is | isNot =>
      cases h
      rfl
  | lt | le | gt | ge =>
      cases h
      exact hasType_compareWith _ a b
  | mem => exact hasType_contains h
  | like | notLike | rlike | notRlike | regexp => exact hasType_matchWith h
  | and | or => exact hasType_logic h

theorem binary_of_arithmetic (hop : op.isArithmetic = true) (a b : Value) :
    binary op a b = arithmetic op a b := by
  cases op <;> first | rfl | cases hop

theorem hasType_binary {u : DataType} (ha : a.hasType s = true) (hb : b.hasType t = true)
    (hu : binaryType op s t = .ok u) (h : binary op a b = .ok v) : v.hasType u = true := by
  obtain rfl := binaryType_eq_ok hu
  cases hop : op.isArithmetic with
  | true =>
      rw [binary_of_arithmetic hop] at h
      exact hasType_arithmetic ha hb h
  | false => exact hasType_binary_of_not_arithmetic hop h

theorem hasType_negate (ha : a.hasType t = true) (h : negate a = .ok v) : v.hasType t = true := by
  unfold negate at h
  split at h
  · cases h
    rfl
  · split at h <;> cases h
    simpa using ha
  · cases h
    simpa using ha
  · cases h

theorem type_of_convert? (h : convert? t v = some w) : w.type = t := by
  cases t with
  | integer | float | boolean | date | datetime | time | string =>
      cases v <;> simp only [convert?, toInteger?, toFloat?, toText?, toBoolean?, toDate?,
        toDateTime?, toTime?, reduceCtorEq] at h
      all_goals first
        | obtain ⟨_, -, rfl⟩ := Option.map_eq_some_iff.1 h; rfl
        | cases h; rfl
  | record | binary | null => cases h

theorem hasType_cast (ht : t ≠ .null) (h : cast a t = .ok v) : v.hasType t = true := by
  unfold cast at h
  split at h
  · next hnull =>
      cases h
      cases a <;> simp_all [isNull]
  · split at h
    · next hconvert =>
        cases h
        exact hasType_of_type (type_of_convert? hconvert)
    · cases h

end Operation

/-- Expressions of fields, literals and operators. The types of parameters, of elements, of calls
and of the results of a CASE are promised by nothing in the expression, and a cast to NULL changes
no value. -/
inductive Expr.Basic : Expr → Prop
  | var (path : String) : Basic (.var path)
  | const (v : Value) : Basic (.const v)
  | neg {e : Expr} : Basic e → Basic e.neg
  | not {e : Expr} : Basic e → Basic e.not
  | binary (op : BinaryOp) {l r : Expr} : Basic l → Basic r → Basic (.binary op l r)
  | between {e low high : Expr} : Basic e → Basic low → Basic high → Basic (.between e low high)
  | rename (name : String) {e : Expr} : Basic e → Basic (.rename name e)
  | cast {e : Expr} {type : DataType} : Basic e → type ≠ .null → Basic (.cast e type)

def Schema.HasTypes (schema : Schema) (row : Row) : Prop :=
  ∀ (i : Nat) (f : Field) (v : Value), schema.fields[i]? = some f → row[i]? = some v →
    v.hasType f.type = true

theorem Scalar.isArithmetic_of_constantPattern? {op : BinaryOp} {e : Expr} {text : String}
    (h : constantPattern? op e = some text) : op.isArithmetic = false := by
  unfold constantPattern? at h
  split at h
  · cases op <;> first | rfl | cases h
  · cases h

variable {schema : Schema} {functions : FunctionRegistry} {ctx : Context} {row : Row} {e : Expr}
  {f : Field} {s : Scalar} {v : Value}

/-- What the expression evaluates to has the type that its field has. -/
theorem hasType_of_eval (he : e.Basic) (hf : fieldOf schema functions e = .ok f)
    (hs : Scalar.plan schema functions e = .ok s) (hrow : schema.HasTypes row)
    (hv : s.eval ctx row = .ok v) : v.hasType f.type = true := by
  induction he generalizing f s v with
  | var path =>
      obtain ⟨⟨i, field⟩, hfield, h⟩ := bind_eq_ok.1 hf
      cases h
      obtain ⟨j, hj, h⟩ := bind_eq_ok.1 hs
      cases h
      rw [Schema.position, hfield] at hj
      cases hj
      rw [Scalar.eval, Scalar.columnValue] at hv
      split at hv
      · next hvalue =>
          cases hv
          exact hrow i field v (Schema.resolve_eq_ok hfield) hvalue
      · cases hv
  | const w =>
      cases hf
      cases hs
      cases hv
      exact hasType_of_type rfl
  | neg _ ih =>
      obtain ⟨field, hfield, h⟩ := bind_eq_ok.1 hf
      cases h
      obtain ⟨s', hs', h⟩ := bind_eq_ok.1 hs
      cases h
      obtain ⟨w, hw, hv⟩ := bind_eq_ok.1 hv
      have htype := ih hfield hs' hw
      exact Operation.hasType_negate htype hv
  | not _ ih =>
      obtain ⟨field, hfield, h⟩ := bind_eq_ok.1 hf
      cases h
      obtain ⟨s', hs', h⟩ := bind_eq_ok.1 hs
      cases h
      obtain ⟨w, hw, hv⟩ := bind_eq_ok.1 hv
      obtain ⟨x, hx, hv⟩ := bind_eq_ok.1 hv
      cases hv
      exact Operation.hasType_ofTruth _
  | @binary op l r _ _ ihl ihr =>
      obtain ⟨left, hleft, h⟩ := bind_eq_ok.1 hf
      obtain ⟨right, hright, h⟩ := bind_eq_ok.1 h
      obtain ⟨type, htype, h⟩ := bind_eq_ok.1 h
      cases h
      rw [Scalar.plan] at hs
      obtain ⟨sl, hsl, hs⟩ := bind_eq_ok.1 hs
      cases hpattern : Scalar.constantPattern? op r with
      | none =>
          rw [hpattern] at hs
          obtain ⟨sr, hsr, h⟩ := bind_eq_ok.1 hs
          cases h
          obtain ⟨a, ha, hv⟩ := bind_eq_ok.1 hv
          obtain ⟨b, hb, hv⟩ := bind_eq_ok.1 hv
          exact Operation.hasType_binary (ihl hleft hsl ha) (ihr hright hsr hb) htype hv
      | some text =>
          -- the pattern is not an operand any more, but the operator is one that matches
          rw [hpattern] at hs
          obtain ⟨regex, -, h⟩ := bind_eq_ok.1 hs
          cases h
          obtain ⟨a, -, hv⟩ := bind_eq_ok.1 hv
          obtain rfl := binaryType_eq_ok htype
          rw [Scalar.isArithmetic_of_constantPattern? hpattern]
          exact Operation.hasType_matchPattern hv
  | between _ _ _ =>
      obtain ⟨input, -, h⟩ := bind_eq_ok.1 hf
      obtain ⟨lowField, -, h⟩ := bind_eq_ok.1 h
      obtain ⟨_, -, h⟩ := bind_eq_ok.1 h
      obtain ⟨highField, -, h⟩ := bind_eq_ok.1 h
      obtain ⟨_, -, h⟩ := bind_eq_ok.1 h
      cases h
      obtain ⟨se, -, h⟩ := bind_eq_ok.1 hs
      obtain ⟨slow, -, h⟩ := bind_eq_ok.1 h
      obtain ⟨shigh, -, h⟩ := bind_eq_ok.1 h
      cases h
      rw [Scalar.eval] at hv
      obtain ⟨w, -, hv⟩ := bind_eq_ok.1 hv
      obtain ⟨wl, -, hv⟩ := bind_eq_ok.1 hv
      obtain ⟨above, -, hv⟩ := bind_eq_ok.1 hv
      obtain ⟨wh, -, hv⟩ := bind_eq_ok.1 hv
      obtain ⟨below, -, hv⟩ := bind_eq_ok.1 hv
      exact Operation.hasType_logic hv
  | rename name _ ih =>
      obtain ⟨field, hfield, h⟩ := bind_eq_ok.1 hf
      cases h
      have htype := ih hfield hs hv
      exact htype
  | cast _ htype =>
      obtain ⟨field, hfield, h⟩ := bind_eq_ok.1 hf
      cases h
      obtain ⟨s', hs', h⟩ := bind_eq_ok.1 hs
      cases h
      obtain ⟨w, hw, hv⟩ := bind_eq_ok.1 hv
      exact Operation.hasType_cast htype hv

theorem hasType_of_eval_mixed_sum :
    let schema : Schema := ⟨none, [{ name := "size", type := .integer },
      { name := "weight", type := .float }]⟩
    let row : Row := [.integer 3, .float (Binary64.ofInt 5)]
    let e : Expr := .rename "total" (.binary .plus (.neg (.var "size")) (.var "weight"))
    let f : Field := { name := "total", type := .float }
    let s : Scalar := .binary .plus (.unary .neg (.column 0)) (.column 1)
    let v : Value := .float (Binary64.ofInt (-3) + Binary64.ofInt 5)
    e.Basic ∧ fieldOf schema .builtins e = .ok f ∧ Scalar.plan schema .builtins e = .ok s ∧
      schema.HasTypes row ∧ s.eval {} row = .ok v ∧ v.hasType f.type = true := by
  intro schema row e f s v
  have he : e.Basic := .rename _ (.binary _ (.neg (.var _)) (.var _))
  have hrow : schema.HasTypes row := by
    rintro (_ | _ | i) f v hf hv
    · cases hf
      cases hv
      rfl
    · cases hf
      cases hv
      rfl
    · cases hf
  have hf : fieldOf schema .builtins e = .ok f := rfl
  have hs : Scalar.plan schema .builtins e = .ok s := rfl
  have hv : s.eval {} row = .ok v := rfl
  exact ⟨he, hf, hs, hrow, hv, hasType_of_eval he hf hs hrow hv⟩

end QueryEngine
