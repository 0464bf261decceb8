import QueryEngine.Function.Registry
import QueryEngine.Physical.Group
import QueryEngine.Proofs.Except

namespace QueryEngine

variable {α β : Type}

/-- Whatever the computation fails with, it is not an internal error. -/
def External (x : Except Error α) : Prop :=
  ∀ e, x = .error e → e.kind ≠ .internal

@[simp] theorem external_ok (a : α) : External (.ok a) := by
  rintro e ⟨⟩

@[simp] theorem external_error {e : Error} :
    External (.error e : Except Error α) ↔ e.kind ≠ .internal := by
  simp [External]

theorem External.bind {x : Except Error α} {f : α → Except Error β} (hx : External x)
    (hf : ∀ a, x = .ok a → External (f a)) : External (x >>= f) := by
  cases x with
  | error e => simpa using hx
  | ok a => exact hf a rfl

namespace Operation

theorem external_truth (v : Value) : External (truth v) := by
  unfold truth
  split <;> simp [Error.kind]

theorem external_logic (connective : Option Bool → Option Bool → Option Bool) (a b : Value) :
    External (logic connective a b) :=
  (external_truth a).bind fun _ _ => (external_truth b).bind fun _ _ => external_ok _

theorem external_contains (needle haystack : Value) : External (contains needle haystack) := by
  unfold contains
  split
  · simp
  · split <;> simp [Error.kind]

theorem external_integerArithmetic (op : BinaryOp) (a b : Int64) :
    External (integerArithmetic op a b) := by
  unfold integerArithmetic
  dsimp only
  split
  · split <;> simp [Error.kind]
  · split <;> simp [Error.kind]
  · split <;> simp [Error.kind]
  · split
    · simp [Error.kind]
    · split <;> simp [Error.kind]

theorem external_floatArithmetic (op : BinaryOp) (x y : Binary64) :
    External (floatArithmetic op x y) := by
  unfold floatArithmetic
  split
  · simp
  · simp
  · simp
  · split <;> simp [Error.kind]

theorem external_arithmetic (op : BinaryOp) (a b : Value) : External (arithmetic op a b) := by
  unfold arithmetic
  split
  · simp
  · simp
  · exact external_integerArithmetic _ _ _
  · split
    · simp
    · split
      · exact external_floatArithmetic _ _ _
      · simp [Error.kind]

theorem external_compilePattern (op : BinaryOp) (pattern : String) :
    External (compilePattern op pattern) := by
  unfold compilePattern
  dsimp only
  split <;> simp [Error.kind]

theorem external_matchPattern (op : BinaryOp) (v : Value) (r : Regex) :
    External (matchPattern op v r) := by
  unfold matchPattern
  split
  · simp
  · split <;> simp
  · simp [Error.kind]

theorem external_matchWith (op : BinaryOp) (a b : Value) : External (matchWith op a b) := by
  have hpattern : External (patternText b) := by
    unfold patternText
    split <;> simp [Error.kind]
  refine hpattern.bind fun pattern _ => ?_
  cases pattern with
  | none => exact external_ok _
  | some pattern =>
      exact (external_compilePattern op pattern).bind fun r _ => external_matchPattern op a r

theorem external_binary (op : BinaryOp) (a b : Value) : External (binary op a b) := by
  cases op with
  | eq | ne | is | isNot | lt | le | gt | ge => exact external_ok _
  | mem => exact external_contains _ _
  | like | notLike | rlike | notRlike | regexp => exact external_matchWith _ _ _
  | plus | minus | times | divide => exact external_arithmetic _ _ _
  | and | or => exact external_logic _ _ _

theorem external_unary (op : UnaryOp) (v : Value) : External (unary op v) := by
  unfold unary
  split
  · simp [Error.kind]
  · simp [Error.kind]
  · unfold negate
    split
    · simp
    · split <;> simp [Error.kind]
    · simp
    · simp [Error.kind]
  · exact (external_truth v).bind fun _ _ => external_ok _

theorem external_itemGet (v key : Value) : External (itemGet v key) := by
  unfold itemGet
  split
  · simp
  · split <;> simp
  · simp
  · simp [Error.kind]

theorem external_cast (v : Value) (type : DataType) : External (cast v type) := by
  unfold cast
  split
  · simp
  · split <;> simp [Error.kind]

end Operation

namespace FunctionRegistry

def ScalarsExternal (r : FunctionRegistry) : Prop :=
  ∀ name f, r.scalar name = .ok f → ∀ args, External (f.invoke args)

end FunctionRegistry

namespace Scalar

/-- Evaluation on a row of `n` values never fails with an internal error. -/
def Fits (n : Nat) (s : Scalar) : Prop :=
  ∀ ctx row, row.length = n → External (eval ctx row s)

def FitsList (n : Nat) (ss : List Scalar) : Prop :=
  ∀ ctx row, row.length = n → External (evalList ctx row ss)

variable {n : Nat}

theorem FitsList.nil : FitsList n [] :=
  fun _ _ _ => external_ok _

theorem FitsList.cons {s : Scalar} {ss : List Scalar} (h : s.Fits n) (hs : FitsList n ss) :
    FitsList n (s :: ss) := fun ctx row hrow =>
  (h ctx row hrow).bind fun _ _ => (hs ctx row hrow).bind fun _ _ => external_ok _

theorem FitsList.of_forall {ss : List Scalar} (h : ∀ s ∈ ss, s.Fits n) : FitsList n ss := by
  induction ss with
  | nil => exact .nil
  | cons s ss ih =>
      exact .cons (h s List.mem_cons_self) (ih fun s hs => h s (List.mem_cons_of_mem _ hs))

theorem fits_column {i : Nat} (h : i < n) : (column i).Fits n := by
  rintro ctx row rfl
  simp [eval, columnValue, List.getElem?_eq_getElem h]

theorem external_param (ctx : Context) (i : Nat) : External (ctx.param i) := by
  unfold Context.param
  split <;> simp [Error.kind]

variable {schema : Schema} {functions : FunctionRegistry}

mutual

theorem fits_of_plan (hf : functions.ScalarsExternal) : (e : Expr) → ∀ {s : Scalar},
    plan schema functions e = .ok s → s.Fits schema.size
  | .var path, s, h => by
      obtain ⟨i, hi, h⟩ := bind_eq_ok.1 h
      cases h
      exact fits_column (Schema.position_lt_size hi)
  | .const v, s, h => by
      cases h
      exact fun _ _ _ => external_ok _
  | .param i, s, h => by
      cases h
      exact fun ctx _ _ => external_param ctx i
  | .unary op e, s, h => by
      obtain ⟨inner, hinner, h⟩ := bind_eq_ok.1 h
      cases h
      exact fun ctx row hrow =>
        (fits_of_plan hf e hinner ctx row hrow).bind fun v _ => Operation.external_unary op v
  | .cast e type, s, h => by
      obtain ⟨inner, hinner, h⟩ := bind_eq_ok.1 h
      cases h
      exact fun ctx row hrow =>
        (fits_of_plan hf e hinner ctx row hrow).bind fun v _ => Operation.external_cast v type
  | .item e key, s, h => by
      obtain ⟨inner, hinner, h⟩ := bind_eq_ok.1 h
      cases h
      exact fun ctx row hrow =>
        (fits_of_plan hf e hinner ctx row hrow).bind fun v _ => Operation.external_itemGet v key
  | .binary op l r, s, h => by
      obtain ⟨left, hleft, h⟩ := bind_eq_ok.1 h
      split at h
      · obtain ⟨regex, -, h⟩ := bind_eq_ok.1 h
        cases h
        exact fun ctx row hrow => (fits_of_plan hf l hleft ctx row hrow).bind fun v _ =>
          Operation.external_matchPattern op v regex
      · obtain ⟨right, hright, h⟩ := bind_eq_ok.1 h
        cases h
        exact fun ctx row hrow => (fits_of_plan hf l hleft ctx row hrow).bind fun a _ =>
          (fits_of_plan hf r hright ctx row hrow).bind fun b _ => Operation.external_binary op a b
  | .between e low high, s, h => by
      obtain ⟨input, hinput, h⟩ := bind_eq_ok.1 h
      obtain ⟨above, habove, h⟩ := bind_eq_ok.1 h
      obtain ⟨below, hbelow, h⟩ := bind_eq_ok.1 h
      cases h
      intro ctx row hrow
      refine (fits_of_plan hf e hinput ctx row hrow).bind fun v _ => ?_
      refine (fits_of_plan hf low habove ctx row hrow).bind fun a _ => ?_
      refine (Operation.external_binary .ge v a).bind fun x _ => ?_
      refine (fits_of_plan hf high hbelow ctx row hrow).bind fun b _ => ?_
      exact (Operation.external_binary .le v b).bind fun y _ => Operation.external_binary .and x y
  | .tuple es, s, h => by
      obtain ⟨ss, hss, h⟩ := bind_eq_ok.1 h
      cases h
      exact fun ctx row hrow =>
        (fitsList_of_planList hf es hss ctx row hrow).bind fun _ _ => external_ok _
  | .call name args, s, h => by
      rw [plan] at h
      split at h
      · cases h
      · obtain ⟨f, hname, h⟩ := bind_eq_ok.1 h
        obtain ⟨ss, hss, h⟩ := bind_eq_ok.1 h
        cases h
        exact fun ctx row hrow =>
          (fitsList_of_planList hf args hss ctx row hrow).bind fun vs _ => hf name f hname vs
  | .rename _ e, s, h => fits_of_plan hf e h
  | .star q, s, h => by cases h
  | .caseWhen branches default, s, h => by
      obtain ⟨bs, hbs, h⟩ := bind_eq_ok.1 h
      obtain ⟨other, hother, h⟩ := bind_eq_ok.1 h
      cases h
      intro ctx row hrow
      refine (external_evalBranches hf branches hbs hrow).bind fun result _ => ?_
      cases result with
      | some v => exact external_ok _
      | none => exact external_evalDefault hf default hother hrow

theorem fitsList_of_planList (hf : functions.ScalarsExternal) : (es : List Expr) →
    ∀ {ss : List Scalar}, planList schema functions es = .ok ss → FitsList schema.size ss
  | [], ss, h => by
      cases h
      exact .nil
  | e :: es, ss, h => by
      obtain ⟨s, hs, h⟩ := bind_eq_ok.1 h
      obtain ⟨rest, hrest, h⟩ := bind_eq_ok.1 h
      cases h
      exact .cons (fits_of_plan hf e hs) (fitsList_of_planList hf es hrest)

theorem external_evalBranches (hf : functions.ScalarsExternal) : (branches : List (Expr × Expr)) →
    ∀ {ss : List (Scalar × Scalar)}, planBranches schema functions branches = .ok ss →
      ∀ {ctx : Context} {row : Row}, row.length = schema.size → External (evalBranches ctx row ss)
  | [], ss, h, ctx, row, _ => by
      cases h
      exact external_ok _
  | (c, r) :: rest, ss, h, ctx, row, hrow => by
      obtain ⟨cond, hcond, h⟩ := bind_eq_ok.1 h
      obtain ⟨result, hresult, h⟩ := bind_eq_ok.1 h
      obtain ⟨tail, htail, h⟩ := bind_eq_ok.1 h
      cases h
      refine (fits_of_plan hf c hcond ctx row hrow).bind fun v _ => ?_
      split
      · exact (fits_of_plan hf r hresult ctx row hrow).bind fun _ _ => external_ok _
      · exact external_evalBranches hf rest htail hrow

theorem external_evalDefault (hf : functions.ScalarsExternal) : (default : Option Expr) →
    ∀ {s : Option Scalar}, planDefault schema functions default = .ok s →
      ∀ {ctx : Context} {row : Row}, row.length = schema.size → External (evalDefault ctx row s)
  | none, s, h, ctx, row, _ => by
      cases h
      exact external_ok _
  | some e, s, h, ctx, row, hrow => by
      obtain ⟨inner, hinner, h⟩ := bind_eq_ok.1 h
      cases h
      exact fits_of_plan hf e hinner ctx row hrow

end

end Scalar

end QueryEngine
