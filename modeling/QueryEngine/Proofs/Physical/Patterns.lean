import Mathlib
import QueryEngine.Physical.Scalar
import QueryEngine.Proofs.Except

namespace QueryEngine

open Operation

namespace Expr

section

variable (params : List Value)

mutual

/-- An expression, and the same one with parameters in place of constant patterns, anywhere in it.
The patterns are valid, and the parameters are bound to their texts. -/
inductive Parametrizes : Expr → Expr → Prop
  | refl (e : Expr) : Parametrizes e e
  | pattern {op : BinaryOp} {l l' : Expr} {text : String} {r : Regex} {i : Nat}
    (hop : op.isPatternMatch = true) (hvalid : compilePattern op text = .ok r)
    (hparam : params[i]? = some (.string text)) (h : Parametrizes l l') :
    Parametrizes (binary op l (const (.string text))) (binary op l' (param i))
  | unary (op : UnaryOp) {e e' : Expr} (h : Parametrizes e e') :
    Parametrizes (unary op e) (unary op e')
  | item (key : Value) {e e' : Expr} (h : Parametrizes e e') :
    Parametrizes (item e key) (item e' key)
  | binary (op : BinaryOp) {l l' r r' : Expr} (hl : Parametrizes l l') (hr : Parametrizes r r') :
    Parametrizes (binary op l r) (binary op l' r')
  | between {e e' low low' high high' : Expr} (h : Parametrizes e e')
    (hlow : Parametrizes low low') (hhigh : Parametrizes high high') :
    Parametrizes (between e low high) (between e' low' high')
  | tuple {es es' : List Expr} (h : ParametrizesList es es') :
    Parametrizes (tuple es) (tuple es')
  | call (name : String) {args args' : List Expr} (h : ParametrizesList args args') :
    Parametrizes (call name args) (call name args')
  | rename (name : String) {e e' : Expr} (h : Parametrizes e e') :
    Parametrizes (rename name e) (rename name e')
  | caseWhen {branches branches' : List (Expr × Expr)} {default default' : Option Expr}
    (h : ParametrizesBranches branches branches') (hdefault : ParametrizesDefault default default') :
    Parametrizes (caseWhen branches default) (caseWhen branches' default')
  | cast {e e' : Expr} (h : Parametrizes e e') (type : DataType) :
    Parametrizes (cast e type) (cast e' type)

inductive ParametrizesList : List Expr → List Expr → Prop
  | nil : ParametrizesList [] []
  | cons {e e' : Expr} {es es' : List Expr} (h : Parametrizes e e')
    (hes : ParametrizesList es es') : ParametrizesList (e :: es) (e' :: es')

inductive ParametrizesBranches : List (Expr × Expr) → List (Expr × Expr) → Prop
  | nil : ParametrizesBranches [] []
  | cons {c c' r r' : Expr} {rest rest' : List (Expr × Expr)} (hc : Parametrizes c c')
    (hr : Parametrizes r r') (h : ParametrizesBranches rest rest') :
    ParametrizesBranches ((c, r) :: rest) ((c', r') :: rest')

inductive ParametrizesDefault : Option Expr → Option Expr → Prop
  | none : ParametrizesDefault none none
  | some {e e' : Expr} (h : Parametrizes e e') : ParametrizesDefault (some e) (some e')

end

end

end Expr

namespace Scalar

section

variable (ctx : Context) (schema : Schema) (functions : FunctionRegistry)

/-- The values of an expression by rows, or the error of planning it. -/
def meaning (e : Expr) : Except Error (Row → Except Error Value) :=
  (plan schema functions e).map fun p row => eval ctx row p

def meaningList (es : List Expr) : Except Error (Row → Except Error (List Value)) :=
  (planList schema functions es).map fun ps row => evalList ctx row ps

def meaningBranches (branches : List (Expr × Expr)) :
    Except Error (Row → Except Error (Option Value)) :=
  (planBranches schema functions branches).map fun bs row => evalBranches ctx row bs

def meaningDefault (default : Option Expr) : Except Error (Row → Except Error Value) :=
  (planDefault schema functions default).map fun p row => evalDefault ctx row p

theorem meaning_param {i : Nat} {v : Value} (h : ctx.params[i]? = some v) :
    meaning ctx schema functions (.param i) = .ok fun _ => .ok v := by
  simp only [meaning, plan, Except.map, eval, Context.param, h]

theorem meaning_unary (op : UnaryOp) (e : Expr) :
    meaning ctx schema functions (.unary op e) =
      (meaning ctx schema functions e).map fun d row => d row >>= Operation.unary op := by
  simp only [meaning, plan]
  cases plan schema functions e <;> rfl

theorem meaning_item (e : Expr) (key : Value) :
    meaning ctx schema functions (.item e key) =
      (meaning ctx schema functions e).map fun d row => d row >>= (itemGet · key) := by
  simp only [meaning, plan]
  cases plan schema functions e <;> rfl

theorem meaning_cast (e : Expr) (type : DataType) :
    meaning ctx schema functions (.cast e type) =
      (meaning ctx schema functions e).map fun d row => d row >>= (Operation.cast · type) := by
  simp only [meaning, plan]
  cases plan schema functions e <;> rfl

theorem meaning_rename (name : String) (e : Expr) :
    meaning ctx schema functions (.rename name e) = meaning ctx schema functions e := by
  simp only [meaning, plan]

theorem meaning_pattern {op : BinaryOp} {r : Expr} {text : String}
    (hr : constantPattern? op r = some text) (l : Expr) :
    meaning ctx schema functions (.binary op l r) = (do
      let d ← meaning ctx schema functions l
      let p ← compilePattern op text
      return fun row => d row >>= (matchPattern op · p)) := by
  simp only [meaning, plan, hr]
  cases plan schema functions l <;> cases compilePattern op text <;> rfl

theorem meaning_binary {op : BinaryOp} {r : Expr} (hr : constantPattern? op r = none) (l : Expr) :
    meaning ctx schema functions (.binary op l r) = (do
      let a ← meaning ctx schema functions l
      let b ← meaning ctx schema functions r
      return fun row => do
        let x ← a row
        let y ← b row
        Operation.binary op x y) := by
  simp only [meaning, plan, hr]
  cases plan schema functions l <;> cases plan schema functions r <;> rfl

theorem meaning_between (e low high : Expr) :
    meaning ctx schema functions (.between e low high) = (do
      let d ← meaning ctx schema functions e
      let a ← meaning ctx schema functions low
      let b ← meaning ctx schema functions high
      return fun row => do
        let v ← d row
        let above ← Operation.binary .ge v (← a row)
        let below ← Operation.binary .le v (← b row)
        Operation.binary .and above below) := by
  simp only [meaning, plan]
  cases plan schema functions e <;> cases plan schema functions low <;>
    cases plan schema functions high <;> rfl

theorem meaning_tuple (es : List Expr) :
    meaning ctx schema functions (.tuple es) =
      (meaningList ctx schema functions es).map fun d row => .list <$> d row := by
  simp only [meaning, meaningList, plan]
  cases planList schema functions es <;> rfl

theorem meaning_call (name : String) (args : List Expr) :
    meaning ctx schema functions (.call name args) = (do
      if functions.isAggregate name then .error (.execution (.aggregateInScalar name))
      let f ← functions.scalar name
      let d ← meaningList ctx schema functions args
      return fun row => do f.invoke (← d row)) := by
  simp only [meaning, meaningList, plan]
  split
  · rfl
  · cases functions.scalar name <;> cases planList schema functions args <;> rfl

theorem meaning_caseWhen (branches : List (Expr × Expr)) (default : Option Expr) :
    meaning ctx schema functions (.caseWhen branches default) = (do
      let d ← meaningBranches ctx schema functions branches
      let other ← meaningDefault ctx schema functions default
      return fun row => do
        match ← d row with
        | some v => return v
        | none => other row) := by
  simp only [meaning, meaningBranches, meaningDefault, plan]
  cases planBranches schema functions branches <;> cases planDefault schema functions default <;>
    rfl

theorem meaningList_cons (e : Expr) (es : List Expr) :
    meaningList ctx schema functions (e :: es) = (do
      let d ← meaning ctx schema functions e
      let ds ← meaningList ctx schema functions es
      return fun row => do
        let v ← d row
        return v :: (← ds row)) := by
  simp only [meaning, meaningList, planList]
  cases plan schema functions e <;> cases planList schema functions es <;> rfl

theorem meaningBranches_cons (c r : Expr) (rest : List (Expr × Expr)) :
    meaningBranches ctx schema functions ((c, r) :: rest) = (do
      let condition ← meaning ctx schema functions c
      let result ← meaning ctx schema functions r
      let d ← meaningBranches ctx schema functions rest
      return fun row => do
        if (← condition row).isTrue then return some (← result row)
        d row) := by
  simp only [meaning, meaningBranches, planBranches]
  cases plan schema functions c <;> cases plan schema functions r <;>
    cases planBranches schema functions rest <;> rfl

theorem meaningDefault_some (e : Expr) :
    meaningDefault ctx schema functions (some e) = meaning ctx schema functions e := by
  simp only [meaning, meaningDefault, planDefault]
  cases plan schema functions e <;> rfl

end

theorem binary_pattern {op : BinaryOp} {text : String} {r : Regex}
    (hop : op.isPatternMatch = true) (hvalid : compilePattern op text = .ok r) (v : Value) :
    Operation.binary op v (.string text) = matchPattern op v r := by
  have hmatch : Operation.binary op v (.string text) = matchWith op v (.string text) := by
    cases op <;> first | rfl | cases hop
  rw [hmatch, matchWith, patternText, ok_bind]
  simp only [hvalid, ok_bind]

section

variable {ctx : Context} {schema : Schema} {functions : FunctionRegistry}

theorem constantPattern?_const {op : BinaryOp} {text : String} (hop : op.isPatternMatch = true) :
    constantPattern? op (.const (.string text)) = some text := by
  rw [constantPattern?, if_pos hop]

theorem constantPattern?_of_parametrizes {params : List Value} {r r' : Expr}
    (h : r.Parametrizes params r') (op : BinaryOp) :
    constantPattern? op r' = constantPattern? op r := by
  cases h <;> rfl

mutual

theorem meaning_of_parametrizes {e e' : Expr} : e.Parametrizes ctx.params e' →
    meaning ctx schema functions e' = meaning ctx schema functions e
  | .refl _ => rfl
  | .pattern hop hvalid hparam h => by
      rw [meaning_binary ctx schema functions rfl, meaning_param ctx schema functions hparam,
        meaning_pattern ctx schema functions (constantPattern?_const hop), hvalid,
        meaning_of_parametrizes h]
      simp only [ok_bind, binary_pattern hop hvalid]
  | .unary op h => by rw [meaning_unary, meaning_unary, meaning_of_parametrizes h]
  | .item key h => by rw [meaning_item, meaning_item, meaning_of_parametrizes h]
  | .binary op hl hr => by
      have hpattern := constantPattern?_of_parametrizes hr op
      cases hconstant : constantPattern? op _ with
      | some text =>
          rw [meaning_pattern ctx schema functions (hpattern.trans hconstant),
            meaning_pattern ctx schema functions hconstant, meaning_of_parametrizes hl]
      | none =>
          rw [meaning_binary ctx schema functions (hpattern.trans hconstant),
            meaning_binary ctx schema functions hconstant, meaning_of_parametrizes hl,
            meaning_of_parametrizes hr]
  | .between h hlow hhigh => by
      rw [meaning_between, meaning_between, meaning_of_parametrizes h,
        meaning_of_parametrizes hlow, meaning_of_parametrizes hhigh]
  | .tuple h => by rw [meaning_tuple, meaning_tuple, meaningList_of_parametrizes h]
  | .call name h => by rw [meaning_call, meaning_call, meaningList_of_parametrizes h]
  | .rename name h => by rw [meaning_rename, meaning_rename, meaning_of_parametrizes h]
  | .caseWhen h hdefault => by
      rw [meaning_caseWhen, meaning_caseWhen, meaningBranches_of_parametrizes h,
        meaningDefault_of_parametrizes hdefault]
  | .cast h type => by rw [meaning_cast, meaning_cast, meaning_of_parametrizes h]

theorem meaningList_of_parametrizes {es es' : List Expr} :
    Expr.ParametrizesList ctx.params es es' →
      meaningList ctx schema functions es' = meaningList ctx schema functions es
  | .nil => rfl
  | .cons h hes => by
      rw [meaningList_cons, meaningList_cons, meaning_of_parametrizes h,
        meaningList_of_parametrizes hes]

theorem meaningBranches_of_parametrizes {branches branches' : List (Expr × Expr)} :
    Expr.ParametrizesBranches ctx.params branches branches' →
      meaningBranches ctx schema functions branches' =
        meaningBranches ctx schema functions branches
  | .nil => rfl
  | .cons hc hr h => by
      rw [meaningBranches_cons, meaningBranches_cons, meaning_of_parametrizes hc,
        meaning_of_parametrizes hr, meaningBranches_of_parametrizes h]

theorem meaningDefault_of_parametrizes {default default' : Option Expr} :
    Expr.ParametrizesDefault ctx.params default default' →
      meaningDefault ctx schema functions default' = meaningDefault ctx schema functions default
  | .none => rfl
  | .some h => by
      rw [meaningDefault_some, meaningDefault_some, meaning_of_parametrizes h]

end

/-- Where parameters stand for constant patterns, planning has the same error, or leads to the same
values and errors on every row. -/
theorem eval_plan_of_parametrizes {e e' : Expr} (h : e.Parametrizes ctx.params e') :
    (plan schema functions e').map (fun p row => eval ctx row p) =
      (plan schema functions e).map fun p row => eval ctx row p :=
  meaning_of_parametrizes h

theorem eval_plan_of_parametrizes_case :
    let schema : Schema := ⟨none, [⟨"name", .string, .nullable, [], none⟩]⟩
    let ctx : Context := { params := [.string "a.*k$"] }
    let choice (pattern : Expr) : Expr := .caseWhen
      [(.not (.binary .rlike (.var "name") pattern), .const (.integer 1))] (some (.var "name"))
    (choice (.const (.string "a.*k$"))).Parametrizes ctx.params (choice (.param 0)) ∧
      (plan schema .builtins (choice (.param 0))).map (fun p row => eval ctx row p) =
        (plan schema .builtins (choice (.const (.string "a.*k$")))).map
          (fun p row => eval ctx row p) ∧
      ∃ p, plan schema .builtins (choice (.param 0)) = .ok p ∧
        eval ctx [.string "black"] p = .ok (.string "black") ∧
        eval ctx [.string "white"] p = .ok (.integer 1) := by
  intro schema ctx choice
  have hread : (Regex.read? "a.*k$").map (fun r => (r.isMatch "black", r.isMatch "white")) =
      some (true, false) := by cbv
  obtain ⟨r, hr, hmatch⟩ := Option.map_eq_some_iff.1 hread
  obtain ⟨hblack, hwhite⟩ := Prod.mk.inj hmatch
  have hvalid : compilePattern .rlike "a.*k$" = .ok r := by
    simp only [compilePattern, hr]
  have h : (choice (.const (.string "a.*k$"))).Parametrizes ctx.params (choice (.param 0)) :=
    .caseWhen (.cons (.unary .not (.pattern rfl hvalid rfl (.refl _))) (.refl _) .nil)
      (.some (.refl _))
  have hagree : (plan schema .builtins (choice (.param 0))).map (fun p row => eval ctx row p) =
      (plan schema .builtins (choice (.const (.string "a.*k$")))).map
        (fun p row => eval ctx row p) := eval_plan_of_parametrizes h
  obtain ⟨p, hp, hvalues⟩ : ∃ p, plan schema .builtins (choice (.const (.string "a.*k$"))) = .ok p ∧
      eval ctx [.string "black"] p = .ok (.string "black") ∧
      eval ctx [.string "white"] p = .ok (.integer 1) := by
    have hplan : plan schema .builtins (choice (.const (.string "a.*k$"))) =
        .ok (.caseWhen [(.unary .not (.pattern .rlike (.column 0) r), .literal (.integer 1))]
          (some (.column 0))) := by
      have hname : schema.position "name" = .ok 0 := rfl
      simp [choice, Expr.not, plan, planBranches, planDefault, hname, constantPattern?, hvalid,
        BinaryOp.isPatternMatch]
    refine ⟨_, hplan, ?_, ?_⟩
    · simp [eval, evalBranches, evalDefault, columnValue, matchPattern, hblack, Operation.unary,
        truth, ofTruth, Value.isTrue]
    · simp [eval, evalBranches, columnValue, matchPattern, hwhite, Operation.unary, truth, ofTruth,
        Value.isTrue]
  obtain ⟨p', hp', heval⟩ : ∃ p', plan schema .builtins (choice (.param 0)) = .ok p' ∧
      (fun row => eval ctx row p') = fun row => eval ctx row p :=
    map_eq_ok.1 (hagree.trans (by rw [hp]; rfl))
  exact ⟨h, hagree, p', hp', by simpa only [congrFun heval] using hvalues⟩

end

end Scalar

end QueryEngine
