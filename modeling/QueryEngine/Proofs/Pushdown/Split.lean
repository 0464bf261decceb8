import QueryEngine.Plan.Pushdown
import QueryEngine.Proofs.Physical.Conjunctions

namespace QueryEngine

/-- Induction over nested conjunctions; every other expression is a base case. -/
theorem Expr.inductionOnAnd {motive : Expr → Prop}
    (and : ∀ l r, motive l → motive r → motive (.binary .and l r))
    (other : ∀ e : Expr, (∀ l r, e ≠ .binary .and l r) → motive e) : (e : Expr) → motive e
  | .binary op l r => by
      by_cases hop : op = .and
      · subst hop
        exact and l r (inductionOnAnd and other l) (inductionOnAnd and other r)
      · exact other _ (by simp [hop])
  | .var _ | .const _ | .param _ | .unary _ _ | .item _ _ | .between _ _ _ | .tuple _ | .call _ _
  | .rename _ _ | .star _ | .caseWhen _ _ | .cast _ _ => other _ (by simp)

namespace Scalar

def andParts : Option Scalar → Option Scalar → Option Scalar
  | some a, some b => some (.binary .and a b)
  | some a, none => some a
  | none, b => b

end Scalar

theorem Value.isTrue_iff {v : Value} : v.isTrue = true ↔ v = .boolean true := by
  cases v with
  | boolean b => simp
  | _ => simp [isTrue]

namespace KeyFields

open Operation Physical

variable (k : KeyFields) {schema : Schema} {functions : FunctionRegistry}

@[simp] theorem needsRecord_binary (op : BinaryOp) (l r : Expr) :
    k.needsRecord (.binary op l r) = (k.needsRecord l || k.needsRecord r) := by
  simp [needsRecord, Expr.any]

theorem split_and (l r : Expr) : k.split (.binary .and l r) =
    (andParts (k.split l).1 (k.split r).1, andParts (k.split l).2 (k.split r).2) := by
  rw [split]

theorem split_of_ne {e : Expr} (hand : ∀ l r, e ≠ .binary .and l r)
    (hor : ∀ l r, e ≠ .binary .or l r) :
    k.split e = if k.isPartitionable e then (none, some e) else (some e, none) := by
  unfold split
  split
  · exact absurd rfl (hand _ _)
  · exact absurd rfl (hor _ _)
  · rfl

theorem needsRecord_andParts {a b : Option Expr} (ha : ∀ e, a = some e → k.needsRecord e = false)
    (hb : ∀ e, b = some e → k.needsRecord e = false) :
    ∀ e, andParts a b = some e → k.needsRecord e = false := by
  cases a <;> cases b <;> simp_all [andParts, Expr.andAll, Expr.and]

theorem andParts_eq_none {a b : Option Expr} (h : andParts a b = none) : a = none ∧ b = none := by
  cases a <;> cases b <;> simp_all [andParts, Expr.andAll]

/-- The key part has no use for a record, and neither has a predicate without record part. -/
theorem needsRecord_split (e : Expr) :
    (∀ key, (k.split e).2 = some key → k.needsRecord key = false) ∧
      ((k.split e).1 = none → k.needsRecord e = false) := by
  induction e using split.induct k with
  | case1 l r rr rk hl rr' rk' hr ihl ihr =>
      rw [split_and]
      refine ⟨k.needsRecord_andParts ihl.1 ihr.1, fun h => ?_⟩
      obtain ⟨hl, hr⟩ := andParts_eq_none h
      simp [ihl.2 hl, ihr.2 hr]
  | case2 l r h ihl ihr =>
      obtain ⟨hl, hr⟩ : (k.split l).1 = none ∧ (k.split r).1 = none := by simpa using h
      have hor : k.needsRecord (.binary .or l r) = false := by simp [ihl.2 hl, ihr.2 hr]
      rw [split, if_pos h]
      simp [hor]
  | case3 l r h ihl ihr =>
      rw [split, if_neg h]
      simp
  | case4 e hand hor h =>
      have hneeds : k.needsRecord e = false := by simpa [isPartitionable] using h
      rw [k.split_of_ne hand hor, if_pos h]
      simp [hneeds]
  | case5 e hand hor h =>
      rw [k.split_of_ne hand hor, if_neg h]
      simp

theorem split_of_ne_and {e : Expr} (he : ∀ l r, e ≠ .binary .and l r) :
    k.split e = (some e, none) ∨ k.split e = (none, some e) := by
  unfold split
  split
  · exact absurd rfl (he _ _)
  · split
    · exact .inr rfl
    · exact .inl rfl
  · split
    · exact .inr rfl
    · exact .inl rfl

theorem checkPredicate_andParts {a b : Option Expr}
    (ha : Typing.checkPredicate functions schema a = .ok ())
    (hb : Typing.checkPredicate functions schema b = .ok ()) :
    Typing.checkPredicate functions schema (andParts a b) = .ok () := by
  cases a with
  | none => cases b <;> exact hb
  | some a =>
      cases b with
      | none => exact ha
      | some b =>
          obtain ⟨f, hf, -⟩ := bind_eq_ok.1 ha
          obtain ⟨g, hg, -⟩ := bind_eq_ok.1 hb
          simp [andParts, Expr.andAll, Typing.checkPredicate, Typing.fieldOf_and, hf, hg]

theorem checkPredicate_split {e : Expr} {f : Field}
    (h : Typing.fieldOf schema functions e = .ok f) :
    Typing.checkPredicate functions schema (k.split e).1 = .ok () ∧
      Typing.checkPredicate functions schema (k.split e).2 = .ok () := by
  induction e using Expr.inductionOnAnd generalizing f with
  | and l r ihl ihr =>
      obtain ⟨fl, hfl, h⟩ := bind_eq_ok.1 h
      obtain ⟨fr, hfr, -⟩ := bind_eq_ok.1 h
      rw [split_and]
      exact ⟨checkPredicate_andParts (ihl hfl).1 (ihr hfr).1,
        checkPredicate_andParts (ihl hfl).2 (ihr hfr).2⟩
  | other e he =>
      have hwhole : Typing.checkPredicate functions schema (some e) = .ok () := by
        simp [Typing.checkPredicate, h]
      rcases k.split_of_ne_and he with hsplit | hsplit <;> rw [hsplit]
      · exact ⟨hwhole, rfl⟩
      · exact ⟨rfl, hwhole⟩

theorem planPredicate_andParts {a b : Option Expr} {sa sb : Option Scalar}
    (ha : planPredicate functions schema a = .ok sa)
    (hb : planPredicate functions schema b = .ok sb) :
    planPredicate functions schema (andParts a b) = .ok (Scalar.andParts sa sb) := by
  cases a with
  | none =>
      cases ha
      cases b <;> exact hb
  | some a =>
      obtain ⟨sa, hsa, ha⟩ := bind_eq_ok.1 ha
      cases ha
      cases b with
      | none =>
          cases hb
          simp [andParts, Expr.andAll, planPredicate, hsa, Scalar.andParts]
      | some b =>
          obtain ⟨sb, hsb, hb⟩ := bind_eq_ok.1 hb
          cases hb
          simp [andParts, Expr.andAll, planPredicate, Scalar.plan_and, hsa, hsb, Scalar.andParts]

/-- A part has a value on a row, true exactly if `b`, and a truth or NULL where `truths` asks for
one. An absent part is true. -/
def Holds (ctx : Context) (row : Row) (truths : Prop) (part : Option Scalar) (b : Bool) : Prop :=
  match part with
  | none => b = true
  | some s => ∃ v, Scalar.eval ctx row s = .ok v ∧ v.isTrue = b ∧ (truths → ∃ t, v = ofTruth t)

variable {ctx : Context} {row : Row}

theorem Holds.imp {truths truths' : Prop} (h : truths' → truths) {part : Option Scalar} {b : Bool}
    (hpart : Holds ctx row truths part b) : Holds ctx row truths' part b := by
  cases part with
  | none => exact hpart
  | some s =>
      obtain ⟨v, hv, hb, ht⟩ := hpart
      exact ⟨v, hv, hb, fun htruths => ht (h htruths)⟩

theorem Holds.andParts {p q : Option Scalar} {x y : Bool} (hp : Holds ctx row True p x)
    (hq : Holds ctx row True q y) : Holds ctx row True (Scalar.andParts p q) (x && y) := by
  cases p with
  | none =>
      obtain rfl : x = true := hp
      cases q <;> exact hq
  | some p =>
      obtain ⟨v, hv, hx, ht⟩ := hp
      obtain ⟨t, rfl⟩ := ht trivial
      cases q with
      | none =>
          obtain rfl : y = true := hq
          exact ⟨_, hv, by simpa using hx, fun _ => ⟨t, rfl⟩⟩
      | some q =>
          obtain ⟨w, hw, hy, hu⟩ := hq
          obtain ⟨u, rfl⟩ := hu trivial
          refine ⟨ofTruth (andTruth t u), ?_, ?_, fun _ => ⟨_, rfl⟩⟩
          · simp [Scalar.eval, hv, hw, binary_and_ofTruth]
          · rw [isTrue_andTruth, hx, hy]

theorem exists_split_plans {e : Expr} {s : Scalar}
    (h : Scalar.plan schema functions e = .ok s) : ∃ record key,
      planPredicate functions schema (k.split e).1 = .ok record ∧
      planPredicate functions schema (k.split e).2 = .ok key ∧
      ∀ ctx row v, Scalar.eval ctx row s = .ok v → ∃ x y,
        Holds ctx row (∃ t, v = ofTruth t) record x ∧ Holds ctx row (∃ t, v = ofTruth t) key y ∧
        v.isTrue = (x && y) := by
  induction e using Expr.inductionOnAnd generalizing s with
  | and l r ihl ihr =>
      obtain ⟨sl, hsl, h⟩ := bind_eq_ok.1 ((Scalar.plan_and l r).symm.trans h)
      obtain ⟨sr, hsr, h⟩ := bind_eq_ok.1 h
      obtain rfl : Scalar.binary .and sl sr = s := by simpa using h
      obtain ⟨recordl, keyl, hrecordl, hkeyl, hl⟩ := ihl hsl
      obtain ⟨recordr, keyr, hrecordr, hkeyr, hr⟩ := ihr hsr
      rw [split_and]
      refine ⟨_, _, planPredicate_andParts hrecordl hrecordr, planPredicate_andParts hkeyl hkeyr,
        fun ctx row v hv => ?_⟩
      obtain ⟨a, ha, hv⟩ := bind_eq_ok.1 hv
      obtain ⟨b, hb, hv⟩ := bind_eq_ok.1 hv
      obtain ⟨t, u, rfl, rfl, rfl⟩ := binary_and_eq_ok hv
      obtain ⟨xl, yl, hxl, hyl, htl⟩ := hl ctx row _ ha
      obtain ⟨xr, yr, hxr, hyr, htr⟩ := hr ctx row _ hb
      refine ⟨xl && xr, yl && yr, ?_, ?_, ?_⟩
      · exact ((hxl.imp fun _ => ⟨t, rfl⟩).andParts (hxr.imp fun _ => ⟨u, rfl⟩)).imp fun _ => trivial
      · exact ((hyl.imp fun _ => ⟨t, rfl⟩).andParts (hyr.imp fun _ => ⟨u, rfl⟩)).imp fun _ => trivial
      · rw [isTrue_andTruth, htl, htr]
        cases xl <;> cases xr <;> simp
  | other e he =>
      have hwhole : planPredicate functions schema (some e) = .ok (some s) := by
        simp [planPredicate, h]
      rcases k.split_of_ne_and he with hsplit | hsplit <;> rw [hsplit]
      · refine ⟨some s, none, hwhole, rfl, fun ctx row v hv => ?_⟩
        exact ⟨v.isTrue, true, ⟨v, hv, rfl, id⟩, rfl, by simp⟩
      · refine ⟨none, some s, rfl, hwhole, fun ctx row v hv => ?_⟩
        exact ⟨true, v.isTrue, rfl, ⟨v, hv, rfl, id⟩, by simp⟩

theorem Holds.test {truths : Prop} {part : Option Scalar} {b : Bool}
    (h : Holds ctx row truths part b) : Physical.test ctx part row = .ok b := by
  cases part with
  | none => exact congrArg Except.ok h.symm
  | some s =>
      obtain ⟨v, hv, rfl, -⟩ := h
      simp [Physical.test, Scalar.passes, hv]

/-- A row on which a predicate can be tested passes it exactly when it passes both parts. -/
theorem exists_split_tests {e : Expr} {s : Scalar}
    (h : Scalar.plan schema functions e = .ok s) : ∃ record key,
      planPredicate functions schema (k.split e).1 = .ok record ∧
      planPredicate functions schema (k.split e).2 = .ok key ∧
      ∀ ctx row b, s.passes ctx row = .ok b → ∃ x y,
        test ctx record row = .ok x ∧ test ctx key row = .ok y ∧ b = (x && y) := by
  obtain ⟨record, key, hrecord, hkey, hparts⟩ := k.exists_split_plans h
  refine ⟨record, key, hrecord, hkey, fun ctx row b hb => ?_⟩
  obtain ⟨v, hv, hb⟩ := bind_eq_ok.1 hb
  obtain ⟨x, y, hx, hy, hxy⟩ := hparts ctx row v hv
  cases hb
  exact ⟨x, y, hx.test, hy.test, hxy⟩

def parts (e : Expr) : List Expr :=
  (k.split e).1.toList ++ (k.split e).2.toList

theorem Holds.of_planPredicate {truths : Prop} {part : Option Expr} {planned : Option Scalar}
    {b : Bool} (h : planPredicate functions schema part = .ok planned)
    (hpart : Holds ctx row truths planned b) :
    (∀ e ∈ part, ∃ p v, Scalar.plan schema functions e = .ok p ∧ Scalar.eval ctx row p = .ok v) ∧
      (b = true ↔ ∀ e ∈ part, ∃ p, Scalar.plan schema functions e = .ok p ∧
        Scalar.eval ctx row p = .ok (.boolean true)) := by
  cases part with
  | none =>
      cases h
      have htrue : b = true := hpart
      exact ⟨by simp, by simp [htrue]⟩
  | some e =>
      obtain ⟨p, hp, h⟩ := bind_eq_ok.1 h
      cases h
      obtain ⟨v, hv, rfl, -⟩ := hpart
      exact ⟨by simp [hp, hv], by simp [hp, hv, Value.isTrue_iff]⟩

/-- Where a predicate has a plan and a value, each part of it has, and the predicate is true exactly
when every part is. The key part is over key fields alone. -/
theorem isTrue_iff_parts {e : Expr} {s : Scalar} (h : Scalar.plan schema functions e = .ok s)
    {v : Value} (hv : Scalar.eval ctx row s = .ok v) :
    (∀ part ∈ k.parts e, ∃ p w, Scalar.plan schema functions part = .ok p ∧
        Scalar.eval ctx row p = .ok w) ∧
      (v = .boolean true ↔ ∀ part ∈ k.parts e, ∃ p, Scalar.plan schema functions part = .ok p ∧
        Scalar.eval ctx row p = .ok (.boolean true)) ∧
      ∀ key ∈ (k.split e).2, k.isPartitionable key = true := by
  obtain ⟨record, key, hrecord, hkey, hparts⟩ := k.exists_split_plans h
  obtain ⟨x, y, hx, hy, hxy⟩ := hparts ctx row v hv
  obtain ⟨hrecords, hx⟩ := hx.of_planPredicate hrecord
  obtain ⟨hkeys, hy⟩ := hy.of_planPredicate hkey
  have hmem (part : Expr) : part ∈ k.parts e ↔ part ∈ (k.split e).1 ∨ part ∈ (k.split e).2 := by
    simp [parts]
  have htrue : v = .boolean true ↔ x = true ∧ y = true := by
    rw [← Bool.and_eq_true, ← hxy, Value.isTrue_iff]
  refine ⟨fun part hpart => ?_, ?_, fun key hkey => ?_⟩
  · rcases (hmem part).1 hpart with hpart | hpart
    · exact hrecords part hpart
    · exact hkeys part hpart
  · rw [htrue, hx, hy]
    simp only [hmem, or_imp, forall_and]
  · simp [isPartitionable, (k.needsRecord_split e).1 key hkey]

/-- Two conjunctions in a third one are divided among both parts. A parameter goes with the keys, and
where it is NULL, so are the predicate and its key part. -/
theorem isTrue_iff_parts_nested :
    let k := KeyFields.ofRelation "docs" ["path", "year"]
    let column (name : String) (type : DataType) : Field := { name, type }
    let schema : Schema :=
      ⟨some "docs", [column "path" .string, column "year" .string, column "size" .integer]⟩
    let text (path value : String) : Expr := .binary .eq (.var path) (.const (.string value))
    let e : Expr := .and (.and (.binary .gt (.var "size") (.const (.integer 1))) (text "year" "2024"))
      (.and (.binary .or (text "docs.path" "a") (text "path" "b")) (.param 0))
    let row : Row := [.string "a", .string "2024", .integer 2]
    ∃ s, Scalar.plan schema {} e = .ok s ∧ (k.parts e).length = 2 ∧
      Scalar.eval { params := [.boolean true] } row s = .ok (.boolean true) ∧
      (∀ part ∈ k.parts e, ∃ p, Scalar.plan schema {} part = .ok p ∧
        Scalar.eval { params := [.boolean true] } row p = .ok (.boolean true)) ∧
      Scalar.eval { params := [.null] } row s = .ok .null ∧
      ¬ ∀ part ∈ k.parts e, ∃ p, Scalar.plan schema {} part = .ok p ∧
        Scalar.eval { params := [.null] } row p = .ok (.boolean true) := by
  intro k column schema text e row
  obtain ⟨s, hs, htrue, hnull⟩ : ∃ s, Scalar.plan schema {} e = .ok s ∧
      Scalar.eval { params := [.boolean true] } row s = .ok (.boolean true) ∧
      Scalar.eval { params := [.null] } row s = .ok .null := ⟨_, rfl, rfl, rfl⟩
  refine ⟨s, hs, by decide, htrue, (k.isTrue_iff_parts hs htrue).2.1.1 rfl, hnull, fun hall => ?_⟩
  cases (k.isTrue_iff_parts hs hnull).2.1.2 hall

end KeyFields

end QueryEngine
