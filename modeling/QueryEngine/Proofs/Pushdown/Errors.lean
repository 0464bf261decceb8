import QueryEngine.Proofs.Pushdown.Preservation

namespace QueryEngine

open Typing Physical

namespace Document

def items (d : Dataset) (p : Plan) (config : Config) (params : List Value) :
    Except Error (List (Except Error Row)) := do
  let q ← Query.of d p
  return (← q.executeWith d config params).toList

/-- Where the table of the documents gives only rows and their adapter does not, some predicate that
was moved onto the keys fails on the key of a document. -/
theorem exists_failing_key {docs : List Document} (hdocs : (docs.map (·.path)).Nodup)
    {scalars : Assoc ScalarFunction} (hscalars : ∀ f ∈ scalars, f.2.IgnoresOwners)
    (aggregates : Assoc Aggregate) {p : Plan} (hp : p.Bare) (config : Config)
    (params : List Value) {rs : List Row} :
    let functions : FunctionRegistry := { FunctionRegistry.builtins with scalars, aggregates }
    items (plain functions docs) p config params = .ok (rs.map .ok) →
      (∀ rs' : List Row, items (served functions docs) p config params ≠ .ok (rs'.map .ok)) →
      ∃ q, Query.of (served functions docs) p = .ok q ∧ ∃ e s d error, KeyPredicate q.plan e ∧
        Scalar.plan keySchema functions e = .ok s ∧ d ∈ docs ∧
        Scalar.eval { params, config } d.keyRow s = .error error := by
  intro functions hplain hserved
  obtain ⟨q, hq, hplain⟩ := bind_eq_ok.1 hplain
  obtain ⟨rows, hrows, hlist⟩ := bind_eq_ok.1 hplain
  have hlist : rows.toList = rs.map .ok := Except.ok.inj hlist
  have hf : functions.tables = FunctionRegistry.builtins.tables := rfl
  obtain ⟨q', hq', -, hrows'⟩ := exists_query_served hf
    (FunctionRegistry.ignoresOwners_of_scalars hscalars) hdocs hp hq hrows
  refine ⟨q', hq', ?_⟩
  by_contra hkeys
  -- with values on all keys, the adapter gives what the table gives
  have hevaluate : KeysEvaluate functions docs { params, config } q'.plan := by
    intro e he s hs d hd
    cases heval : Scalar.eval { params, config } d.keyRow s with
    | ok v => exact ⟨v, rfl⟩
    | error error => exact absurd ⟨e, s, d, error, he, hs, hd, heval⟩ hkeys
  obtain ⟨rows', hrows', hbelow⟩ := hrows' hevaluate
  apply hserved rs
  rw [items, hq', ok_bind, hrows', ok_bind, hbelow.toList_eq hlist]
  rfl

/-- The division is moved below the selection on the size, onto the key of a document that this
selection drops. -/
theorem items_served_division :
    let docs := [of "2022" "alpha" "Alpha" 10, of "2023" "beta" "Beta" 200]
    let years : Expr := .binary .minus (.cast (.var "year") .integer) (.const (.integer 2022))
    let p : Plan := .select
      (.select (.load "docs" none) (some (.binary .gt (.var "size") (.const (.integer 50)))) none)
      (some (.binary .gt (.binary .divide (.const (.integer 1)) years) (.const (.integer 0)))) none
    (docs.map (·.path)).Nodup ∧ p.Bare ∧
      items (plain .builtins docs) p {} [] = .ok [.ok (of "2023" "beta" "Beta" 200).row] ∧
      items (served .builtins docs) p {} [] =
        .ok [.error (.execution .divisionByZero), .ok (of "2023" "beta" "Beta" 200).row] := by
  intro docs years p
  refine ⟨by decide, .unary rfl (.unary rfl (.load _)), rfl, ?_⟩
  simp only [docs, p, years]
  rfl

theorem exists_failing_key_cast :
    let docs := [of "draft" "alpha" "Alpha" 10, of "2023" "beta" "Beta" 200]
    let number : ScalarFunction := .simple "number" (.fixed { name := "number", type := .integer })
      fun args => Operation.cast (args.headD .null) .integer
    let functions := { FunctionRegistry.builtins with scalars := [("number", number)] }
    let kept : Plan := .select (.load "docs" none)
      (some (.binary .ne (.var "year") (.const (.string "draft")))) none
    let p : Plan := .select kept
      (some (.binary .gt (.call "number" [.var "year"]) (.const (.integer 2022)))) none
    number.IgnoresOwners ∧ ∃ q, Query.of (served functions docs) p = .ok q ∧ ∃ e s d error,
      KeyPredicate q.plan e ∧ Scalar.plan keySchema functions e = .ok s ∧ d ∈ docs ∧
        Scalar.eval {} d.keyRow s = .error error := by
  intro docs number functions kept p
  have hp : p.Bare := .unary rfl (.unary rfl (.load _))
  have hscalars : ∀ f ∈ functions.scalars, f.2.IgnoresOwners := by
    intro f hf
    obtain rfl := List.mem_singleton.1 hf
    exact ScalarFunction.ignoresOwners_simple _ _ _
  have hplain : items (plain functions docs) p {} [] =
      .ok ([(of "2023" "beta" "Beta" 200).row].map .ok) := rfl
  have hserved : ∃ e items', items (served functions docs) p {} [] =
      .ok (.error e :: items') := by
    simp only [docs, number, functions, kept, p]
    exact ⟨_, _, rfl⟩
  refine ⟨hscalars _ List.mem_cons_self, ?_⟩
  refine exists_failing_key (by decide) hscalars functions.aggregates hp {} [] hplain
    fun rs' hrs' => ?_
  obtain ⟨e, items', hserved⟩ := hserved
  have hlist := Except.ok.inj (hserved.symm.trans hrs')
  cases rs' with
  | nil => cases hlist
  | cons r rs' => cases hlist

end Document

end QueryEngine
