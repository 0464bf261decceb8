import QueryEngine.Proofs.Join.Table
import QueryEngine.Proofs.Physical.Conjunctions
import QueryEngine.Proofs.Physical.Context

namespace QueryEngine

namespace JoinStrategy

variable (schema : Schema) (leftSize : Nat)

def keysMatch (keys : JoinKeys) (l r : Row) : Bool :=
  keys.all fun k => (l.getD k.1 .null).same (r.getD k.2 .null)

theorem equiKeysOf_append (es es' : List Expr) :
    equiKeysOf schema leftSize (es ++ es') =
      (equiKeysOf schema leftSize es).bind fun ks =>
        (equiKeysOf schema leftSize es').map (ks ++ ·) := by
  induction es with
  | nil => cases h : equiKeysOf schema leftSize es' <;> simp [equiKeysOf, h]
  | cons e es ih =>
      cases hk : equiKey? schema leftSize e <;> cases hks : equiKeysOf schema leftSize es <;>
        cases hks' : equiKeysOf schema leftSize es' <;> simp_all [equiKeysOf]

variable {schema leftSize}

theorem varPosition?_eq_some {e : Expr} {i : Nat} (h : varPosition? schema e = some i) :
    ∃ path, e = .var path ∧ schema.position path = .ok i := by
  cases e with
  | var path =>
      refine ⟨path, rfl, ?_⟩
      cases hp : schema.position path <;> simp_all [varPosition?, Except.toOption]
  | _ => cases h

theorem equiKey?_eq_some (functions : FunctionRegistry) {e : Expr} {a b : Nat}
    (h : equiKey? schema leftSize e = some (a, b)) :
    a < leftSize ∧ leftSize + b < schema.size ∧ ∃ i j,
      (i = a ∧ j = leftSize + b ∨ i = leftSize + b ∧ j = a) ∧
        Scalar.plan schema functions e = .ok (.binary .eq (.column i) (.column j)) := by
  unfold equiKey? at h
  split at h
  · next l r =>
      simp only [Option.bind_eq_bind, Option.bind_eq_some_iff] at h
      obtain ⟨i, hi, j, hj, h⟩ := h
      obtain ⟨p, rfl, hp⟩ := varPosition?_eq_some hi
      obtain ⟨q, rfl, hq⟩ := varPosition?_eq_some hj
      have hplan : Scalar.plan schema functions (.binary .eq (.var p) (.var q)) =
          .ok (.binary .eq (.column i) (.column j)) := by
        simp [Scalar.plan, Scalar.constantPattern?, hp, hq, bind, Except.bind, pure, Except.pure]
      have hi' := Schema.position_lt_size hp
      have hj' := Schema.position_lt_size hq
      split at h
      · cases h
        exact ⟨by omega, by omega, _, _, .inl (by omega), hplan⟩
      · split at h
        · cases h
          exact ⟨by omega, by omega, _, _, .inr (by omega), hplan⟩
        · cases h
  · cases h

/-- A predicate with keys can be planned, and holds on two rows exactly when they agree on all
of the keys. -/
theorem plan_of_equiKeys? (functions : FunctionRegistry) {rightSize : Nat}
    (hsize : schema.size = leftSize + rightSize) {e : Expr} {keys : JoinKeys}
    (h : equiKeys? schema leftSize e = some keys) :
    (∀ k ∈ keys, k.1 < leftSize ∧ k.2 < rightSize) ∧
      ∃ s, Scalar.plan schema functions e = .ok s ∧ ∀ ctx l r, l.length = leftSize →
        r.length = rightSize → Scalar.eval ctx (l ++ r) s = .ok (.boolean (keysMatch keys l r)) := by
  unfold equiKeys? at h
  induction e using conjuncts.induct generalizing keys with
  | case1 l r ihl ihr =>
      rw [conjuncts, equiKeysOf_append, Option.bind_eq_some_iff] at h
      obtain ⟨kl, hl, h⟩ := h
      obtain ⟨kr, hr, rfl⟩ := Option.map_eq_some_iff.1 h
      obtain ⟨hkl, sl, hsl, hevl⟩ := ihl hl
      obtain ⟨hkr, sr, hsr, hevr⟩ := ihr hr
      refine ⟨fun k hk => ?_, .binary .and sl sr, ?_, fun ctx x y hx hy => ?_⟩
      · rcases List.mem_append.1 hk with hk | hk
        · exact hkl k hk
        · exact hkr k hk
      · exact (Scalar.plan_and l r).trans (by simp [hsl, hsr])
      · have hand : ∀ p q : Bool, Operation.andTruth (some p) (some q) = some (p && q) := by decide
        have hmatch : keysMatch (kl ++ kr) x y = (keysMatch kl x y && keysMatch kr x y) :=
          List.all_append
        rw [Scalar.eval, hevl ctx x y hx hy, hevr ctx x y hx hy, hmatch]
        exact (Operation.binary_and_ofTruth (some _) (some _)).trans (by rw [hand]; rfl)
  | case2 e he =>
      have hconj : conjuncts e = [e] := by
        unfold conjuncts
        split
        · exact absurd rfl (he _ _)
        · rfl
      rw [hconj] at h
      cases hk : equiKey? schema leftSize e with
      | none => simp [equiKeysOf, hk] at h
      | some key =>
          -- a single equality, whose sides may stand in either order
          obtain ⟨a, b⟩ := key
          obtain rfl : [(a, b)] = keys := by simpa [equiKeysOf, hk] using h
          obtain ⟨ha, hb, i, j, hij, hplan⟩ := equiKey?_eq_some functions hk
          refine ⟨by simpa using ⟨ha, by omega⟩, _, hplan, fun ctx x y hx hy => ?_⟩
          have hxa : (x ++ y)[a]? = some (x.getD a .null) := by
            simp [List.getElem?_append_left (hx ▸ ha), List.getElem?_eq_getElem (hx ▸ ha)]
          have hyb : (x ++ y)[leftSize + b]? = some (y.getD b .null) := by
            have hb' : b < y.length := by omega
            rw [← hx, List.getElem?_append_right (Nat.le_add_right _ _), Nat.add_sub_cancel_left]
            simp [List.getElem?_eq_getElem hb']
          rcases hij with ⟨rfl, rfl⟩ | ⟨rfl, rfl⟩ <;>
            simp [Scalar.eval, Scalar.columnValue, hxa, hyb, Operation.binary, keysMatch,
              Value.same_comm, bind, Except.bind]

theorem sameList_keys (keys : JoinKeys) (l r : Row) :
    Value.sameList ((keys.map (·.2)).map fun i => r.getD i .null)
      ((keys.map (·.1)).map fun i => l.getD i .null) = keysMatch keys l r := by
  induction keys with
  | nil => rfl
  | cons k keys ih =>
      simp only [List.map_cons, Value.sameList_cons, ih, keysMatch, List.all_cons]
      rw [Value.same_comm]

end JoinStrategy

namespace Rows

open JoinStrategy

/-- Over the same blocks of the right side both joins collect to the same. -/
theorem collect_hashJoinBlocks {j : JoinSides} {keys : JoinKeys} {test : Row → Except Error Bool}
    {leftSize rightSize : Nat} (hb : j.budget ≠ 0)
    (hkeys : ∀ k ∈ keys, k.1 < leftSize ∧ k.2 < rightSize)
    (htest : ∀ l r, l.length = leftSize → r.length = rightSize →
      test (l ++ r) = .ok (keysMatch keys l r))
    (hleft : ∀ left, j.left () = .ok left → ∀ row, .ok row ∈ left.toList → row.length = leftSize)
    {blocks : Blocks}
    (hright : ∀ block, .ok block ∈ blocks.toList → ∀ row ∈ block, row.length = rightSize)
    (t : MatchTracker) :
    (hashJoinBlocks j keys t blocks).collect = (nestedJoinBlocks j test t blocks).collect := by
  induction blocks generalizing t with
  | done => rfl
  | fail e => rfl
  | block rows tail ih =>
      have hrows := hright rows (by simp [Blocks.toList])
      have htail := ih () fun block hblock => hright block (by simp [Blocks.toList, hblock])
      -- the rows are wide enough for their keys, so that the table is built
      obtain ⟨table, htable, hfind⟩ := JoinTable.find_ofBlock_keys fun row hrow k hk =>
        hrows row hrow ▸ (hkeys k hk).2
      rw [hashJoinBlocks, nestedJoinBlocks, htable]
      cases hj : j.left () with
      | error e => rfl
      | ok left =>
          have hwidth := hleft left hj
          have hcolumns : ∀ row, .ok row ∈ left.toList → ∀ i ∈ keys.map (·.1), i < row.length := by
            intro row hrow i hi
            obtain ⟨k, hk, rfl⟩ := List.mem_map.1 hi
            rw [hwidth row hrow]
            exact (hkeys k hk).1
          have hfind' : ∀ row, .ok row ∈ left.toList →
              table.find ((keys.map (·.1)).map fun i => row.getD i .null) =
                rows.filter (keysMatch keys row) := by
            intro row hrow
            rw [hfind]
            simp only [sameList_keys]
          have hpairs : ∀ row, .ok row ∈ left.toList → ∀ r ∈ rows,
              test (row ++ r) = .ok (keysMatch keys row r) :=
            fun row hrow r hr => htest row r (hwidth row hrow) (hrows r hr)
          dsimp only
          rw [collect_pairLeft_ofRows hb hpairs, collect_probe hcolumns hfind']
          simp only [htail]
  | step n tail ih => exact ih () hright t

end Rows

namespace Physical

theorem of_join? {functions : FunctionRegistry} {config : Config} {left right P : Physical}
    {schema : Schema} {leftSize rightSize : Nat} {predicate : Option Expr} {type : JoinType}
    (hsize : schema.size = leftSize + rightSize)
    (h : join? functions config left right schema leftSize rightSize predicate type = .ok P) :
    (∃ keys : JoinKeys, (∀ k ∈ keys, k.1 < leftSize ∧ k.2 < rightSize) ∧
      P = .hashJoin left right keys type rightSize) ∨
    ∃ test, planPredicate functions schema predicate = .ok test ∧
      P = .nestedJoin left right test type rightSize := by
  unfold join? at h
  split at h
  · next keys hselect =>
      cases h
      unfold JoinStrategy.select at hselect
      split at hselect
      · cases hselect
      · split at hselect <;> cases hselect
        next hkeys =>
          obtain ⟨e, -, hkeys⟩ := Option.bind_eq_some_iff.1 hkeys
          exact .inl ⟨keys, (JoinStrategy.plan_of_equiKeys? functions hsize hkeys).1, rfl⟩
  · obtain ⟨test, htest, h⟩ := bind_eq_ok.1 h
    cases h
    exact .inr ⟨test, htest, rfl⟩

/-- Switching to the nested block join does not change what a join with keys collects to. -/
theorem collect_join?_force (functions : FunctionRegistry) (config : Config) (params : List Value)
    (left right : Physical) (schema : Schema) (leftSize rightSize : Nat) (predicate : Expr)
    (keys : JoinKeys) (type : JoinType) (hsize : schema.size = leftSize + rightSize)
    (hkeys : JoinStrategy.equiKeys? schema leftSize predicate = some keys)
    (hleft : ∀ rows, left.execute { params, config } = .ok rows →
      ∀ row, .ok row ∈ rows.toList → row.length = leftSize)
    (hright : ∀ rows, right.execute { params, config } = .ok rows →
      ∀ row, .ok row ∈ rows.toList → row.length = rightSize) :
    let hashed := { config with forceNestedBlockJoin := false }
    let forced := { config with forceNestedBlockJoin := true }
    ∃ nested, join? functions hashed left right schema leftSize rightSize (some predicate) type =
        .ok (.hashJoin left right keys type rightSize) ∧
      join? functions forced left right schema leftSize rightSize (some predicate) type =
        .ok (.nestedJoin left right (some nested) type rightSize) ∧
      ((hashJoin left right keys type rightSize).execute { params, config := hashed }).bind
          Rows.collect =
        ((nestedJoin left right (some nested) type rightSize).execute
          { params, config := forced }).bind Rows.collect := by
  intro hashed forced
  obtain ⟨hbounds, nested, hplan, heval⟩ :=
    JoinStrategy.plan_of_equiKeys? functions hsize hkeys
  refine ⟨nested, ?_, ?_, ?_⟩
  · simp [join?, JoinStrategy.select, hashed, hkeys]
  · simp [join?, JoinStrategy.select, forced, planPredicate, hplan, bind, Except.bind, pure,
      Except.pure]
  · have hhashed (p : Physical) :
        p.execute { params, config := hashed } = p.execute { params, config } :=
      execute_congr (by rfl) (by rfl) p
    have hforced (p : Physical) :
        p.execute { params, config := forced } = p.execute { params, config } :=
      execute_congr (by rfl) (by rfl) p
    rw [execute, execute, hhashed, hforced, hhashed, hforced]
    cases hr : right.execute { params, config } with
    | error e => rfl
    | ok rights =>
        refine Rows.collect_hashJoinBlocks ?_ hbounds ?_ hleft ?_ {}
        · exact Nat.ne_of_gt (Nat.le_max_right _ _)
        · intro l r hl hr
          simp [test, Scalar.passes, heval _ l r hl hr, bind, Except.bind, pure, Except.pure]
        · intro block hblock row hrow
          exact hright rights hr row (Blocks.mem_ofRows _ rights hblock hrow)

/-- A left join over a duplicate key, a NULL, and an integer that equals a float; what is evaluated
is the nested block join. -/
theorem collect_join?_force_mixed_keys :
    let ls : List Row := [[.null], [.integer 1], [.integer 2], [.integer 1]]
    let rs : List Row := [[.float (Binary64.ofInt 1)], [.null], [.float (Binary64.ofInt 1)]]
    ((hashJoin (scan ⟨.ok (.ofRows ls)⟩) (scan ⟨.ok (.ofRows rs)⟩) [(0, 0)] .left 1).execute
      { config := ⟨2, false⟩ }).bind Rows.collect =
        .ok [[.integer 1, .float (Binary64.ofInt 1)], [.integer 1, .float (Binary64.ofInt 1)],
          [.null, .null], [.integer 1, .float (Binary64.ofInt 1)],
          [.integer 1, .float (Binary64.ofInt 1)], [.integer 2, .null]] := by
  intro ls rs
  have hrow (rows : List Row) (h : ∀ row ∈ rows, row.length = 1) : ∀ records,
      (scan ⟨.ok (.ofRows rows)⟩).execute { config := ⟨2, false⟩ } = .ok records →
        ∀ row, .ok row ∈ records.toList → row.length = 1 := by
    rintro records ⟨⟩ row hrow
    rw [Rows.toList_ofRows] at hrow
    exact h row (by simpa using hrow)
  obtain ⟨nested, -, hnested, h⟩ := collect_join?_force {} ⟨2, false⟩ [] (scan ⟨.ok (.ofRows ls)⟩)
    (scan ⟨.ok (.ofRows rs)⟩) ⟨none, [⟨"a", .integer, .nullable, [], none⟩,
      ⟨"b", .float, .nullable, [], none⟩]⟩ 1 1 (.binary .eq (.var "a") (.var "b")) [(0, 0)] .left rfl
    (by decide) (hrow ls (by decide)) (hrow rs (by decide))
  obtain rfl : nested = .binary .eq (.column 0) (.column 1) := by
    cases hnested
    rfl
  rw [h]
  rfl

end Physical

end QueryEngine
