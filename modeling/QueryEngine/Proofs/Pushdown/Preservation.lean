import QueryEngine.Proofs.Pushdown.Matches
import QueryEngine.Proofs.Resolution.Views

namespace QueryEngine

open Link Typing Physical

namespace Plan

/-- No load carries a schema. -/
inductive Bare : Plan → Prop
  | load (name : String) : Bare (.load name none)
  | node {p : Plan} (hp : ∀ name s, p ≠ .load name s) (h : ∀ c ∈ p.children, Bare c) : Bare p

theorem Bare.ofChild {p c : Plan} (h : p.Bare) (hc : c ∈ p.children) : c.Bare := by
  cases h with
  | load name => cases hc
  | node _ h => exact h c hc

theorem Bare.unary {p c : Plan} (hp : p.children = [c]) (h : c.Bare) : p.Bare := by
  refine .node (fun name s => ?_) (by simpa [hp] using h)
  rintro rfl
  cases hp

theorem Bare.binary {p l r : Plan} (hp : p.children = [l, r]) (hl : l.Bare) (hr : r.Bare) :
    p.Bare := by
  refine .node (fun name s => ?_) (by simpa [hp] using ⟨hl, hr⟩)
  rintro rfl
  cases hp

end Plan

namespace Document

variable {functions : FunctionRegistry} {docs : List Document}

theorem kind_wrapAll {p : Plan} (hp : p.kind ≠ "Projection") (links : List Link) :
    (wrapAll links p).kind ≠ "Projection" := by
  induction links generalizing p with
  | nil => exact hp
  | cons l links ih => exact ih (by cases l <;> simp [wrap, Plan.kind])

theorem schemaOverAll_register (s : Schema) (links : List Link) :
    schemaOverAll (register docs functions) s links = schemaOverAll functions s links :=
  @schemaOverAll_withTables functions _ s links

theorem planOverAll_register (s : Schema) (input : Physical) (links : List Link) :
    planOverAll (register docs functions) s input links = planOverAll functions s input links :=
  @planOverAll_withTables functions _ s input links

theorem exists_matches_pushed (hscalars : functions.IgnoresOwners)
    (hdocs : (docs.map (·.path)).Nodup) (links : List Link) {p : Plan}
    (hp : annotate functions (plain functions docs).schema
      (wrapAll links (.load relationName none)) = .ok p) :
    ∃ q, annotate (register docs functions) (served functions docs).schema (pushed links) = .ok q ∧
      Matches functions docs p q := by
  have hload : annotate functions (plain functions docs).schema (.load relationName none) =
      .ok (.load relationName (some schema)) := rfl
  obtain ⟨s, hs⟩ := schemaOverAll_of_annotate hload rfl hp
  obtain ⟨p', hp', hplain⟩ := exists_annotate_wrapAll hload rfl hs
  obtain rfl : p' = p := Except.ok.inj (hp'.symm.trans hp)
  obtain ⟨hkept, htaken⟩ := splitAll_schemaOverAll KeyFields.fits_ofRelation hs
  obtain ⟨q₀, hq₀, hschema₀, hpredicate, hcompile⟩ :=
    @exists_annotate_decoding functions docs (served functions docs).schema _ (htaken hscalars)
  rw [← @schemaOverAll_register functions docs] at hkept
  obtain ⟨q, hq, hserved⟩ := exists_annotate_wrapAll hq₀ hschema₀ hkept
  refine ⟨q, hq, ?_, ?_, ?_⟩
  · rw [hplain.schema, hserved.schema]
  · intro config ctx P hP hkeys
    obtain ⟨input, hinput, hP⟩ := (hplain.compile _ _ _).1 hP
    cases hinput
    obtain ⟨keys, hplanned, hkept'⟩ := splitAll_planOverAll KeyFields.fits_ofRelation hs hP
    obtain ⟨Q, hQ, hrefines⟩ := hkept'
      (.tableFunction (decodeKeys docs) [.relation (keySchema, keyPlan docs keys)])
    rw [← @planOverAll_register functions docs] at hQ
    refine ⟨Q, (hserved.compile _ _ _).2 ⟨_, hcompile keys hplanned _ _, hQ⟩,
      hrefines ctx (narrows_decode hdocs hplanned fun sc hsc d hd => ?_)⟩
    have hconj := Scalar.planPredicate_andAll hplanned
    rw [hsc] at hconj
    cases he : Expr.andAll (splitAll (KeyFields.ofRelation relationName keyNames) links).2 with
    | none =>
        rw [he] at hconj
        cases hconj
    | some e =>
        rw [he] at hconj
        obtain ⟨sc', hsc', hsome⟩ := bind_eq_ok.1 hconj
        cases hsome
        exact hkeys e (hserved.keyPredicate e (hpredicate e he)) sc hsc' d hd
  · rintro i es own rfl
    have hkind := kind_of_annotate hp
    exact absurd hkind.symm (kind_wrapAll (by simp [Plan.kind]) links)

theorem schema_plain {name : String} {s : Schema}
    (h : (plain functions docs).schema name = .ok s) : name = relationName := by
  unfold Dataset.schema at h
  have hview : (plain functions docs).view? name = none := rfl
  rw [hview] at h
  dsimp only at h
  split at h
  · next s hs =>
      obtain ⟨a, ha, -⟩ := Option.bind_eq_some_iff.1 hs
      have hhas := List.find?_some ha
      obtain rfl : a = (store docs).adapter := List.mem_singleton.1 (List.mem_of_find?_eq_some ha)
      by_contra hname
      have hne : ¬ relationName = name := Ne.symm hname
      simp [Adapter.has, MemoryStore.adapter, store, Assoc.get?, hne] at hhas
  · cases h

theorem exists_matches_wrapAll (hf : functions.tables = FunctionRegistry.builtins.tables)
    {p p' : Plan} (h : ∀ q, annotate functions (plain functions docs).schema p = .ok q →
      ∃ q', annotate (register docs functions) (served functions docs).schema p' = .ok q' ∧
        Matches functions docs q q') (links : List Link) {q : Plan}
    (hq : annotate functions (plain functions docs).schema (wrapAll links p) = .ok q) :
    ∃ q', annotate (register docs functions) (served functions docs).schema
      (wrapAll links p') = .ok q' ∧ Matches functions docs q q' := by
  induction links generalizing p p' q with
  | nil => exact h q hq
  | cons l links ih =>
      refine ih (fun q hq => ?_) hq
      rw [annotate_wrap] at hq ⊢
      obtain ⟨c, hc, hq⟩ := bind_eq_ok.1 hq
      obtain ⟨c', hc', hmatches⟩ := h c hc
      have hchildren : List.Forall₂ (Matches functions docs) (l.wrap c).children [c'] := by
        rw [children_wrap]
        exact .cons hmatches .nil
      have hload : ∀ name s, l.wrap c = .load name s → name = "" := by
        intro name s hl
        cases l <;> cases hl
      obtain ⟨q', hq', hmatches⟩ := exists_matches_node hf hchildren hload hq
      exact ⟨q', by rwa [hc', ok_bind, ← refill_wrap], hmatches⟩

theorem exists_matches (hf : functions.tables = FunctionRegistry.builtins.tables)
    (hscalars : functions.IgnoresOwners) (hdocs : (docs.map (·.path)).Nodup) {p : Plan}
    (hp : p.Bare) (above : List Link) {q : Plan}
    (hq : annotate functions (plain functions docs).schema (wrapAll above p) = .ok q) :
    ∃ q', annotate (register docs functions) (served functions docs).schema
      (pushdown above p) = .ok q' ∧ Matches functions docs q q' := by
  induction p using Plan.inductionOnChildren generalizing above q with
  | h p ih =>
      -- a link joins the chain, a load of the documents takes it in, any other node keeps it above
      by_cases hlink : ∃ l i, p = wrap l i
      · obtain ⟨l, i, rfl⟩ := hlink
        rw [pushdown_wrap]
        exact ih i (by simp) (hp.ofChild (by simp)) (l :: above) hq
      · have hlink : ∀ l i, p ≠ wrap l i := fun l i hp => hlink ⟨l, i, hp⟩
        by_cases hload : p = .load relationName none
        · subst hload
          rw [pushdown_load]
          exact exists_matches_pushed hscalars hdocs above hq
        · rw [pushdown_node above hlink hload]
          refine exists_matches_wrapAll hf (fun q₀ hq₀ => ?_) above hq
          rw [annotate_eq] at hq₀
          obtain ⟨cs, hcs, hnode⟩ := bind_eq_ok.1 hq₀
          have hlength := length_of_mapM hcs
          obtain ⟨cs', hcs', hmatches⟩ := exists_mapM_map hcs fun c hc b hb =>
            ih c hc (hp.ofChild hc) [] hb
          have hbare : ∀ name s, p.refill cs = .load name s → name = "" := by
            intro name s hrefill
            rw [hrefill] at hnode
            obtain rfl := Plan.refill_eq_load hrefill
            cases hp with
            | load =>
                by_contra hname
                obtain ⟨s, hs, -⟩ := bind_eq_ok.1 hnode
                rw [nodeSchema, if_neg hname] at hs
                obtain ⟨s', hs', -⟩ := bind_eq_ok.1 hs
                exact hload (schema_plain hs' ▸ rfl)
            | node hp _ => exact absurd rfl (hp name s)
          obtain ⟨q', hq', hqq'⟩ := exists_matches_node hf
            ((Plan.children_refill p cs hlength).symm ▸ hmatches) hbare hnode
          refine ⟨q', ?_, hqq'⟩
          rw [annotate_refill (by simp), hcs', ok_bind,
            ← Plan.refill_refill p cs cs' hmatches.length_eq]
          exact hq'

theorem resolve_plain (p : Plan) : (plain functions docs).resolve p =
    annotate functions (plain functions docs).schema p := by
  have hkeeps : (plain functions docs).KeepsLoads := by
    intro a ha c
    obtain rfl : a = (store docs).adapter := List.mem_singleton.1 ha
    rfl
  have hviews : (plain functions docs).ViewsAnnotated := by
    rintro name v ⟨⟩
  have hview : (plain functions docs).view? = fun _ => none := rfl
  rw [Dataset.resolve_eq_annotate hkeeps hviews, hview, Plan.substitute_none]
  rfl

/-- A query over the table is one over the adapter. With values on all keys it gives there the rows
that the table gives before an error. -/
theorem exists_query_served (hf : functions.tables = FunctionRegistry.builtins.tables)
    (hscalars : functions.IgnoresOwners) (hdocs : (docs.map (·.path)).Nodup) {p : Plan}
    (hp : p.Bare) {config : Config} {params : List Value} {q : Query} {rows : Rows}
    (hq : Query.of (plain functions docs) p = .ok q)
    (hrows : q.executeWith (plain functions docs) config params = .ok rows) :
    ∃ q', Query.of (served functions docs) p = .ok q' ∧ q'.schema = q.schema ∧
      (KeysEvaluate functions docs { params, config } q'.plan →
        ∃ rows', q'.executeWith (served functions docs) config params = .ok rows' ∧
          rows.Below rows') := by
  obtain ⟨hplan, hs⟩ := Query.of_eq_ok.1 hq
  rw [resolve_plain] at hplan
  obtain ⟨plan', hplan', hmatches⟩ := exists_matches hf hscalars hdocs hp [] hplan
  have hplan' : (served functions docs).resolve p = .ok plan' := (resolve_served p).trans hplan'
  refine ⟨⟨plan', q.schema⟩, Query.of_eq_ok.2 ⟨hplan', hmatches.schema.trans hs⟩, rfl, fun hkeys => ?_⟩
  obtain ⟨P, hP, hrows⟩ := bind_eq_ok.1 hrows
  obtain ⟨Q, hQ, hrefines⟩ := hmatches.compiles config { params, config } P hP hkeys
  obtain ⟨rows', hrows', hbelow⟩ := hrefines rows hrows
  exact ⟨rows', bind_eq_ok.2 ⟨Q, hQ, hrows'⟩, hbelow⟩

/-- A query that gives only rows over the table of the documents gives the same rows in the same
order over the documents served by their adapter, if every predicate that stands on the listing of
keys there has a value on the key of every document. Aggregates may be any. So may scalar functions,
as long as their results are typed without regard to the owners of columns, which are others over
keys; those of all simple functions are. -/
theorem executeWith_served {docs : List Document} (hdocs : (docs.map (·.path)).Nodup)
    {scalars : Assoc ScalarFunction} (hscalars : ∀ f ∈ scalars, f.2.IgnoresOwners)
    (aggregates : Assoc Aggregate) {p : Plan} (hp : p.Bare) (config : Config)
    (params : List Value) :
    let functions : FunctionRegistry := { FunctionRegistry.builtins with scalars, aggregates }
    ∀ {q : Query} {rows : Rows} {rs : List Row}, Query.of (plain functions docs) p = .ok q →
      q.executeWith (plain functions docs) config params = .ok rows → rows.toList = rs.map .ok →
      (∀ q', Query.of (served functions docs) p = .ok q' →
        KeysEvaluate functions docs { params, config } q'.plan) →
      ∃ q' rows', Query.of (served functions docs) p = .ok q' ∧ q'.schema = q.schema ∧
        q'.executeWith (served functions docs) config params = .ok rows' ∧
        rows'.toList = rs.map .ok := by
  intro functions q rows rs hq hrows hrs hkeys
  have hf : functions.tables = FunctionRegistry.builtins.tables := rfl
  obtain ⟨q', hq', hschema, hserved⟩ := exists_query_served hf
    (FunctionRegistry.ignoresOwners_of_scalars hscalars) hdocs hp hq hrows
  obtain ⟨rows', hrows', hbelow⟩ := hserved (hkeys q' hq')
  exact ⟨q', rows', hq', hschema, hrows', hbelow.toList_eq hrs⟩

theorem executeWith_served_split_predicate :
    let docs := [of "2022" "alpha" "Alpha" 90, of "2023" "beta" "Beta" 200,
      of "2023" "gamma" "Gamma" 30]
    let number : ScalarFunction := .simple "number" (.fixed { name := "number", type := .integer })
      fun args => Operation.cast (args.headD .null) .integer
    let functions := { FunctionRegistry.builtins with scalars := [("number", number)] }
    let p : Plan := .select (.aliased "d" (.load "docs" none) none)
      (some (.and (.binary .eq (.call "number" [.var "d.year"]) (.const (.integer 2023)))
        (.binary .gt (.var "size") (.const (.integer 50))))) none
    number.IgnoresOwners ∧ ∃ q' rows', Query.of (served functions docs) p = .ok q' ∧
      q'.executeWith (served functions docs) ⟨1024, false⟩ [] = .ok rows' ∧
      rows'.toList = [.ok (of "2023" "beta" "Beta" 200).row] := by
  intro docs number functions p
  have hp : p.Bare := .unary rfl (.unary rfl (.load _))
  have hscalars : ∀ f ∈ functions.scalars, f.2.IgnoresOwners := by
    intro f hf
    obtain rfl := List.mem_singleton.1 hf
    exact ScalarFunction.ignoresOwners_simple _ _ _
  obtain ⟨q, hq, hkey⟩ : ∃ q, Query.of (served functions docs) p = .ok q ∧ ∀ e,
      KeyPredicate q.plan e →
        e = .binary .eq (.call "number" [.var "year"]) (.const (.integer 2023)) := by
    simp only [docs, p, functions, number]
    refine ⟨_, rfl, fun e he => ?_⟩
    -- selection, alias, decoding, key selection, listing
    rcases he with _ | ⟨hc, he⟩
    obtain rfl := List.mem_singleton.1 hc
    rcases he with _ | ⟨hc, he⟩
    obtain rfl := List.mem_singleton.1 hc
    rcases he with _ | ⟨hc, he⟩
    obtain rfl := List.mem_singleton.1 hc
    rcases he with _ | ⟨hc, he⟩
    · rfl
    · obtain rfl := List.mem_singleton.1 hc
      rcases he with _ | ⟨hc, he⟩
      cases hc
  have hkeys : ∀ q', Query.of (served functions docs) p = .ok q' →
      KeysEvaluate functions docs { config := ⟨1024, false⟩ } q'.plan := by
    intro q' hq' e he s hs d hd
    obtain rfl : q = q' := Except.ok.inj (hq.symm.trans hq')
    obtain rfl := hkey e he
    cases hs
    -- the cast reads the year of each document
    simp only [docs, List.mem_cons, List.not_mem_nil, or_false] at hd
    rcases hd with rfl | rfl | rfl <;> exact ⟨_, rfl⟩
  obtain ⟨q', rows', hq', -, hrows', hlist⟩ := @executeWith_served docs (by decide)
    functions.scalars hscalars functions.aggregates p hp ⟨1024, false⟩ [] _ _
    [(of "2023" "beta" "Beta" 200).row] rfl rfl rfl hkeys
  exact ⟨hscalars _ List.mem_cons_self, q', rows', hq', hrows', hlist⟩

end Document

end QueryEngine
