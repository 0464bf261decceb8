import QueryEngine.Proofs.Pushdown.Links
import QueryEngine.Proofs.Pushdown.Resolution

namespace QueryEngine

open Typing Physical

namespace Scalar

variable {ctx : Context} {row : Row}

theorem isTrue_foldl_and {s : Scalar} {ss : List Scalar} {v : Value}
    (h : eval ctx row (ss.foldl (.binary .and) s) = .ok v) :
    ∃ w, eval ctx row s = .ok w ∧ v.isTrue = (w.isTrue && holdAll ctx ss row) := by
  induction ss generalizing s with
  | nil => exact ⟨v, h, by simp [holdAll]⟩
  | cons s' ss ih =>
      obtain ⟨w, hw, hv⟩ := ih h
      obtain ⟨a, ha, hw⟩ := bind_eq_ok.1 hw
      obtain ⟨b, hb, hw⟩ := bind_eq_ok.1 hw
      obtain ⟨t, u, rfl, rfl, rfl⟩ := Operation.binary_and_eq_ok hw
      refine ⟨_, ha, ?_⟩
      rw [hv, Operation.isTrue_andTruth]
      simp [holdAll, Rows.holds, passes, hb, Bool.and_assoc]

theorem test_andAll {ss : List Scalar}
    (h : ∀ s, andAll ss = some s → ∃ v, eval ctx row s = .ok v) :
    test ctx (andAll ss) row = .ok (holdAll ctx ss row) := by
  cases ss with
  | nil => rfl
  | cons s ss =>
      obtain ⟨v, hv⟩ := h _ rfl
      obtain ⟨w, hw, hvw⟩ := isTrue_foldl_and hv
      simp [andAll, test, passes, hv, hvw, holdAll, Rows.holds, hw]

end Scalar

namespace Document

variable {functions : FunctionRegistry} {docs : List Document}

/-- With distinct paths, the key of a document leads back to it. -/
theorem decode_keyRow (hdocs : (docs.map (·.path)).Nodup) {d : Document} (hd : d ∈ docs) :
    decode docs d.keyRow = .ok d.row := by
  have hfind : docs.find? (fun d' => (Value.string d.path).toString? = some d'.path) = some d := by
    induction docs with
    | nil => cases hd
    | cons a docs ih =>
        rw [List.map_cons, List.nodup_cons] at hdocs
        rcases List.mem_cons.1 hd with rfl | hd
        · simp [Value.toString?]
        · have hne : d.path ≠ a.path := fun h => hdocs.1 (h ▸ List.mem_map_of_mem hd)
          rw [List.find?_cons_of_neg (by simpa [Value.toString?] using hne), ih hdocs.2 hd]
  simp [decode, keyRow, hfind]

def keyPlan (docs : List Document) (keys : List Scalar) : Physical :=
  match Scalar.andAll keys with
  | some e => .filter (.tableFunction (listKeys docs) []) (some e)
  | none => .tableFunction (listKeys docs) []

theorem execute_keyPlan (ctx : Context) (keys : List Scalar) : ∃ rows,
    execute ctx (keyPlan docs keys) = .ok rows ∧
      rows.toList = ((docs.map keyRow).map Except.ok).filterMap
        (Rows.keep? (test ctx (Scalar.andAll keys))) := by
  unfold keyPlan
  cases Scalar.andAll keys with
  | some e => exact ⟨_, rfl, by simp; rfl⟩
  | none =>
      refine ⟨_, rfl, ?_⟩
      rw [← Rows.toList_ofRows, ← Rows.toList_filter]
      exact (Rows.toList_filter_true _).symm

theorem holdAll_row {es : List Expr} {keys : List Scalar}
    (h : es.mapM (Scalar.plan keySchema functions) = .ok keys) (ctx : Context) (d : Document) :
    Scalar.holdAll ctx keys d.row = Scalar.holdAll ctx keys d.keyRow := by
  have hall := mapM_eq_ok.1 h
  clear h
  induction hall with
  | nil => rfl
  | cons hx _ ih =>
      rw [Scalar.holdAll_cons, Scalar.holdAll_cons, ih]
      simp only [Rows.holds, Scalar.passes, eval_row hx]

/-- Decoding the keys that satisfy some predicates gives the documents that satisfy them. -/
theorem narrows_decode (hdocs : (docs.map (·.path)).Nodup) {es : List Expr} {keys : List Scalar}
    (hkeys : es.mapM (Scalar.plan keySchema functions) = .ok keys) {ctx : Context}
    (heval : ∀ s, Scalar.andAll keys = some s → ∀ d ∈ docs,
      ∃ v, Scalar.eval ctx d.keyRow s = .ok v) :
    Narrows ctx keys (.scan ⟨.ok (.ofRows (docs.map row))⟩)
      (.tableFunction (decodeKeys docs) [.relation (keySchema, keyPlan docs keys)]) := by
  obtain ⟨rows, hrows, hlist⟩ := @execute_keyPlan docs ctx keys
  have hdecode : execute ctx
      (.tableFunction (decodeKeys docs) [.relation (keySchema, keyPlan docs keys)]) =
        .ok (rows.decodeRows (decode docs)) := by
    simp [execute, inputs, decodeKeys, hrows]
  have htest : ∀ d ∈ docs, test ctx (Scalar.andAll keys) d.keyRow =
      .ok (Scalar.holdAll ctx keys d.row) := by
    intro d hd
    rw [Scalar.test_andAll fun s hs => heval s hs d hd, holdAll_row hkeys]
  have hitems (ds : List Document) (hds : ∀ d ∈ ds, d ∈ docs) :
      ((ds.map row).filter (Scalar.holdAll ctx keys)).map Except.ok =
        (((ds.map keyRow).map Except.ok).filterMap
          (Rows.keep? (test ctx (Scalar.andAll keys)))).map (·.bind (decode docs)) := by
    induction ds with
    | nil => rfl
    | cons d ds ih =>
        have hd := hds d List.mem_cons_self
        have ih := ih fun d hd => hds d (List.mem_cons_of_mem _ hd)
        cases hg : Scalar.holdAll ctx keys d.row <;>
          simp [Rows.keep?, htest d hd, hg, ih, Except.bind, decode_keyRow hdocs hd]
  rw [Narrows, hdecode]
  refine Rows.StartsBelow.ok (.of_toList ?_)
  rw [Rows.toList_filter, Rows.toList_ofRows, Rows.filterMap_keep?_ok, Rows.toList_decodeRows, hlist]
  exact hitems docs fun _ => id

theorem table_keys : (register docs functions).table keysFunction = .ok (listKeys docs) := by
  have hne : Unicode.lowercase keysFunction ≠ Unicode.lowercase decodeFunction := by decide
  simp [FunctionRegistry.table, register, FunctionRegistry.addTable, listKeys, decodeKeys, hne]

theorem table_decode : (register docs functions).table decodeFunction = .ok (decodeKeys docs) := by
  simp [FunctionRegistry.table, register, FunctionRegistry.addTable, decodeKeys]

theorem exists_annotate_selected {relation : String → Except Error Schema} {es : List Expr}
    (hes : ∀ e ∈ es, ∃ g, fieldOf keySchema functions e = .ok g) :
    ∃ q, annotate (register docs functions) relation
        (Cursor.selected es (.tableFunction keysFunction [] none)) = .ok q ∧
      q.outputSchema = .ok keySchema ∧ (∀ e, Expr.andAll es = some e → KeyPredicate q e) ∧
      ∀ keys, es.mapM (Scalar.plan keySchema functions) = .ok keys → ∀ relation config,
        compile relation (register docs functions) config q = .ok (keyPlan docs keys) := by
  have hkeys : annotate (register docs functions) relation (.tableFunction keysFunction [] none) =
      .ok (.tableFunction keysFunction [] (some keySchema)) := by
    simp [annotate, annotateArgs, resolveNode, nodeSchema, table_keys, argSchemas, listKeys,
      bindAggregates, Plan.withSchema]
  have hcompile (relation : String → Except Error Relation) (config : Config) :
      compile relation (register docs functions) config
        (.tableFunction keysFunction [] (some keySchema)) =
          .ok (.tableFunction (listKeys docs) []) := by
    simp [compile, compileArgs, table_keys]
  have hcheck := checkPredicate_andAll hes
  have hplan := fun keys => @Scalar.planPredicate_andAll keySchema functions es keys
  unfold Cursor.selected
  cases hconj : Expr.andAll es with
  | none =>
      refine ⟨_, hkeys, rfl, by simp, fun keys hmapM relation config => ?_⟩
      have hnone := hplan keys hmapM
      rw [hconj] at hnone
      simp [hcompile, keyPlan, ← Except.ok.inj hnone]
  | some e =>
      rw [hconj] at hcheck
      have hcheck : checkPredicate (register docs functions) keySchema (some e) = .ok () :=
        (checkPredicate_withTables keySchema functions _ _).trans hcheck
      refine ⟨.select (.tableFunction keysFunction [] (some keySchema)) (some e) (some keySchema),
        ?_, rfl, ?_, fun keys hmapM relation config => ?_⟩
      · rw [annotate, hkeys, ok_bind]
        simp [resolveNode, nodeSchema, Plan.outputSchema, Plan.schema?, hcheck, bindAggregates,
          Plan.withSchema]
      · rintro _ ⟨⟩
        exact .here _ _ _ _
      · have hsome := hplan keys hmapM
        rw [hconj] at hsome
        obtain ⟨s, hs, hsome⟩ := bind_eq_ok.1 hsome
        have hs : Scalar.plan keySchema (register docs functions) e = .ok s :=
          (Scalar.plan_withTables keySchema functions _ _).trans hs
        rw [compile, hcompile]
        simp [Plan.outputSchema, Plan.schema?, hs, keyPlan, ← Except.ok.inj hsome]

theorem exists_annotate_decoding {relation : String → Except Error Schema} {es : List Expr}
    (hes : ∀ e ∈ es, ∃ g, fieldOf keySchema functions e = .ok g) :
    ∃ q, annotate (register docs functions) relation (decoding es) = .ok q ∧
      q.outputSchema = .ok schema ∧ (∀ e, Expr.andAll es = some e → KeyPredicate q e) ∧
      ∀ keys, es.mapM (Scalar.plan keySchema functions) = .ok keys → ∀ relation config,
        compile relation (register docs functions) config q =
          .ok (.tableFunction (decodeKeys docs) [.relation (keySchema, keyPlan docs keys)]) := by
  obtain ⟨q, hq, hschema, hpredicate, hcompile⟩ :=
    @exists_annotate_selected functions docs relation es hes
  refine ⟨.tableFunction decodeFunction [.relation q] (some schema), ?_, rfl, fun e he => ?_,
    fun keys hkeys relation config => ?_⟩
  · simp [decoding, annotate, annotateArgs, hq, resolveNode, nodeSchema, table_decode, argSchemas,
      hschema, decodeKeys, bindAggregates, Plan.withSchema]
  · exact .inside (by simp [Plan.children, Plan.relationArgs]) (hpredicate e he)
  · simp [compile, compileArgs, table_decode, hschema, hcompile keys hkeys]

end Document

end QueryEngine
