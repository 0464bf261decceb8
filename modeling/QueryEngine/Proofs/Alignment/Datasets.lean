import QueryEngine.Proofs.Alignment.Plans
import QueryEngine.Proofs.Pushdown.Preservation
import QueryEngine.Proofs.Resolution.Views

namespace QueryEngine

open Typing Plan

namespace MemoryStore

inductive Built : MemoryStore → Prop
  | new (name : String) : Built { name }
  | addTable {m m' : MemoryStore} (table : String) (fields : List Field) (rows : List Row) :
      Built m → m.addTable table fields rows = .ok m' → Built m'

theorem length_of_fillRows {store table : String} {fields : List Field} {i : Nat}
    {rows filled : List Row} (h : fillRows store table fields i rows = .ok filled) :
    ∀ row ∈ filled, row.length = fields.length := by
  induction rows generalizing i filled with
  | nil =>
      cases h
      simp
  | cons row rows ih =>
      rw [fillRows] at h
      split at h
      · cases h
      · next hshort =>
          obtain ⟨rest, hrest, h⟩ := bind_eq_ok.1 h
          cases h
          intro r hr
          rcases List.mem_cons.1 hr with rfl | hr
          · simp only [fillRow, List.length_append, List.length_map, List.length_drop]
            omega
          · exact ih hrest r hr

theorem Built.length_eq {m : MemoryStore} (h : m.Built) {name : String} {t : MemoryTable}
    (ht : m.tables.get? name = some t) : ∀ row ∈ t.rows, row.length = t.schema.size := by
  induction h with
  | new => cases ht
  | addTable table fields rows _ hadd ih =>
      obtain ⟨filled, hfilled, hadd⟩ := bind_eq_ok.1 hadd
      cases hadd
      rw [Assoc.get?_insert] at ht
      split at ht
      · cases ht
        exact length_of_fillRows hfilled
      · exact ih ht

end MemoryStore

namespace Plan

variable {p : Plan}

theorem exists_load_of_kind (h : p.kind = "Load") : ∃ name s, p = .load name s := by
  cases p <;> simp [kind] at h ⊢

end Plan

namespace Dataset

/-- The datasets over tables in memory that the operations of a dataset lead to, with the queries
made on the way. Plans come without schemas. -/
inductive InMemory : Dataset → List Query → Prop
  | withBuiltins : InMemory withBuiltins []
  | withConfig {d : Dataset} {qs : List Query} (config : Config) :
      InMemory d qs → InMemory { d with config } qs
  | addStore {d : Dataset} {qs : List Query} (m : MemoryStore) :
      InMemory d qs → m.Built → InMemory (d.addAdapter m.adapter) qs
  | createView {d d' : Dataset} {qs : List Query} (name : String) (p : Plan) :
      InMemory d qs → p.Bare → d.createView name p = .ok d' → InMemory d' qs
  | dropView {d : Dataset} {qs : List Query} (name : String) :
      InMemory d qs → InMemory (d.dropView name) qs
  | query {d : Dataset} {qs : List Query} (p : Plan) (q : Query) :
      InMemory d qs → p.Bare → Query.of d p = .ok q → InMemory d (q :: qs)
  | storeQuery {d : Dataset} {qs : List Query} (name : String) (q : Query) :
      InMemory d qs → q ∈ qs → InMemory (d.insertView name q.plan) qs

structure Settled (d : Dataset) (p : Plan) : Prop where
  annotate : annotate .builtins d.schema p = .ok p
  grounded : p.Grounded d.relation

structure Consistent (d : Dataset) (qs : List Query) : Prop where
  functions : d.functions = .builtins
  adapters : ∀ a ∈ d.adapters, ∃ m : MemoryStore, m.Built ∧ a = m.adapter
  views : ∀ name v, d.view? name = some v → d.Settled v
  queries : ∀ q ∈ qs, d.Settled q.plan ∧ q.plan.outputSchema = .ok q.schema

def Stores (d : Dataset) (name : String) (s : Schema) : Prop :=
  name ≠ "" → ∃ r rows, d.relation name = .ok r ∧ r.schema.fields = s.fields ∧
    r.source.records = .ok rows ∧ rows.Aligned s.size

/-- A resolved plan over relations with the schemas of its loads. -/
structure Rooted (d : Dataset) (p : Plan) : Prop where
  annotate : annotate .builtins d.schema p = .ok p
  loads : p.Everywhere (Carries d.Stores)

variable {d d' : Dataset} {qs : List Query}

theorem Rooted.mono {p : Plan} (h : d.Rooted p)
    (hrelation : ∀ name r, d.relation name = .ok r → d'.relation name = .ok r) : d'.Rooted p where
  annotate := by
    rw [annotate_congr_of_annotated d.schema (annotated_of_annotate h.annotate)]
    exact h.annotate
  loads := h.loads.mono fun p hp => hp.mono fun name s hs hname => by
    obtain ⟨r, rows, hr, hstored⟩ := hs hname
    exact ⟨r, rows, hrelation name r hr, hstored⟩

theorem Rooted.settled {p : Plan} (h : d.Rooted p) : d.Settled p where
  annotate := h.annotate
  grounded := grounded_of_everywhere <| h.loads.mono fun p hp => hp.mono fun name s hs hname => by
    obtain ⟨r, rows, hr, -, hstored⟩ := hs hname
    exact ⟨r, rows, hr, hstored⟩

theorem relation_addAdapter (a : Adapter) (name : String) (r : Relation)
    (h : d.relation name = .ok r) : (d.addAdapter a).relation name = .ok r := by
  unfold relation adapterFor? at h ⊢
  cases hfind : d.adapters.find? (·.has name) with
  | none => simp [hfind] at h
  | some b => simpa [addAdapter, List.find?_append, hfind] using h

theorem rooted_of_annotate (hviews : ∀ name v, d.view? name = some v → d.Rooted v)
    (hloads : ∀ name s, d.view? name = none →
      nodeSchema .builtins d.schema (.load name none) = .ok s → d.Stores name s)
    {p q : Plan} (hp : p.Bare)
    (hq : Typing.annotate .builtins d.schema (p.substitute d.view?) = .ok q) : d.Rooted q := by
  refine ⟨annotate_annotate hq, ?_⟩
  induction p using inductionOnChildren generalizing q with
  | h p ih =>
      cases hp with
      | load name =>
          cases hview : d.view? name with
          | some v =>
              have hv := hviews name v hview
              simp only [substitute, hview, Option.getD_some, hv.annotate] at hq
              cases hq
              exact hv.loads
          | none =>
              simp only [substitute, hview, Option.getD_none] at hq
              obtain ⟨s, hs, hq⟩ := bind_eq_ok.1 hq
              cases hq
              refine .node ⟨s, rfl, hloads name s hview hs⟩ fun c hc => ?_
              cases hc
      | node hload hchildren =>
          rw [substitute_node _ fun name => hload name none, annotate_refill (by simp)] at hq
          obtain ⟨cs, hcs, hnode⟩ := bind_eq_ok.1 hq
          have hlength : cs.length = p.children.length := by
            simpa using length_of_mapM hcs
          refine .node (carries_of_ne ?_) fun c hc => ?_
          · rintro name s rfl
            have hkind := (kind_of_annotateNode hnode).symm.trans rfl
            rw [kind_refill] at hkind
            obtain ⟨name, s, hp⟩ := exists_load_of_kind hkind
            exact hload name s hp
          · rw [(annotateNode_eq_ok hnode).1, children_refill p cs hlength] at hc
            obtain ⟨c', hc', hcc'⟩ := exists_of_mem_mapM hcs hc
            obtain ⟨i, hi, rfl⟩ := List.mem_map.1 hc'
            exact ih i hi (hchildren i hi) hcc'

namespace InMemory

theorem functions_eq (h : InMemory d qs) : d.functions = .builtins := by
  induction h with
  | withBuiltins => rfl
  | withConfig _ _ ih | addStore _ _ _ ih | dropView _ _ ih | query _ _ _ _ _ ih
  | storeQuery _ _ _ _ ih => exact ih
  | createView name p _ _ hcreate ih =>
      obtain ⟨v, -, rfl⟩ := createView_eq_ok.1 hcreate
      exact ih

theorem exists_store (h : InMemory d qs) {a : Adapter} (ha : a ∈ d.adapters) :
    ∃ m : MemoryStore, m.Built ∧ a = m.adapter := by
  induction h with
  | withBuiltins => cases ha
  | withConfig _ _ ih | dropView _ _ ih | query _ _ _ _ _ ih | storeQuery _ _ _ _ ih => exact ih ha
  | addStore m _ hm ih =>
      rcases List.mem_append.1 ha with ha | ha
      · exact ih ha
      · exact ⟨m, hm, List.mem_singleton.1 ha⟩
  | createView name p _ _ hcreate ih =>
      obtain ⟨v, -, rfl⟩ := createView_eq_ok.1 hcreate
      exact ih ha

theorem outputSchema_eq (h : InMemory d qs) : ∀ q ∈ qs, q.plan.outputSchema = .ok q.schema := by
  induction h with
  | withBuiltins => simp
  | withConfig _ _ ih | addStore _ _ _ ih | createView _ _ _ _ _ ih | dropView _ _ ih
  | storeQuery _ _ _ _ ih => exact ih
  | query p q _ _ hquery ih =>
      obtain ⟨-, hs⟩ := Query.of_eq_ok.1 hquery
      intro q hq
      rcases List.mem_cons.1 hq with rfl | hq
      · exact hs
      · exact ih q hq

theorem keepsLoads (h : InMemory d qs) : d.KeepsLoads := by
  intro a ha c
  obtain ⟨m, -, rfl⟩ := h.exists_store ha
  rfl

theorem exists_rows (h : InMemory d qs) {name : String} (hview : d.view? name = none) {s : Schema}
    (hs : d.schema name = .ok s) : ∃ r rows, d.relation name = .ok r ∧ r.schema = s ∧
      r.source.records = .ok rows ∧ rows.Aligned s.size := by
  unfold schema at hs
  rw [hview] at hs
  dsimp only at hs
  split at hs
  · next s' hfound =>
      cases hs
      obtain ⟨a, ha, hschema⟩ := Option.bind_eq_some_iff.1 hfound
      obtain ⟨m, hm, rfl⟩ := h.exists_store (List.mem_of_find?_eq_some ha)
      obtain ⟨t, ht, rfl⟩ := Option.map_eq_some_iff.1 hschema
      refine ⟨⟨t.schema, ⟨.ok (.ofRows t.rows)⟩⟩, .ofRows t.rows, ?_, rfl, rfl, ?_⟩
      · simp [relation, ha, MemoryStore.adapter, ht]
      · exact Rows.aligned_ofRows.2 (hm.length_eq ht)
  · cases hs

theorem stores_of_load (h : InMemory d qs) {name : String} (hview : d.view? name = none)
    {s : Schema} (hs : nodeSchema .builtins d.schema (.load name none) = .ok s) :
    d.Stores name s := by
  intro hname
  simp only [nodeSchema, if_neg hname] at hs
  obtain ⟨s', hs', hs⟩ := bind_eq_ok.1 hs
  cases hs
  obtain ⟨r, rows, hr, rfl, hrows, haligned⟩ := h.exists_rows hview hs'
  exact ⟨r, rows, hr, rfl, hrows, haligned⟩

theorem rooted_of_resolve (h : InMemory d qs)
    (hviews : ∀ name v, d.view? name = some v → d.Rooted v) {p q : Plan} (hp : p.Bare)
    (hq : d.resolve p = .ok q) : d.Rooted q := by
  have hannotated : d.ViewsAnnotated := fun name v hv =>
    annotated_of_annotate (hviews name v hv).annotate
  rw [resolve_eq_annotate h.keepsLoads hannotated, h.functions_eq] at hq
  exact rooted_of_annotate hviews (fun _ _ hview => h.stores_of_load hview) hp hq

theorem rooted (h : InMemory d qs) :
    (∀ name v, d.view? name = some v → d.Rooted v) ∧ ∀ q ∈ qs, d.Rooted q.plan := by
  have hinsert {d : Dataset} {v : Plan} (hviews : ∀ n w, d.view? n = some w → d.Rooted w)
      (hv : d.Rooted v) (name n : String) (w : Plan)
      (hw : (d.insertView name v).view? n = some w) : (d.insertView name v).Rooted w :=
    (forall_view?_insertView hviews hv name n w hw).mono fun _ _ => id
  induction h with
  | withBuiltins =>
      refine ⟨fun name v hv => ?_, by simp⟩
      cases hv
  | withConfig config _ ih =>
      exact ⟨fun n v hv => (ih.1 n v hv).mono fun _ _ => id,
        fun q hq => (ih.2 q hq).mono fun _ _ => id⟩
  | addStore m _ _ ih =>
      exact ⟨fun n v hv => (ih.1 n v hv).mono (relation_addAdapter _),
        fun q hq => (ih.2 q hq).mono (relation_addAdapter _)⟩
  | createView name p h hp hcreate ih =>
      obtain ⟨v, hv, rfl⟩ := createView_eq_ok.1 hcreate
      exact ⟨hinsert ih.1 (h.rooted_of_resolve ih.1 hp hv) name,
        fun q hq => (ih.2 q hq).mono fun _ _ => id⟩
  | dropView name _ ih =>
      exact ⟨fun n v hv => (ih.1 n v (view?_of_dropView hv)).mono fun _ _ => id,
        fun q hq => (ih.2 q hq).mono fun _ _ => id⟩
  | query p q h hp hquery ih =>
      obtain ⟨hplan, -⟩ := Query.of_eq_ok.1 hquery
      refine ⟨ih.1, fun q hq => ?_⟩
      rcases List.mem_cons.1 hq with rfl | hq
      · exact h.rooted_of_resolve ih.1 hp hplan
      · exact ih.2 q hq
  | storeQuery name q _ hq ih =>
      exact ⟨hinsert ih.1 (ih.2 q hq) name, fun q hq => (ih.2 q hq).mono fun _ _ => id⟩

theorem consistent (h : InMemory d qs) : d.Consistent qs where
  functions := h.functions_eq
  adapters _ := h.exists_store
  views name v hv := (h.rooted.1 name v hv).settled
  queries q hq := ⟨(h.rooted.2 q hq).settled, h.outputSchema_eq q hq⟩

end InMemory

/-- A query that compiles runs, its rows have one value for each field of its schema, and none of
its errors is internal. The dataset may have changed since the query was made. -/
theorem executeWith_aligned (h : InMemory d qs) {q : Query} (hq : q ∈ qs) {config : Config}
    {P : Physical} (hP : d.compile config q.plan = .ok P) (params : List Value) :
    ∃ rows, q.executeWith d config params = .ok rows ∧
      (∀ row, .ok row ∈ rows.toList → row.length = q.schema.fields.length) ∧
      ∀ e, .error e ∈ rows.toList → e.kind ≠ .internal := by
  have hconsistent := h.consistent
  obtain ⟨hsettled, hschema⟩ := hconsistent.queries q hq
  rw [Dataset.compile, hconsistent.functions] at hP
  have hfits := Physical.compilesToFit FunctionRegistry.sound_builtins hsettled.annotate
    hsettled.grounded P q.schema hP hschema
  obtain ⟨rows, hrows, haligned⟩ := hfits { params, config }
  refine ⟨rows, ?_, fun row hrow => haligned _ hrow, fun e he => haligned _ he⟩
  rw [Query.executeWith, Dataset.compile, hconsistent.functions, hP, ok_bind, hrows]

theorem executeWith_aligned_flattened :
    let fields : List Field := [⟨"id", .integer, .required, [], none⟩,
      ⟨"tags", .string, .repeated, [], none⟩]
    let tagged : Row := [.integer 1, .list [.string "red", .string "blue"]]
    let m : MemoryStore := ⟨"memory", [("items", ⟨⟨some "items", fields⟩,
      [tagged, [.integer 2, .list []]]⟩)]⟩
    let tags : Plan := .tableFunction "flatten" [.relation (.load "items" none),
      .constant (.string "tags")] none
    let p : Plan := .join (.load "items" none) (.aliased "t" (.load "tags" none) none)
      (some (.binary .le (.var "items.id") (.var "t.id"))) .left none
    ({ name := "memory" } : MemoryStore).addTable "items" fields [tagged, [.integer 2]] = .ok m ∧
      ∃ d q rows, (withBuiltins.addAdapter m.adapter).createView "tags" tags = .ok d ∧
        Query.of d p = .ok q ∧ q.executeWith d {} [] = .ok rows ∧
        (∀ row, .ok row ∈ rows.toList → row.length = 4) ∧
        (∀ e, .error e ∈ rows.toList → e.kind ≠ .internal) ∧
        rows.toList = [.ok (tagged ++ [.integer 1, .string "red"]),
          .ok (tagged ++ [.integer 1, .string "blue"]),
          .ok [.integer 2, .list [], .null, .null]] := by
  intro fields tagged m tags p
  have htags : tags.Bare := .unary rfl (.load _)
  have hp : p.Bare := .binary rfl (.load _) (.unary rfl (.load _))
  have hm : ({ name := "memory" } : MemoryStore).addTable "items" fields [tagged, [.integer 2]] =
      .ok m := rfl
  have hstore := InMemory.addStore m .withBuiltins (.addTable "items" fields _ (.new "memory") hm)
  obtain ⟨d, q, P, rows, hd, hq, hP, hsize, hrows, hlist⟩ : ∃ d q P rows,
      (withBuiltins.addAdapter m.adapter).createView "tags" tags = .ok d ∧ Query.of d p = .ok q ∧
        d.compile {} q.plan = .ok P ∧ q.schema.fields.length = 4 ∧
        q.executeWith d {} [] = .ok rows ∧
        rows.toList = [.ok (tagged ++ [.integer 1, .string "red"]),
          .ok (tagged ++ [.integer 1, .string "blue"]),
          .ok [.integer 2, .list [], .null, .null]] := by
    simp only [fields, tagged, m, tags, p]
    exact ⟨_, _, _, _, rfl, rfl, rfl, rfl, rfl, rfl⟩
  have hquery := (hstore.createView "tags" tags htags hd).query p q hp hq
  obtain ⟨rows', hrows', hlength, hkind⟩ := executeWith_aligned hquery List.mem_cons_self hP []
  obtain rfl : rows = rows' := Except.ok.inj (hrows.symm.trans hrows')
  exact ⟨hm, d, q, rows, hd, hq, hrows, hsize ▸ hlength, hkind, hlist⟩

end Dataset

end QueryEngine
