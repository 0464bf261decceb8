import QueryEngine.Proofs.Alignment.Datasets
import QueryEngine.Proofs.Nullability.Plans

namespace QueryEngine

open Typing Plan

namespace Dataset

/-- The values of all relations have the property, however deep. -/
def Holds (d : Dataset) (P : Field → Value → Prop) : Prop :=
  ∀ name r rows, d.relation name = .ok r → r.source.records = .ok rows →
    rows.Every (List.Forall₂ (Field.Deep P) r.schema.fields)

variable {d : Dataset} {qs : List Query} {solid : Prop}

theorem holds_of_tables {R : Field → Value → Prop} {m : MemoryStore}
    (h : ∀ entry ∈ m.tables, ∀ row ∈ entry.2.rows,
      List.Forall₂ (Field.Deep R) entry.2.schema.fields row) :
    (withBuiltins.addAdapter m.adapter).Holds R := by
  intro name r rows hr hrows
  have hadapters : (withBuiltins.addAdapter m.adapter).adapters = [m.adapter] := rfl
  simp only [relation, adapterFor?, hadapters] at hr
  split at hr
  · cases hr
  · next a ha =>
      obtain rfl := List.mem_singleton.1 (List.mem_of_find?_eq_some ha)
      split at hr <;> cases hr
      next t ht =>
        obtain ⟨t', ht', rfl⟩ := Option.map_eq_some_iff.1 ht
        obtain ⟨entry, hentry, rfl⟩ := Option.map_eq_some_iff.1 ht'
        cases hrows
        exact Rows.every_ofRows.2 (h entry (List.mem_of_find?_eq_some hentry))

theorem forall₂_admits {fields : List Field} {row : Row} (h : Conforms solid fields row) :
    List.Forall₂ Field.Admits fields row :=
  h.imp fun _ _ hv => hv.ne_null

theorem conforms_relation (hdata : d.Holds Field.Admits)
    (hsolid : solid → d.Holds Field.ListsRecords) {name : String} {r : Relation} {rows : Rows}
    (hr : d.relation name = .ok r) (hrows : r.source.records = .ok rows) :
    rows.Every (Conforms solid r.schema.fields) := by
  intro row hrow
  have hadmits := hdata name r rows hr hrows row hrow
  refine List.forall₂_iff_get.2 ⟨hadmits.length_eq, fun i hf hv => ?_⟩
  refine Field.filled_of_deep True _ _ (hadmits.get hf hv) fun hs => ?_
  exact (hsolid hs name r rows hr hrows row hrow).get hf hv

/-- A query that compiles runs, and has no NULL in a REQUIRED column. `solid` stands for what is
known of lists of records, and the dataset may have changed since the query was made. -/
theorem executeWith_admits (h : InMemory d qs) (hdata : d.Holds Field.Admits)
    (hsolid : solid → d.Holds Field.ListsRecords) {q : Query} (hq : q ∈ qs)
    (hguarded : q.plan.Everywhere (Plan.Guarded solid .builtins)) {config : Config} {P : Physical}
    (hP : d.compile config q.plan = .ok P) (params : List Value) :
    ∃ rows, q.executeWith d config params = .ok rows ∧
      rows.Every (List.Forall₂ Field.Admits q.schema.fields) := by
  have hrooted := h.rooted.2 q hq
  have hschema := h.outputSchema_eq q hq
  rw [Dataset.compile, h.functions_eq] at hP
  have hcompiles := Physical.compiles_of_annotate hrooted.annotate q.schema P hschema hP
  -- the loads go on reading the relations that they were resolved with
  have hanchored : q.plan.Everywhere (Carries (Anchored d.relation)) :=
    hrooted.loads.mono fun p hp => hp.mono fun name s hs hname => by
      obtain ⟨r, rows, hr, hfields, -⟩ := hs hname
      exact ⟨r, hr, hfields⟩
  have hgives := hcompiles.gives FunctionRegistry.lax_builtins
    (fun _ _ => FunctionRegistry.eq_flatten_of_table) (fun _ _ _ => conforms_relation hdata hsolid)
    (hanchored.and hguarded)
  obtain ⟨rows, hrows, -⟩ := hcompiles.fits FunctionRegistry.sound_builtins
    hrooted.settled.grounded { params, config }
  refine ⟨rows, ?_, fun row hrow => forall₂_admits (hgives _ rows hrows row hrow)⟩
  rw [Query.executeWith, Dataset.compile, h.functions_eq, hP, ok_bind, hrows]

theorem executeWith_admits_lines :
    let text (name : String) : Field := ⟨name, .string, .required, [], none⟩
    let fields : List Field := [⟨"address", .record, .required, [text "city"], none⟩,
      ⟨"lines", .record, .repeated, [text "sku"], none⟩]
    let order : Row := [.record [("city", .string "Rome")],
      .list [.record [("sku", .string "A")], .record [("sku", .string "B")]]]
    let orders : Assoc MemoryTable := [("orders", ⟨⟨some "orders", fields⟩, [order]⟩)]
    let m : MemoryStore := ⟨"memory",
      ("stock", ⟨⟨some "stock", [text "sku"]⟩, [[.string "A"]]⟩) :: orders⟩
    let d : Dataset := withBuiltins.addAdapter m.adapter
    let lines : Plan := .tableFunction "flatten" [.relation (.load "orders" none),
      .constant (.string "lines")] none
    let columns : List Expr := [.item (.var "address") (.string "city"), .var "lines_sku",
      .var "stock.sku"]
    let p : Plan := .project (.join lines (.load "stock" none)
      (some (.binary .le (.var "lines_sku") (.var "stock.sku"))) .left none) columns none
    ({ name := "memory" } : MemoryStore).addTable "orders" fields [order] =
        .ok ⟨"memory", orders⟩ ∧
      MemoryStore.addTable ⟨"memory", orders⟩ "stock" [text "sku"] [[.string "A"]] = .ok m ∧
        ∃ q rows, Query.of d p = .ok q ∧ q.executeWith d {} [] = .ok rows ∧
          q.schema.fields.map (·.mode) = [.required, .required, .nullable] ∧
            rows.Every (List.Forall₂ Field.Admits q.schema.fields) ∧
            rows.toList = [.ok [.string "Rome", .string "A", .string "A"],
              .ok [.string "Rome", .string "B", .null]] := by
  intro text fields order orders m d lines columns p
  have horders : ({ name := "memory" } : MemoryStore).addTable "orders" fields [order] =
      .ok ⟨"memory", orders⟩ := rfl
  have hstock : MemoryStore.addTable ⟨"memory", orders⟩ "stock" [text "sku"] [[.string "A"]] =
      .ok m := rfl
  have hstore := InMemory.addStore m .withBuiltins
    (.addTable "stock" _ _ (.addTable "orders" fields _ (.new "memory") horders) hstock)
  have hholds {R : Field → Value → Prop}
      (hstock : List.Forall₂ (Field.Deep R) [text "sku"] [.string "A"])
      (horder : List.Forall₂ (Field.Deep R) fields order) : d.Holds R := by
    refine holds_of_tables fun entry hentry row hrow => ?_
    simp only [m, orders, List.mem_cons, List.not_mem_nil, or_false] at hentry
    rcases hentry with rfl | rfl
    all_goals
      obtain rfl := List.mem_singleton.1 hrow
      assumption
  have hdata : d.Holds Field.Admits := by
    apply hholds <;>
      simp [fields, order, text, Field.Deep, Field.DeepAll, Field.Admits, Field.Present,
        Value.fieldOrNull]
  have hlists : d.Holds Field.ListsRecords := by
    apply hholds <;>
      simp [fields, order, text, Field.Deep, Field.DeepAll, Field.ListsRecords, Field.Present,
        Value.fieldOrNull]
  have hp : p.Bare := .unary rfl (.binary rfl (.unary rfl (.load _)) (.load _))
  obtain ⟨q, P, rows, s, a, b, c, hq, hP, hplan, haddress, hmodes, hrows, hlist⟩ :
      ∃ q P rows s a b c,
      Query.of d p = .ok q ∧ d.compile {} q.plan = .ok P ∧
        q.plan = .project (.join (.tableFunction "flatten" [.relation (.load "orders" a),
          .constant (.string "lines")] b) (.load "stock" c)
          (some (.binary .le (.var "lines_sku") (.var "stock.sku"))) .left (some s)) columns
          (some q.schema) ∧
        fieldOf s .builtins (.var "address") =
          .ok ⟨"address", .record, .required, [text "city"], some "orders"⟩ ∧
        q.schema.fields.map (·.mode) = [.required, .required, .nullable] ∧
        q.executeWith d {} [] = .ok rows ∧
        rows.toList = [.ok [.string "Rome", .string "A", .string "A"],
          .ok [.string "Rome", .string "B", .null]] := by
    simp only [text, fields, order, orders, m, d, lines, columns, p]
    exact ⟨_, _, _, _, _, _, _, rfl, rfl, rfl, rfl, rfl, rfl, rfl⟩
  have hguarded : q.plan.Everywhere (Plan.Guarded True .builtins) := by
    rw [hplan]
    refine .node ?_ fun c hc => ?_
    · rintro _ ⟨⟩ e he
      simp only [columns, List.mem_cons, List.not_mem_nil, or_false] at he
      rcases he with rfl | rfl | rfl
      · intro f g hf _ _
        obtain rfl := Except.ok.inj (haddress.symm.trans hf)
        exact ⟨rfl, trivial⟩
      · trivial
      · trivial
    · obtain rfl := List.mem_singleton.1 hc
      refine .node trivial fun c hc => ?_
      simp only [children, List.mem_cons, List.not_mem_nil, or_false] at hc
      rcases hc with rfl | rfl
      · refine .node (fun _ _ _ _ _ _ => .inl trivial) fun c hc => ?_
        obtain rfl := List.mem_singleton.1 hc
        exact .node trivial (by simp [children])
      · exact .node trivial (by simp [children])
  obtain ⟨rows', hrows', hadmits⟩ := executeWith_admits (hstore.query p q hp hq) hdata
    (fun _ => hlists) List.mem_cons_self hguarded hP []
  obtain rfl : rows = rows' := Except.ok.inj (hrows.symm.trans hrows')
  exact ⟨horders, hstock, q, rows, hq, hrows, hmodes, hadmits, hlist⟩

/-- The plan resolves and compiles, and has a row with NULL in a REQUIRED column. -/
def GivesNull (d : Dataset) (p : Plan) : Prop :=
  ∃ q P rows row, Query.of d p = .ok q ∧ d.compile {} q.plan = .ok P ∧
    q.executeWith d {} [] = .ok rows ∧ .ok row ∈ rows.toList ∧
      ¬List.Forall₂ Field.Admits q.schema.fields row

/-- A UNION ALL takes the modes of its left side, a nested field keeps its mode behind a NULL, and
so do the columns of a list element that is NULL. -/
theorem givesNull_union_item_flatten :
    let number (mode : FieldMode) : Field := ⟨"n", .integer, mode, [], none⟩
    let nested : List Field := [⟨"r", .record, .nullable, [number .required], none⟩,
      ⟨"l", .record, .repeated, [number .required], none⟩]
    let a : MemoryTable := ⟨⟨some "a", [number .required]⟩, [[.integer 1]]⟩
    let b : MemoryTable := ⟨⟨some "b", [number .nullable]⟩, [[.null]]⟩
    let c : MemoryTable := ⟨⟨some "c", nested⟩, [[.null, .list [.null]]]⟩
    let d : Dataset := withBuiltins.addAdapter
      (MemoryStore.adapter ⟨"memory", [("c", c), ("b", b), ("a", a)]⟩)
    let union : Plan := .unionAll (.load "a" none) (.load "b" none) none
    let item : Plan := .project (.load "c" none) [.item (.var "r") (.string "n")] none
    let elements : Plan := .project (.tableFunction "flatten" [.relation (.load "c" none),
      .constant (.string "l")] none) [.var "l_n"] none
    InMemory d [] ∧ d.Holds Field.Admits ∧ (∀ p ∈ [union, item, elements], p.Bare) ∧
      ∀ p ∈ [union, item, elements], d.GivesNull p := by
  intro number nested a b c d union item elements
  have hstore : InMemory d [] := by
    refine .addStore _ .withBuiltins ?_
    have ha : MemoryStore.Built ⟨"memory", [("a", a)]⟩ :=
      .addTable "a" [number .required] [[.integer 1]] (.new "memory") rfl
    have hb : MemoryStore.Built ⟨"memory", [("b", b), ("a", a)]⟩ :=
      .addTable "b" [number .nullable] [[.null]] ha rfl
    exact .addTable "c" nested [[.null, .list [.null]]] hb rfl
  have hdata : d.Holds Field.Admits := by
    refine holds_of_tables fun entry hentry row hrow => ?_
    simp only [List.mem_cons, List.not_mem_nil, or_false] at hentry
    rcases hentry with rfl | rfl | rfl
    all_goals
      obtain rfl := List.mem_singleton.1 hrow
      simp [a, b, c, nested, number, Field.Deep, Field.DeepAll, Field.Admits, Field.Present]
  have hbare : ∀ p ∈ [union, item, elements], p.Bare := by
    simp only [List.forall_mem_cons, List.not_mem_nil, false_imp_iff, implies_true, and_true]
    exact ⟨.binary rfl (.load _) (.load _), .unary rfl (.load _), .unary rfl (.unary rfl (.load _))⟩
  refine ⟨hstore, hdata, hbare, ?_⟩
  have hnull {p : Plan} {q : Query} {P : Physical} {rows : Rows} {f : Field}
      (hq : Query.of d p = .ok q) (hP : d.compile {} q.plan = .ok P)
      (hrows : q.executeWith d {} [] = .ok rows)
      (hfields : q.schema.fields = [f]) (hmode : f.mode = .required)
      (hrow : .ok [.null] ∈ rows.toList) : d.GivesNull p := by
    refine ⟨q, P, rows, _, hq, hP, hrows, hrow, ?_⟩
    simp [hfields, Field.Admits, hmode]
  simp only [List.forall_mem_cons, List.not_mem_nil, false_imp_iff, implies_true, and_true]
  simp only [number, nested, a, b, c, d, union, item, elements] at hnull ⊢
  refine ⟨hnull rfl rfl rfl rfl rfl ?_, hnull rfl rfl rfl rfl rfl ?_, hnull rfl rfl rfl rfl rfl ?_⟩
  · exact List.mem_cons_of_mem _ List.mem_cons_self
  · exact List.mem_cons_self
  · exact List.mem_cons_self

end Dataset
end QueryEngine
