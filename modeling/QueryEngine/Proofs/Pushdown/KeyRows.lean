import QueryEngine.Proofs.Physical.Renumbering
import QueryEngine.Proofs.Pushdown.Keys

namespace QueryEngine

namespace KeyFields

open Scalar

/-- Every reference in an expression is to a column of the full schema, and its stripped path to the
same column of the key schema. `column` takes positions of that to positions of the full one. -/
def Columns (k : KeyFields) (e : Expr) (full key : Schema) (column : Nat → Nat) : Prop :=
  ∀ path, e.Reaches Expr.children (.var path) → ∃ i f g,
    key.resolve ((k.unqualified? path).getD path) = .ok (i, g) ∧ full.resolve path = .ok (column i, f)

variable {k : KeyFields} {e : Expr} {full key : Schema} {column : Nat → Nat}

theorem contains_of_reaches (h : k.isPartitionable e = true) {path : String}
    (hpath : e.Reaches Expr.children (.var path)) : k.contains path = true := by
  by_contra hcontains
  have hneeds : k.needsRecord e = true :=
    Expr.any_of_reaches hpath (by simpa using hcontains)
  simp [isPartitionable, hneeds] at h

theorem Columns.plan_eq (h : k.Columns e full key column) (functions : FunctionRegistry) :
    plan full functions e = (plan key functions (k.strip e)).map (renumber column) := by
  refine renumbers_of_position fun path hpath => ?_
  obtain ⟨i, f, g, hkey, hfull⟩ := h path hpath
  simp [Schema.position, hkey, hfull, Except.map]

def keyColumns (column : Nat → Nat) (n : Nat) (row : Row) : Row :=
  (List.range n).map fun i => row[column i]?.getD .null

theorem gathers_keyColumns {n : Nat} {row : Row}
    (h : ∀ i < n, ∃ v, row[column i]? = some v) : Gathers column n row (keyColumns column n row) := by
  intro i hi
  obtain ⟨v, hv⟩ := h i hi
  exact ⟨v, by simp [keyColumns, hi, hv], hv⟩

/-- An expression whose references mean the same columns on keys has a plan over the keys exactly if
it has one over the records, or fails with the same error. The plans have the same value, or fail
with the same error, on a record and on a row that holds its key columns; so nothing but the key
columns of a record matters. -/
theorem eval_strip (h : k.Columns e full key column) (functions : FunctionRegistry) :
    ((∃ below, plan key functions (k.strip e) = .ok below) ↔
      ∃ above, plan full functions e = .ok above) ∧
    (∀ err, plan key functions (k.strip e) = .error err ↔ plan full functions e = .error err) ∧
    ∀ below above, plan key functions (k.strip e) = .ok below →
      plan full functions e = .ok above →
        (∀ ctx row keyRow, Gathers column key.size row keyRow →
          eval ctx keyRow below = eval ctx row above) ∧
        ∀ ctx (row row' : Row),
          (∀ i < key.size, ∃ v, row[column i]? = some v ∧ row'[column i]? = some v) →
            eval ctx row above = eval ctx row' above := by
  have hplan := h.plan_eq functions
  refine ⟨?_, ?_, fun below above hbelow habove => ?_⟩
  · rw [hplan]
    cases plan key functions (k.strip e) <;> simp [Except.map]
  · rw [hplan]
    cases plan key functions (k.strip e) <;> simp [Except.map]
  · have hrenumber : below.renumber column = above := by
      rw [hbelow, habove] at hplan
      exact (Except.ok.inj hplan).symm
    have heval (ctx : Context) (row keyRow : Row) (hrow : Gathers column key.size row keyRow) :
        eval ctx keyRow below = eval ctx row above := by
      rw [← hrenumber, eval_renumber hrow below (within_of_plan _ hbelow)]
    refine ⟨heval, fun ctx row row' hrows => ?_⟩
    have hgathers : Gathers column key.size row (keyColumns column key.size row) :=
      gathers_keyColumns fun i hi => (hrows i hi).imp fun v hv => hv.1
    have hgathers' : Gathers column key.size row' (keyColumns column key.size row) := by
      intro i hi
      obtain ⟨v, hv, hv'⟩ := hrows i hi
      exact ⟨v, by simp [keyColumns, hi, hv], hv'⟩
    rw [← heval ctx row _ hgathers, heval ctx row' _ hgathers']

/-- The fields of the relation stand the other way round and among others. References are bare or
qualified, and stand in a branch, in bounds, below a cast and in a list. -/
theorem eval_strip_reversed :
    let k := ofRelation "docs" ["path", "year"]
    let field (name : String) : Field := { name, type := .string }
    let full : Schema := ⟨some "docs", [field "size", field "year", field "path"]⟩
    let key : Schema := ⟨some "docs", [field "path", field "year"]⟩
    let position (i : Nat) : Nat := 2 - i
    let e : Expr := .caseWhen
      [(.between (.var "docs.year") (.const (.string "2023")) (.param 0),
        .cast (.var "docs.path") .date)]
      (some (.inList (.var "path") [.const (.string "a"), .var "year"]))
    let ctx : Context := { params := [.string "2024"] }
    let row : Row := [.integer 10, .string "2022", .string "2022"]
    k.isPartitionable e = true ∧ k.Columns e full key position ∧
      ∃ below above, plan key .builtins (k.strip e) = .ok below ∧
        plan full .builtins e = .ok above ∧
        eval ctx [.string "2022", .string "2022"] below = .ok (.boolean true) ∧
        eval ctx row above = .ok (.boolean true) := by
  intro k field full key position e ctx row
  have hpartitionable : k.isPartitionable e = true := by decide
  have hcolumns : k.Columns e full key position := by
    intro path hpath
    have hcontains := contains_of_reaches hpartitionable hpath
    rw [KeyFields.contains, Option.any_eq_true] at hcontains
    obtain ⟨name, hname, hkey⟩ := hcontains
    have hkey : name = "path" ∨ name = "year" := by simpa [k, ofRelation] using hkey
    rcases hkey with rfl | rfl
    · obtain rfl | ⟨q, hq, rfl⟩ := of_unqualified? hname
      · exact ⟨0, _, _, rfl, rfl⟩
      · obtain rfl := List.mem_singleton.1 hq
        exact ⟨0, _, _, rfl, rfl⟩
    · obtain rfl | ⟨q, hq, rfl⟩ := of_unqualified? hname
      · exact ⟨1, _, _, rfl, rfl⟩
      · obtain rfl := List.mem_singleton.1 hq
        exact ⟨1, _, _, rfl, rfl⟩
  let plan (path year : Nat) : Scalar := caseWhen
    [(between (column year) (literal (.string "2023")) (param 0), cast (column path) .date)]
    (some (binary .mem (column path) (tuple [literal (.string "a"), column year])))
  have hbelow : Scalar.plan key .builtins (k.strip e) = .ok (plan 0 1) := rfl
  have habove : Scalar.plan full .builtins e = .ok (plan 2 1) := rfl
  have hrow : Gathers position key.size row [.string "2022", .string "2022"] := by
    intro i hi
    obtain rfl | rfl : i = 0 ∨ i = 1 := by
      have : i < 2 := hi
      omega
    · exact ⟨_, rfl, rfl⟩
    · exact ⟨_, rfl, rfl⟩
  have heval := ((eval_strip hcolumns .builtins).2.2 _ _ hbelow habove).1 ctx row _ hrow
  exact ⟨hpartitionable, hcolumns, _, _, hbelow, habove, rfl, heval.symm.trans rfl⟩

end KeyFields

end QueryEngine
