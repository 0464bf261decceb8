import QueryEngine.Adapter.Documents
import QueryEngine.Proofs.Physical.Columns
import QueryEngine.Proofs.Typing.Lookup
import QueryEngine.Proofs.Typing.Renaming

namespace QueryEngine

namespace Document

def ownedFields (owner : Option String) : List Field :=
  fields.map fun f => { f with schemaName := owner }

theorem ownedBy_ownedFields {q : String} {owner : Option String}
    (h : owner = none ∨ owner = some q) : (⟨some q, ownedFields owner⟩ : Schema).OwnedBy q where
  owner f hf := by
    obtain ⟨g, -, rfl⟩ := List.mem_map.1 hf
    rcases h with rfl | rfl <;> rfl
  nodup := by
    have hnames : (fields.map (·.name)).Nodup := by decide
    simpa [ownedFields, Function.comp_def] using hnames
  no_dot f hf := by
    have hdots : ∀ g ∈ fields, '.' ∉ g.name.toList := by decide
    obtain ⟨g, hg, rfl⟩ := List.mem_map.1 hf
    exact hdots g hg

end Document

namespace KeyFields

open Document

/-- A schema of documents, perhaps under an alias, whose owner may stand before key fields. -/
structure Fits (k : KeyFields) (s : Schema) : Prop where
  fields_eq : k.fields = keyNames
  schema_eq : ∃ q ∈ k.qualifiers, ∃ owner, (owner = none ∨ owner = some q) ∧
    s = ⟨some q, ownedFields owner⟩

theorem fits_ofRelation : (ofRelation relationName keyNames).Fits Document.schema :=
  ⟨rfl, relationName, List.mem_singleton_self _, none, .inl rfl, rfl⟩

variable {k : KeyFields} {s : Schema} {functions : FunctionRegistry}

theorem Fits.addQualifier (h : k.Fits s) (name : String) :
    (k.addQualifier name).Fits (s.qualified name) := by
  obtain ⟨hfields, q, -, owner, -, rfl⟩ := h
  refine ⟨hfields, name, by simp [KeyFields.addQualifier], some name, .inr rfl, ?_⟩
  simp [Schema.qualified, ownedFields]

theorem of_unqualified? {path name : String} (h : k.unqualified? path = some name) :
    path = name ∨ ∃ q ∈ k.qualifiers, path = Text.qualify (some q) name := by
  unfold unqualified? at h
  split at h
  · next q name' hsplit =>
      obtain ⟨hq, rfl⟩ : k.qualifiers.contains q = true ∧ name' = name := by simpa using h
      exact .inr ⟨q, List.contains_iff_mem.1 hq, Text.eq_qualify_of_splitOnce hsplit⟩
  · exact .inl (Option.some.inj h)

/-- A path to a key field, where it means something, means the column of the stripped name. -/
theorem Fits.resolve (h : k.Fits s) {path : String} (hpath : k.contains path = true) {i : Nat}
    {g : Field} (hg : s.resolve path = .ok (i, g)) : ∃ owner,
      keySchema.resolve ((k.unqualified? path).getD path) =
        .ok (i, { g with schemaName := owner }) := by
  rw [KeyFields.contains, h.fields_eq, Option.any_eq_true] at hpath
  obtain ⟨name, hname, hkey⟩ := hpath
  obtain ⟨-, q, -, owner, howner, rfl⟩ := h
  have howned := ownedBy_ownedFields howner
  have hpath : path = name ∨ ∃ r, path = Text.qualify (some r) name :=
    (of_unqualified? hname).imp_right fun ⟨r, _, hr⟩ => ⟨r, hr⟩
  rw [hname, Option.getD_some]
  have hkey : name = "path" ∨ name = "year" := by simpa [keyNames] using hkey
  refine ⟨none, ?_⟩
  rcases hkey with rfl | rfl
  · have hfound := howned.eq_of_resolve (i := 0) rfl hpath hg
    cases hfound
    rfl
  · have hfound := howned.eq_of_resolve (i := 1) rfl hpath hg
    cases hfound
    rfl

theorem Fits.renames (h : k.Fits s) : ∃ p, (∀ e, k.needsRecord e = e.any p) ∧
    s.Renames keySchema p fun path => (k.unqualified? path).getD path :=
  ⟨_, fun _ => rfl, fun _ hpath _ _ hg => h.resolve (by simpa using hpath) hg⟩

theorem Fits.fieldOf_strip (h : k.Fits s) (hf : functions.IgnoresOwners) {e : Expr}
    (he : k.needsRecord e = false) {g : Field} (hg : Typing.fieldOf s functions e = .ok g) :
    ∃ g', Typing.fieldOf keySchema functions (k.strip e) = .ok g' := by
  obtain ⟨p, hp, hrenames⟩ := h.renames
  obtain ⟨g', hg', -⟩ := Typing.fieldOf_mapVars hf hrenames e (hp e ▸ he) hg
  exact ⟨g', hg'⟩

theorem Fits.plan_strip (h : k.Fits s) {e : Expr} (he : k.needsRecord e = false) {sc : Scalar}
    (hsc : Scalar.plan s functions e = .ok sc) :
    Scalar.plan keySchema functions (k.strip e) = .ok sc := by
  obtain ⟨p, hp, hrenames⟩ := h.renames
  exact Scalar.plan_mapVars hrenames e (hp e ▸ he) hsc

end KeyFields

namespace Document

theorem eval_row {functions : FunctionRegistry} {e : Expr} {sc : Scalar}
    (h : Scalar.plan keySchema functions e = .ok sc) (ctx : Context) (d : Document) :
    Scalar.eval ctx d.row sc = Scalar.eval ctx d.keyRow sc :=
  Scalar.eval_append ctx d.keyRow [.string d.title, .integer d.size] sc (Scalar.within_of_plan e h)

end Document

end QueryEngine
