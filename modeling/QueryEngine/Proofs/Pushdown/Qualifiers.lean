import QueryEngine.Proofs.Pushdown.Climb
import QueryEngine.Proofs.Pushdown.Errors

namespace QueryEngine

namespace Link

open Typing

variable {s s' : Schema} {rel : String} {functions : FunctionRegistry}

/-- The name that fields are known under above a chain on a relation: that of its highest alias. -/
def nearest (rel : String) (links : List Link) : String :=
  (names links).getLastD rel

theorem nearest_aliased (rel name : String) (own : Option Schema) (links : List Link) :
    nearest rel (aliased name own :: links) = nearest name links :=
  List.getLastD_cons ..

theorem ownedBy_of_schemaOverAll (h : s.OwnedBy rel) {links : List Link}
    (hs' : schemaOverAll functions s links = .ok s') : s'.OwnedBy (nearest rel links) ∧
      ∀ (i : Nat) (f : Field), s.fields[i]? = some f →
        ∃ owner, s'.fields[i]? = some { f with schemaName := owner } := by
  induction links generalizing s rel with
  | nil =>
      cases hs'
      refine ⟨h, fun i f hf => ⟨f.schemaName, ?_⟩⟩
      cases f
      exact hf
  | cons l links ih =>
      obtain ⟨s₁, hs₁, hs'⟩ := bind_eq_ok.1 hs'
      rcases l with ⟨e, own⟩ | ⟨ks, own⟩ | ⟨name, own⟩
      · obtain ⟨⟨⟩, -, hs₁⟩ := bind_eq_ok.1 hs₁
        cases hs₁
        exact ih h hs'
      · obtain ⟨⟨⟩, -, hs₁⟩ := bind_eq_ok.1 hs₁
        cases hs₁
        exact ih h hs'
      · cases hs₁
        obtain ⟨howned, hfields⟩ := ih (h.qualified name) hs'
        refine ⟨nearest_aliased rel name own links ▸ howned, fun i f hf => ?_⟩
        obtain ⟨owner, hf'⟩ := hfields i { f with schemaName := some name }
          (by simp [Schema.qualified, hf])
        exact ⟨owner, hf'⟩

end Link

namespace KeyFields

open Link Typing

/-- Where the pushdown takes a path for a key field `f`, the resolver finds `f` of the relation if the
path is bare or under the name of the highest alias, of the relation if there is no alias. Under the
other names, those that an alias hides, it finds nothing. -/
theorem resolve_of_contains {rel : String} {keyNames : List String} {s : Schema}
    (hs : s.OwnedBy rel) (hkeys : ∀ name ∈ keyNames, name ∈ s.fields.map (·.name))
    {functions : FunctionRegistry} {relation : String → Except Error Schema} {p p' q : Plan}
    (hp : annotate functions relation p = .ok p') (hp' : p'.outputSchema = .ok s)
    {links : List Link} (hq : annotate functions relation (wrapAll links p) = .ok q)
    {path : String} (hpath : (keysOver (ofRelation rel keyNames) links).contains path = true) :
    ∃ s' i f owner, q.outputSchema = .ok s' ∧ s.fields[i]? = some f ∧ f.name ∈ keyNames ∧
      (keysOver (ofRelation rel keyNames) links).unqualified? path = some f.name ∧
      (path = f.name ∨ path = Text.qualify (some (nearest rel links)) f.name →
        s'.resolve path = .ok (i, { f with schemaName := owner })) ∧
      (¬ (path = f.name ∨ path = Text.qualify (some (nearest rel links)) f.name) →
        s'.resolve path = .error (.missingField path s'.knownNames)) := by
  obtain ⟨s', hs'⟩ := schemaOverAll_of_annotate hp hp' hq
  obtain ⟨q', hq', habove⟩ := exists_annotate_wrapAll hp hp' hs'
  obtain rfl : q' = q := Except.ok.inj (hq'.symm.trans hq)
  obtain ⟨howned, hfields⟩ := ownedBy_of_schemaOverAll hs hs'
  rw [KeyFields.contains, Option.any_eq_true] at hpath
  obtain ⟨name, hname, hkey⟩ := hpath
  have hkey : name ∈ keyNames := List.contains_iff_mem.1 hkey
  obtain ⟨f, hf, rfl⟩ := List.mem_map.1 (hkeys name hkey)
  obtain ⟨i, hi⟩ := List.getElem?_of_mem hf
  obtain ⟨owner, hi'⟩ := hfields i f hi
  refine ⟨s', i, f, owner, habove.schema, hi, hkey, hname, ?_, fun hhidden => ?_⟩
  · rintro (rfl | rfl)
    · exact howned.resolve_name hi'
    · exact howned.resolve_qualify hi'
  · rw [not_or] at hhidden
    obtain ⟨hbare, hnearest⟩ := hhidden
    obtain ⟨r, -, rfl⟩ := (of_unqualified? hname).resolve_left hbare
    have hr : r ≠ nearest rel links := fun hr => hnearest (hr ▸ rfl)
    exact howned.resolve_foreign hr (hs.no_dot f hf)

theorem resolve_of_contains_two_aliases :
    let links : List Link := [.aliased "d" none, .orderBy [.var "d.size"] none, .aliased "e" none]
    let relation (_ : String) : Except Error Schema := .ok Document.schema
    ∃ q s' i f owner,
      annotate .builtins relation (wrapAll links (.load "docs" none)) = .ok q ∧
      q.outputSchema = .ok s' ∧ Document.schema.fields[i]? = some f ∧ f.name = "year" ∧
      s'.resolve "e.year" = .ok (i, { f with schemaName := owner }) := by
  intro links relation
  have hs : Document.schema.OwnedBy "docs" := ⟨by decide, by decide, by decide⟩
  have hkeys : ∀ name ∈ Document.keyNames, name ∈ Document.schema.fields.map (·.name) := by decide
  have hp : annotate .builtins relation (.load "docs" none) =
      .ok (.load "docs" (some Document.schema)) := rfl
  obtain ⟨q, hq⟩ : ∃ q, annotate .builtins relation (wrapAll links (.load "docs" none)) = .ok q :=
    ⟨_, rfl⟩
  have hpath : (keysOver (ofRelation "docs" Document.keyNames) links).contains "e.year" = true := by
    decide
  obtain ⟨s', i, f, owner, hs', hi, -, hname, hvisible, -⟩ :=
    resolve_of_contains hs hkeys hp rfl hq hpath
  have hf : f.name = "year" := (Option.some.inj hname).symm
  have hnearest : "e.year" = Text.qualify (some (nearest "docs" links)) f.name := by
    rw [hf]
    rfl
  exact ⟨q, s', i, f, owner, hq, hs', hi, hf, hvisible (.inr hnearest)⟩

/-- Above the alias the name of the relation is hidden: as a table the documents have no such field,
but their adapter takes the path for the year of the key and answers. -/
theorem contains_hidden_name :
    let docs := [Document.of "2022" "alpha" "Alpha" 10, Document.of "2023" "beta" "Beta" 200]
    let links : List Link := [.aliased "d" none]
    let k := keysOver (ofRelation "docs" Document.keyNames) links
    let input := wrapAll links (.load "docs" none)
    let p : Plan := .select input
      (some (.binary .eq (.var "docs.year") (.const (.string "2022")))) none
    k.contains "docs.year" = true ∧ k.unqualified? "docs.year" = some "year" ∧
      (∃ q s hint, annotate .builtins (Document.plain .builtins docs).schema input = .ok q ∧
        q.outputSchema = .ok s ∧
        s.resolve "docs.year" = .error (.fieldNotFound "docs.year" hint)) ∧
      (∃ hint, Query.of (Document.plain .builtins docs) p =
        .error (.fieldNotFound "docs.year" hint)) ∧
      Document.items (Document.served .builtins docs) p {} [] =
        .ok [.ok (Document.of "2022" "alpha" "Alpha" 10).row] := by
  intro docs links k input p
  refine ⟨by decide, by decide, ⟨_, _, _, rfl, rfl, rfl⟩, ⟨_, rfl⟩, ?_⟩
  simp only [docs, p, input, links]
  rfl

end KeyFields

end QueryEngine
