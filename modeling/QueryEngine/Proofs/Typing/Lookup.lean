import Mathlib.Data.List.TakeDrop
import QueryEngine.Schema.Basic

namespace QueryEngine

namespace Text

@[simp] theorem toList_qualify (q name : String) :
    (qualify (some q) name).toList = q.toList ++ '.' :: name.toList := by
  simp [qualify]

theorem qualify_inj {q r name other : String} (hname : '.' ∉ name.toList)
    (hother : '.' ∉ other.toList) :
    qualify (some q) name = qualify (some r) other ↔ q = r ∧ name = other := by
  constructor
  · intro h
    have hlist := congrArg String.toList h
    rw [toList_qualify, toList_qualify, List.append_eq_append_iff] at hlist
    rcases hlist with ⟨ds, hr, hds⟩ | ⟨ds, hq, hds⟩
    · cases ds with
      | nil => simp_all [String.toList_inj]
      | cons d ds => simp_all
    · cases ds with
      | nil => simp_all [String.toList_inj]
      | cons d ds => simp_all
  · rintro ⟨rfl, rfl⟩
    rfl

theorem qualify_ne {q name other : String} (hother : '.' ∉ other.toList) :
    qualify (some q) name ≠ other := by
  rintro rfl
  simp at hother

theorem eq_qualify_of_splitOnce {path q name : String} (h : splitOnce '.' path = some (q, name)) :
    path = qualify (some q) name := by
  unfold splitOnce at h
  split at h
  · next before c after hspan =>
      cases h
      rw [List.span_eq_takeWhile_dropWhile] at hspan
      have hdot := List.head?_dropWhile_not (· != '.') path.toList
      have hpath := List.takeWhile_append_dropWhile (p := (· != '.')) (l := path.toList)
      obtain ⟨hbefore, hafter⟩ := Prod.mk.inj hspan
      rw [hbefore, hafter] at hpath
      obtain rfl : c = '.' := by simpa [hafter] using hdot
      rw [← String.toList_inj, toList_qualify]
      simp [hpath]
  · cases h

theorem splitOnce_eq_none {name : String} (h : '.' ∉ name.toList) : splitOnce '.' name = none := by
  cases hsplit : splitOnce '.' name with
  | none => rfl
  | some parts => exact absurd (eq_qualify_of_splitOnce hsplit).symm (qualify_ne h)

end Text

namespace Schema

variable {s : Schema} {p : Field → Bool} {i j : Nat} {f : Field} {q : String}

theorem mem_positionsWhere :
    j ∈ s.positionsWhere p ↔ ∃ f, s.fields[j]? = some f ∧ p f = true := by
  simp [positionsWhere, List.mem_zipIdx_iff_getElem?]

theorem nodup_positionsWhere : (s.positionsWhere p).Nodup := by
  have hsublist := (List.filter_sublist (p := fun x : Field × Nat => p x.1) (l := s.fields.zipIdx)).map
    Prod.snd
  rw [List.zipIdx_map_snd] at hsublist
  exact hsublist.nodup List.nodup_range'

/-- All fields have the same owner, and names without a dot that tell them apart. -/
structure OwnedBy (s : Schema) (q : String) : Prop where
  owner : ∀ f ∈ s.fields, s.owner? f = some q
  nodup : (s.fields.map (·.name)).Nodup
  no_dot : ∀ f ∈ s.fields, '.' ∉ f.name.toList

theorem OwnedBy.qualified (h : s.OwnedBy q) (name : String) : (s.qualified name).OwnedBy name where
  owner f hf := by
    obtain ⟨g, -, rfl⟩ := List.mem_map.1 hf
    rfl
  nodup := by simpa [Schema.qualified, Function.comp_def] using h.nodup
  no_dot f hf := by
    obtain ⟨g, hg, rfl⟩ := List.mem_map.1 hf
    exact h.no_dot g hg

theorem OwnedBy.positionsWhere_eq (h : s.OwnedBy q) (hf : s.fields[i]? = some f)
    (hp : ∀ g ∈ s.fields, p g = true ↔ g.name = f.name) : s.positionsWhere p = [i] := by
  refine List.perm_singleton.1 ?_
  refine (List.perm_ext_iff_of_nodup nodup_positionsWhere (by simp)).2 fun j => ?_
  rw [mem_positionsWhere, List.mem_singleton]
  constructor
  · rintro ⟨g, hg, hpg⟩
    have hname := (hp g (List.mem_of_getElem? hg)).1 hpg
    obtain ⟨hj, -⟩ := List.getElem?_eq_some_iff.1 hg
    have hsame : (s.fields.map (·.name))[j]? = (s.fields.map (·.name))[i]? := by
      simp only [List.getElem?_map, hg, hf, Option.map_some, hname]
    exact (List.getElem?_inj (by simpa using hj) h.nodup).1 hsame
  · rintro rfl
    exact ⟨f, hf, (hp f (List.mem_of_getElem? hf)).2 rfl⟩

theorem positionsWhere_eq_nil (hp : ∀ g ∈ s.fields, p g = false) : s.positionsWhere p = [] := by
  refine List.eq_nil_iff_forall_not_mem.2 fun j hj => ?_
  obtain ⟨g, hg, hpg⟩ := mem_positionsWhere.1 hj
  rw [hp g (List.mem_of_getElem? hg)] at hpg
  cases hpg

theorem OwnedBy.qualified?_eq (h : s.OwnedBy q) (hf : f ∈ s.fields) :
    s.qualified? f = some (Text.qualify (some q) f.name) := by
  rw [qualified?, h.owner f hf, Option.map_some]

theorem resolve_of_candidates (hc : s.candidates q = [i]) (hf : s.fields[i]? = some f) :
    s.resolve q = .ok (i, f) := by
  simp [resolve, hc, hf, List.getD_eq_getElem?_getD]

theorem OwnedBy.resolve_name (h : s.OwnedBy q) (hf : s.fields[i]? = some f) :
    s.resolve f.name = .ok (i, f) := by
  refine resolve_of_candidates ?_ hf
  have hdot := h.no_dot f (List.mem_of_getElem? hf)
  have hqualified : s.qualifiedPositions f.name = [] := by
    refine positionsWhere_eq_nil fun g hg => ?_
    simp [h.qualified?_eq hg, Text.qualify_ne hdot]
  rw [candidates, hqualified]
  exact h.positionsWhere_eq hf fun g _ => by simp

theorem OwnedBy.resolve_qualify (h : s.OwnedBy q) (hf : s.fields[i]? = some f) :
    s.resolve (Text.qualify (some q) f.name) = .ok (i, f) := by
  refine resolve_of_candidates ?_ hf
  have hdot := h.no_dot f (List.mem_of_getElem? hf)
  have hqualified : s.qualifiedPositions (Text.qualify (some q) f.name) = [i] := by
    refine h.positionsWhere_eq hf fun g hg => ?_
    simp [h.qualified?_eq hg, Text.qualify_inj (h.no_dot g hg) hdot]
  rw [candidates, hqualified]

theorem OwnedBy.resolve_foreign (h : s.OwnedBy q) {r : String} (hr : r ≠ q) {name : String}
    (hname : '.' ∉ name.toList) : s.resolve (Text.qualify (some r) name) =
      .error (.missingField (Text.qualify (some r) name) s.knownNames) := by
  have hqualified : s.qualifiedPositions (Text.qualify (some r) name) = [] := by
    refine positionsWhere_eq_nil fun g hg => ?_
    simp [h.qualified?_eq hg, Text.qualify_inj (h.no_dot g hg) hname, hr.symm]
  have hbare : s.barePositions (Text.qualify (some r) name) = [] := by
    refine positionsWhere_eq_nil fun g hg => ?_
    simp [(Text.qualify_ne (h.no_dot g hg)).symm]
  simp [resolve, candidates, hqualified, hbare]

/-- What is found under the name of a field, with a qualifier or without one, is that field. -/
theorem OwnedBy.eq_of_resolve (h : s.OwnedBy q) (hf : s.fields[i]? = some f) {path : String}
    (hpath : path = f.name ∨ ∃ r, path = Text.qualify (some r) f.name) {found : Nat × Field}
    (hfound : s.resolve path = .ok found) : found = (i, f) := by
  rcases hpath with rfl | ⟨r, rfl⟩
  · exact Except.ok.inj (hfound.symm.trans (h.resolve_name hf))
  · by_cases hr : r = q
    · subst hr
      exact Except.ok.inj (hfound.symm.trans (h.resolve_qualify hf))
    · rw [h.resolve_foreign hr (h.no_dot f (List.mem_of_getElem? hf))] at hfound
      cases hfound

end Schema

end QueryEngine
