import Mathlib.Data.List.Forall2
import QueryEngine.Proofs.Alignment.Operators
import QueryEngine.Typing.Plan

namespace QueryEngine

theorem Schema.resolve_eq_ok {s : Schema} {path : String} {i : Nat} {f : Field}
    (h : s.resolve path = .ok (i, f)) : s.fields[i]? = some f := by
  unfold resolve at h
  split at h
  · cases h
  · next j hj =>
      cases h
      have hmem : i ∈ s.candidates path := by simp [hj]
      have hi : i < s.fields.length := lt_size_of_mem_candidates hmem
      simp [hi]
  · cases h

namespace Value

def nested : Value → List (String × Value)
  | record fields => fields
  | _ => []

end Value

namespace Field

def Present (record : List (String × Value)) (v : Value) : Prop :=
  v = .record record ∨ ∃ vs, v = .list vs ∧ .record record ∈ vs

variable (P : Field → Value → Prop)

mutual

/-- `P` of the value, and of what stands behind the nested fields of all records in it, however
deep. -/
def Deep : Field → Value → Prop
  | ⟨name, type, mode, fields, schemaName⟩, v =>
    P ⟨name, type, mode, fields, schemaName⟩ v ∧ ∀ record, Present record v → DeepAll fields record

def DeepAll : List Field → List (String × Value) → Prop
  | [], _ => True
  | f :: fs, record => f.Deep (Value.fieldOrNull f.name record) ∧ DeepAll fs record

end

def Admits (f : Field) (v : Value) : Prop :=
  f.mode = .required → v ≠ .null

/-- Where a field stands for a list of records, nothing but records is in the list. -/
def ListsRecords (f : Field) (v : Value) : Prop :=
  f.mode = .repeated → f.fields ≠ [] → (∀ record, v ≠ .record record) ∧
    ∀ vs, v = .list vs → ∀ e ∈ vs, ∃ record, e = .record record

variable (solid : Prop)

mutual

def Filled : Field → Prop → Value → Prop
  | ⟨_, _, mode, fields, _⟩, due, v =>
    (due → mode = .required → v ≠ .null) ∧
    (∀ record, v = .record record → FilledAll fields (due ∧ mode = .required) record) ∧
    (solid → mode = .repeated → fields ≠ [] → (∀ record, v ≠ .record record) ∧
      ∀ vs, v = .list vs → ∀ e ∈ vs, FilledAll fields True e.nested)

def FilledAll : List Field → Prop → List (String × Value) → Prop
  | [], _, _ => True
  | f :: fs, due, record =>
    f.Filled due (Value.fieldOrNull f.name record) ∧ FilledAll fs due record

end

variable {P solid} {due due' : Prop} {f g : Field} {v : Value}

theorem filledAll_iff {fs : List Field} {record : List (String × Value)} :
    FilledAll solid fs due record ↔
      ∀ f ∈ fs, f.Filled solid due (Value.fieldOrNull f.name record) := by
  induction fs with
  | nil => simp [FilledAll]
  | cons f fs ih => simp [FilledAll, ih]

theorem filled_iff : f.Filled solid due v ↔
    (due → f.mode = .required → v ≠ .null) ∧
    (∀ record, v = .record record →
      FilledAll solid f.fields (due ∧ f.mode = .required) record) ∧
    (solid → f.mode = .repeated → f.fields ≠ [] → (∀ record, v ≠ .record record) ∧
      ∀ vs, v = .list vs → ∀ e ∈ vs, FilledAll solid f.fields True e.nested) := by
  obtain ⟨name, type, mode, fields, schemaName⟩ := f
  simp only [Filled]

mutual

theorem filled_of_deep (due : Prop) : ∀ (f : Field) (v : Value), f.Deep Admits v →
    (solid → f.Deep ListsRecords v) → f.Filled solid due v
  | ⟨_, _, mode, fields, _⟩, v, h, hsolid => by
      have hbelow (due : Prop) (record : List (String × Value)) (hpresent : Present record v) :
          FilledAll solid fields due record :=
        filledAll_of_deepAll due fields record (h.2 record hpresent) fun hs =>
          (hsolid hs).2 record hpresent
      refine ⟨fun _ => h.1, fun record hv => hbelow _ record (.inl hv), fun hs hmode hfields => ?_⟩
      -- the elements are records, and as such they are present
      obtain ⟨hrecord, helements⟩ := (hsolid hs).1 hmode hfields
      refine ⟨hrecord, fun vs hv e he => ?_⟩
      obtain ⟨record, rfl⟩ := helements vs hv e he
      exact hbelow True record (.inr ⟨vs, hv, he⟩)

theorem filledAll_of_deepAll (due : Prop) : ∀ (fs : List Field) (record : List (String × Value)),
    DeepAll Admits fs record → (solid → DeepAll ListsRecords fs record) →
      FilledAll solid fs due record
  | [], _, _, _ => trivial
  | f :: fs, record, h, hsolid =>
    ⟨filled_of_deep due f _ h.1 fun hs => (hsolid hs).1,
      filledAll_of_deepAll due fs record h.2 fun hs => (hsolid hs).2⟩

end

mutual

theorem Filled.mono : ∀ {f : Field} {due due' : Prop} {v : Value}, f.Filled solid due v →
    (due' → f.mode = .required → due) → f.Filled solid due' v
  | ⟨_, _, _, _, _⟩, _, _, _, h, hdue =>
    ⟨fun hd hmode => h.1 (hdue hd hmode) hmode,
      fun record hv => (h.2.1 record hv).mono fun hd => ⟨hdue hd.1 hd.2, hd.2⟩, h.2.2⟩

theorem FilledAll.mono : ∀ {fs : List Field} {due due' : Prop} {record : List (String × Value)},
    FilledAll solid fs due record → (due' → due) → FilledAll solid fs due' record
  | [], _, _, _, _, _ => trivial
  | _ :: _, _, _, _, h, hdue => ⟨h.1.mono fun hd _ => hdue hd, h.2.mono hdue⟩

end

mutual

theorem filled_of_not (hsolid : ¬solid) : ∀ (f : Field) {due : Prop} (v : Value),
    (due → f.mode ≠ .required) → f.Filled solid due v
  | ⟨_, _, _, fields, _⟩, _, _, hdue =>
    ⟨fun hd hmode => absurd hmode (hdue hd),
      fun record _ => filledAll_of_not hsolid fields record fun hd => hdue hd.1 hd.2,
      fun hs => absurd hs hsolid⟩

theorem filledAll_of_not (hsolid : ¬solid) : ∀ (fs : List Field) {due : Prop}
    (record : List (String × Value)), ¬due → FilledAll solid fs due record
  | [], _, _, _ => trivial
  | f :: fs, _, record, hdue =>
    ⟨filled_of_not hsolid f _ fun hd => absurd hd hdue, filledAll_of_not hsolid fs record hdue⟩

end

theorem filled_of_fields_nil (hfields : f.fields = []) (hnull : f.mode = .required → v ≠ .null) :
    f.Filled solid due v :=
  filled_iff.2 ⟨fun _ => hnull, fun _ _ => hfields ▸ trivial, fun _ _ h => absurd hfields h⟩

theorem filled_null (h : due → f.mode ≠ .required) : f.Filled solid due .null :=
  filled_iff.2 ⟨fun hd hmode => absurd hmode (h hd), by simp, by simp⟩

theorem Filled.ne_null (h : f.Filled solid True v) (hmode : f.mode = .required) : v ≠ .null :=
  (filled_iff.1 h).1 trivial hmode

theorem Filled.congr (h : f.Filled solid due v) (hmode : g.mode = f.mode)
    (hfields : g.fields = f.fields) : g.Filled solid due v := by
  rw [filled_iff, hmode, hfields]
  exact filled_iff.1 h

theorem Filled.nullable (h : f.Filled solid due v) :
    ({ f with mode := .nullable } : Field).Filled solid due v := by
  refine filled_iff.2 ⟨by simp, fun record hv => ?_, by simp⟩
  exact ((filled_iff.1 h).2.1 record hv).mono (by simp)

theorem Filled.element {vs : List Value} (h : f.Filled solid due (.list vs))
    (hmode : f.mode = .repeated) {e : Value} (he : e ∈ vs) :
    ({ f with mode := .nullable } : Field).Filled solid due' e := by
  by_cases hsolid : solid
  · refine filled_iff.2 ⟨by simp, ?_, by simp⟩
    rintro record rfl
    by_cases hfields : f.fields = []
    · exact hfields ▸ trivial
    · have helement := (((filled_iff.1 h).2.2 hsolid hmode hfields).2 vs rfl _ he)
      exact helement.mono fun _ => trivial
  · exact filled_of_not hsolid _ e (by simp)

variable (solid) in
/-- What fills the one field fills the other. -/
def Covers (f g : Field) : Prop :=
  ∀ v, f.Filled solid True v → g.Filled solid True v

end Field

variable (solid : Prop)

def Conforms (fields : List Field) (row : Row) : Prop :=
  List.Forall₂ (fun f v => f.Filled solid True v) fields row

variable {solid}

namespace Conforms

variable {fields : List Field} {row : Row}

theorem filled (h : Conforms solid fields row) {i : Nat} {f : Field} {v : Value}
    (hf : fields[i]? = some f) (hv : row[i]? = some v) : f.Filled solid True v := by
  induction h generalizing i with
  | nil => cases hf
  | cons hfirst _ ih =>
      cases i with
      | zero =>
          cases hf
          cases hv
          exact hfirst
      | succ i => exact ih (by simpa using hf) (by simpa using hv)

theorem append {fields' : List Field} {row' : Row} (h : Conforms solid fields row)
    (h' : Conforms solid fields' row') : Conforms solid (fields ++ fields') (row ++ row') :=
  List.rel_append h h'

theorem map {F : Field → Field} (h : Conforms solid fields row)
    (hF : ∀ f v, f.Filled solid True v → (F f).Filled solid True v) :
    Conforms solid (fields.map F) row := by
  rw [Conforms, List.forall₂_map_left_iff]
  exact h.imp hF

theorem covered {fields' : List Field} (h : Conforms solid fields row)
    (hcovers : List.Forall₂ (Field.Covers solid) fields fields') : Conforms solid fields' row := by
  induction hcovers generalizing row with
  | nil => exact h
  | cons hfirst _ ih =>
      cases h with
      | cons hv hrow => exact .cons (hfirst _ hv) (ih hrow)

end Conforms

namespace Typing

variable {l r : Schema} {left right : Row}

theorem filled_padded {f : Field} {v : Value} (h : f.Filled solid True v) :
    (padded f).Filled solid True v := by
  unfold padded
  split
  · exact h.nullable
  · exact h

theorem filled_padded_null (f : Field) : (padded f).Filled solid True .null := by
  refine Field.filled_null fun _ => ?_
  unfold padded
  split
  · simp
  · assumption

theorem conforms_owned (h : Conforms solid l.fields left) :
    Conforms solid (l.fields.map l.owned) left :=
  h.map fun _ _ hv => hv.congr rfl rfl

theorem conforms_joined (type : JoinType) (hl : Conforms solid l.fields left)
    (hr : Conforms solid r.fields right) :
    Conforms solid (joinSchema type l r).fields (left ++ right) := by
  cases type with
  | inner => exact (conforms_owned hl).append (conforms_owned hr)
  | left => exact (conforms_owned hl).append ((conforms_owned hr).map fun _ _ => filled_padded)

theorem conforms_unmatched (hl : Conforms solid l.fields left) :
    Conforms solid (joinSchema .left l r).fields (left ++ List.replicate r.size .null) := by
  refine (conforms_owned hl).append ?_
  rw [Conforms, List.forall₂_map_left_iff, List.forall₂_iff_zip]
  refine ⟨by simp [Schema.size], fun {f v} hmem => ?_⟩
  obtain rfl := List.eq_of_mem_replicate (List.of_mem_zip hmem).2
  exact filled_padded_null f

end Typing

namespace Flatten

theorem conforms_splice {fields new : List Field} {row values : Row}
    (h : Conforms solid fields row) (hnew : Conforms solid new values) (i : Nat) :
    Conforms solid (splice fields i new) (splice row i values) :=
  Conforms.append (Conforms.append (List.forall₂_take i h) hnew) (List.forall₂_drop (i + 1) h)

theorem columns_some_eq (names : List String) (element : Value) :
    columns (some names) element = names.map fun name => Value.fieldOrNull name element.nested := by
  cases element <;> rfl

theorem conforms_spread {field : Field} {e : Value}
    (h : Field.FilledAll solid field.fields True e.nested) :
    Conforms solid (field.fields.map (spreadField field))
      (columns (some (field.fields.map (·.name))) e) := by
  rw [columns_some_eq, List.map_map, Conforms, List.forall₂_map_left_iff,
    List.forall₂_map_right_iff, List.forall₂_same]
  exact fun g hg => (Field.filledAll_iff.1 h g hg).congr rfl rfl

theorem conforms_flattened {input : Schema} {path : String} {i : Nat} {field : Field} {l : Layout}
    (hfield : input.resolve path = .ok (i, field))
    (hnested : field.type = .record → solid ∨ ∀ g ∈ field.fields, g.mode ≠ .required)
    (hl : layout input (.string path) = .ok l) {row : Row}
    (hrow : Conforms solid input.fields row) :
    ∀ r ∈ flattenRow l.position l.nested row, Conforms solid l.schema.fields r := by
  intro r hr
  obtain ⟨_, j, g, hpath, hresolve, hmode, rfl⟩ := exists_of_layout hl
  cases hpath
  obtain ⟨rfl, rfl⟩ : i = j ∧ field = g := by simpa [hfield] using hresolve
  unfold flattenRow at hr
  split at hr
  · next elements helements =>
      obtain ⟨element, helement, rfl⟩ := List.mem_map.1 hr
      have hfilled := hrow.filled (Schema.resolve_eq_ok hfield) helements
      refine conforms_splice hrow ?_ i
      unfold nestedNames spread
      split
      · next htype =>
          refine conforms_spread ?_
          -- an element that is no record leaves NULL in all columns
          by_cases hsolid : solid
          · by_cases hfields : field.fields = []
            · exact hfields ▸ trivial
            · exact ((Field.filled_iff.1 hfilled).2.2 hsolid hmode hfields).2 elements rfl
                element helement
          · exact Field.filledAll_iff.2 fun g hg =>
              Field.filled_of_not hsolid g _ fun _ => (hnested htype).resolve_left hsolid g hg
      · exact .cons (hfilled.element hmode helement) .nil
  · cases hr

end Flatten

end QueryEngine
