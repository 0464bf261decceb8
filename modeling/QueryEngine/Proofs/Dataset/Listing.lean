import QueryEngine.Proofs.Alignment.Datasets
import QueryEngine.Proofs.Dataset.Accepted

namespace QueryEngine

open Plan

namespace Assoc

variable {α β : Type} {m m' : Assoc α}

def names (m : Assoc α) : List String :=
  m.map (·.1)

theorem get?_cons (p : String × α) (m : Assoc α) (name : String) :
    get? (p :: m) name = if p.1 = name then some p.2 else m.get? name := by
  by_cases h : p.1 = name <;> simp [get?, h]

theorem get?_append (m m' : Assoc α) (name : String) :
    get? (m ++ m') name = (m.get? name).or (m'.get? name) := by
  simp only [get?, List.find?_append]
  cases m.find? (·.1 = name) <;> rfl

theorem get?_map (f : α → β) (m : Assoc α) (name : String) :
    get? (m.map fun p => (p.1, f p.2)) name = (m.get? name).map f := by
  induction m with
  | nil => rfl
  | cons p m ih =>
      rw [List.map_cons, get?_cons, get?_cons, ih]
      split <;> rfl

theorem get?_eq_none_iff {name : String} : m.get? name = none ↔ name ∉ m.names := by
  simp only [get?, names, Option.map_eq_none_iff, List.find?_eq_none, decide_eq_true_eq,
    List.mem_map, not_exists, not_and]

theorem get?_eq_some_iff (h : m.names.Nodup) {name : String} {a : α} :
    m.get? name = some a ↔ (name, a) ∈ m := by
  induction m with
  | nil => simp [get?]
  | cons p m ih =>
      obtain ⟨hp, hm⟩ := List.nodup_cons.1 h
      rw [get?_cons, List.mem_cons, ← ih hm, Prod.ext_iff]
      split
      · next hn =>
          subst hn
          simp [get?_eq_none_iff.2 hp, eq_comm]
      · next hn => simp [Ne.symm hn]

theorem get?_of_perm (hperm : m.Perm m') (h : m.names.Nodup) (name : String) :
    m.get? name = m'.get? name := by
  have h' : m'.names.Nodup := (hperm.map _).nodup h
  apply Option.ext
  intro a
  rw [get?_eq_some_iff h, get?_eq_some_iff h', hperm.mem_iff]

theorem nodup_names_sorted (h : m.names.Nodup) : (names m.sorted).Nodup :=
  ((List.mergeSort_perm m _).symm.map _).nodup h

theorem get?_sorted (h : m.names.Nodup) (name : String) : get? m.sorted name = m.get? name :=
  (get?_of_perm (List.mergeSort_perm m _).symm h name).symm

theorem nodup_names_erase (h : m.names.Nodup) (name : String) : (m.erase name).names.Nodup :=
  h.sublist (List.filter_sublist.map _)

theorem nodup_names_insert (h : m.names.Nodup) (name : String) (a : α) :
    (m.insert name a).names.Nodup :=
  List.nodup_cons.2 ⟨get?_eq_none_iff.1 (by simp), nodup_names_erase h name⟩

theorem sublist_names_filterMap (f : α → Option β) (m : Assoc α) :
    (names (m.filterMap fun p => (f p.2).map (p.1, ·))).Sublist m.names := by
  induction m with
  | nil => exact .refl _
  | cons p m ih =>
      rw [List.filterMap_cons]
      cases f p.2 with
      | none => exact ih.cons _
      | some b => exact ih.cons_cons _

theorem get?_filterMap (f : α → Option β) (h : m.names.Nodup) (name : String) :
    get? (m.filterMap fun p => (f p.2).map (p.1, ·)) name = (m.get? name).bind f := by
  induction m with
  | nil => rfl
  | cons p m ih =>
      obtain ⟨hp, hm⟩ := List.nodup_cons.1 h
      rw [List.filterMap_cons, get?_cons]
      cases hf : f p.2 with
      | none =>
          simp only [Option.map_none, ih hm]
          split
          · next hn =>
              subst hn
              simp [hf, get?_eq_none_iff.2 hp]
          · rfl
      | some b =>
          simp only [Option.map_some, get?_cons, ih hm]
          split <;> simp [hf]

end Assoc

/-- An adapter lists what it looks up. -/
def Adapter.Lists (a : Adapter) : Prop :=
  ∀ name, Assoc.get? a.relations name = a.schema? name

namespace MemoryStore

variable {m : MemoryStore}

theorem Built.nodup_names (h : m.Built) : m.tables.names.Nodup := by
  induction h with
  | new => exact List.nodup_nil
  | addTable table fields rows _ hadd ih =>
      obtain ⟨filled, -, hadd⟩ := bind_eq_ok.1 hadd
      cases hadd
      exact Assoc.nodup_names_insert ih _ _

theorem Built.lists_adapter (h : m.Built) : m.adapter.Lists := by
  intro name
  calc Assoc.get? m.adapter.relations name
      = (Assoc.get? m.tables.sorted name).map (·.schema) :=
        Assoc.get?_map MemoryTable.schema m.tables.sorted name
    _ = (m.tables.get? name).map (·.schema) := by rw [Assoc.get?_sorted h.nodup_names]

end MemoryStore

theorem Document.lists_adapter : adapter.Lists := by
  intro name
  simp only [adapter, Assoc.get?_cons, eq_comm]
  rfl

namespace Dataset

variable {d : Dataset} {qs : List Query}

theorem get?_flatMap_relations {as : List Adapter} (h : ∀ a ∈ as, a.Lists) (name : String) :
    Assoc.get? (as.flatMap (·.relations)) name =
      (as.find? (·.has name)).bind (·.schema? name) := by
  induction as with
  | nil => rfl
  | cons a as ih =>
      rw [List.flatMap_cons, Assoc.get?_append, h a List.mem_cons_self name,
        ih fun b hb => h b (List.mem_cons_of_mem a hb), List.find?_cons, Adapter.has]
      cases hs : a.schema? name with
      | none => rfl
      | some s => simp [hs]

theorem get?_unseen (seen : List String) (l : List (String × Schema)) (name : String) :
    Assoc.get? (unseen seen l) name = if name ∈ seen then none else Assoc.get? l name := by
  induction l generalizing seen with
  | nil => simp [unseen, Assoc.get?]
  | cons p l ih =>
      obtain ⟨n, s⟩ := p
      rw [unseen]
      split
      · next hn =>
          rw [ih, Assoc.get?_cons]
          have hn : n ∈ seen := List.contains_iff_mem.1 hn
          split
          · rfl
          · next hname => rw [if_neg (ne_of_mem_of_not_mem hn hname)]
      · next hn =>
          rw [Assoc.get?_cons, Assoc.get?_cons, ih]
          have hn : n ∉ seen := fun h => hn (List.contains_iff_mem.2 h)
          by_cases hname : n = name
          · subst hname
            simp [hn]
          · simp [hname, Ne.symm hname]

theorem nodup_names_unseen (seen : List String) (l : List (String × Schema)) :
    (Assoc.names (unseen seen l)).Nodup := by
  induction l generalizing seen with
  | nil => exact List.nodup_nil
  | cons p l ih =>
      obtain ⟨n, s⟩ := p
      rw [unseen]
      split
      · exact ih seen
      · refine List.nodup_cons.2 ⟨Assoc.get?_eq_none_iff.1 ?_, ih (n :: seen)⟩
        rw [get?_unseen, if_pos List.mem_cons_self]

def listedViews (d : Dataset) : Assoc Schema :=
  d.views.sorted.filterMap fun p => p.2.schema?.map (p.1, ·)

theorem relations_eq (d : Dataset) : d.relations =
    d.listedViews ++ unseen d.listedViews.names (d.adapters.flatMap (·.relations)) :=
  rfl

theorem get?_listedViews (h : d.views.names.Nodup) (name : String) :
    d.listedViews.get? name = (d.view? name).bind schema? := by
  rw [listedViews, Assoc.get?_filterMap _ (Assoc.nodup_names_sorted h), Assoc.get?_sorted h]
  rfl

theorem nodup_names_relations (h : d.views.names.Nodup) : (Assoc.names d.relations).Nodup := by
  rw [relations_eq, Assoc.names, List.map_append, List.nodup_append]
  refine ⟨(Assoc.nodup_names_sorted h).sublist (Assoc.sublist_names_filterMap _ _),
    nodup_names_unseen _ _, ?_⟩
  rintro n hn _ hunseen rfl
  refine Assoc.get?_eq_none_iff.1 ?_ hunseen
  rw [get?_unseen]
  exact if_pos hn

theorem get?_relations (h : d.views.names.Nodup) (hd : ∀ a ∈ d.adapters, a.Lists)
    (name : String) : Assoc.get? d.relations name =
      ((d.view? name).bind schema?).or ((d.adapterFor? name).bind (·.schema? name)) := by
  rw [relations_eq, Assoc.get?_append, get?_listedViews h, get?_unseen,
    get?_flatMap_relations hd, adapterFor?]
  cases hview : (d.view? name).bind schema? with
  | some s => rfl
  | none =>
      rw [← get?_listedViews h, Assoc.get?_eq_none_iff] at hview
      rw [if_neg hview]

/-- What a name means: its view, or else the relation of the first adapter that knows it. -/
def Provides (d : Dataset) (name : String) (s : Schema) : Prop :=
  (∃ v, d.view? name = some v ∧ v.schema? = some s) ∨
    d.view? name = none ∧ ∃ before a after, d.adapters = before ++ a :: after ∧
      (∀ b ∈ before, b.schema? name = none) ∧ a.schema? name = some s

theorem bind_adapterFor?_eq_some_iff {name : String} {s : Schema} :
    (d.adapterFor? name).bind (·.schema? name) = some s ↔
      ∃ before a after, d.adapters = before ++ a :: after ∧
        (∀ b ∈ before, b.schema? name = none) ∧ a.schema? name = some s := by
  simp only [adapterFor?, Option.bind_eq_some_iff, List.find?_eq_some_iff_append, Adapter.has,
    Bool.not_eq_true', Option.isSome_eq_false_iff, Option.isNone_iff_eq_none]
  constructor
  · rintro ⟨a, ⟨-, before, after, hadapters, hbefore⟩, hs⟩
    exact ⟨before, a, after, hadapters, hbefore, hs⟩
  · rintro ⟨before, a, after, hadapters, hbefore, hs⟩
    exact ⟨a, ⟨by simp [hs], before, after, hadapters, hbefore⟩, hs⟩

theorem schema_eq_ok_iff {name : String} {s : Schema} :
    d.schema name = .ok s ↔ d.Provides name s := by
  rw [Provides, ← bind_adapterFor?_eq_some_iff, schema]
  cases d.view? name with
  | some v => cases hs : v.schema? <;> simp [outputSchema, hs]
  | none => cases (d.adapterFor? name).bind (·.schema? name) <;> simp

theorem Assembled.nodup_names_views (h : Assembled d qs) : d.views.names.Nodup := by
  induction h with
  | new | withBuiltins => exact List.nodup_nil
  | withConfig _ _ ih | addAdapter _ _ _ _ ih | addScalar _ _ ih | addAggregate _ _ ih
  | addTable _ _ ih | query _ _ _ _ _ ih => exact ih
  | createView _ name p _ _ hcreate ih =>
      obtain ⟨v, -, rfl⟩ := createViewIn_eq_ok.1 hcreate
      exact Assoc.nodup_names_insert ih _ _
  | dropView name _ ih => exact Assoc.nodup_names_erase ih _
  | storeQuery name q _ _ ih => exact Assoc.nodup_names_insert ih _ _

/-- The listing of a dataset over stores and documents has each name once, with the schema that the
name is looked up with: that of its view, or else that of the first adapter that knows it. -/
theorem mem_relations_iff (h : Assembled d qs)
    (hd : ∀ a ∈ d.adapters, (∃ m : MemoryStore, m.Built ∧ a = m.adapter) ∨ a = Document.adapter) :
    (d.relations.map (·.1)).Nodup ∧ ∀ name s,
      ((name, s) ∈ d.relations ↔ d.schema name = .ok s) ∧
        (d.schema name = .ok s ↔ d.Provides name s) := by
  have hnames := nodup_names_relations h.nodup_names_views
  have hlists : ∀ a ∈ d.adapters, a.Lists := by
    intro a ha
    rcases hd a ha with ⟨m, hm, rfl⟩ | rfl
    · exact hm.lists_adapter
    · exact Document.lists_adapter
  refine ⟨hnames, fun name s => ⟨?_, schema_eq_ok_iff⟩⟩
  rw [← Assoc.get?_eq_some_iff hnames, get?_relations h.nodup_names_views hlists, schema_eq_ok_iff,
    Provides, ← bind_adapterFor?_eq_some_iff]
  cases hview : d.view? name with
  | none => simp
  | some v =>
      -- a view without schema would be left out of the listing, and not hide what it hides in lookup
      obtain ⟨s', hs'⟩ := (h.everywhere.1 name v hview).here
      simp [hs']

theorem mem_relations_iff_shadowed :
    let integers : List Field := [{ name := "n", type := .integer }]
    let strings : List Field := [{ name := "s", type := .string }]
    let first : MemoryStore := ⟨"first", [("numbers", ⟨⟨some "numbers", integers⟩, []⟩)]⟩
    let second : MemoryStore := ⟨"second", [("numbers", ⟨⟨some "numbers", strings⟩, []⟩),
      ("docs", ⟨⟨some "docs", strings⟩, []⟩)]⟩
    let d := ((({} : Dataset).addAdapter first.adapter).addAdapter second.adapter).addAdapter
      Document.adapter
    ∃ d', d.createView "docs" (.load "numbers" none) = .ok d' ∧ Assembled d' [] ∧
      (∀ a ∈ d'.adapters, (∃ m : MemoryStore, m.Built ∧ a = m.adapter) ∨ a = Document.adapter) ∧
      (d'.relations.map (·.1)).Nodup ∧ ("numbers", ⟨some "numbers", integers⟩) ∈ d'.relations ∧
      ("docs", ⟨some "numbers", integers⟩) ∈ d'.relations := by
  intro integers strings first second d
  have hfirst : first.Built := .addTable "numbers" integers [] (.new "first") rfl
  have hsecond : second.Built :=
    .addTable "numbers" strings [] (.addTable "docs" strings [] (.new "second") rfl) rfl
  have hd : Assembled d [] := by
    refine .addAdapter _ (.addAdapter _ (.addAdapter _ .new ?_ ?_) ?_ ?_)
      Document.asksForVisits_adapter Document.keepsRooted_adapter
    · exact first.asksForVisits_adapter
    · exact first.keepsRooted_adapter
    · exact second.asksForVisits_adapter
    · exact second.keepsRooted_adapter
  obtain ⟨v, hcreate, hv⟩ : ∃ v, d.createView "docs" (.load "numbers" none) =
      .ok (d.insertView "docs" v) ∧ v.schema? = some ⟨some "numbers", integers⟩ := by
    simp only [d, first, second, integers]
    exact ⟨_, rfl, rfl⟩
  have hd' := hd.createView _ "docs" _ (by simp) hcreate
  have hadapters : ∀ a ∈ (d.insertView "docs" v).adapters,
      (∃ m : MemoryStore, m.Built ∧ a = m.adapter) ∨ a = Document.adapter := by
    intro a ha
    simp only [d, Dataset.insertView, addAdapter, List.nil_append, List.cons_append, List.mem_cons,
      List.not_mem_nil, or_false] at ha
    rcases ha with rfl | rfl | rfl
    · exact .inl ⟨first, hfirst, rfl⟩
    · exact .inl ⟨second, hsecond, rfl⟩
    · exact .inr rfl
  obtain ⟨hnodup, hmem⟩ := mem_relations_iff hd' hadapters
  refine ⟨d.insertView "docs" v, hcreate, hd', hadapters, hnodup, ?_, ?_⟩
  · refine (hmem "numbers" _).1.2 ((hmem "numbers" _).2.2 (.inr ⟨?_, [], first.adapter, _, rfl, ?_, ?_⟩))
    · rw [view?_insertView]
      rfl
    · simp
    · rfl
  · refine (hmem "docs" _).1.2 ((hmem "docs" _).2.2 (.inl ⟨v, ?_, hv⟩))
    simp [view?_insertView]

end Dataset

end QueryEngine
