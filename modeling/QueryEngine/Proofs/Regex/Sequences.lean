import QueryEngine.Proofs.Regex.Matching
import QueryEngine.Regex.Build

namespace QueryEngine.Regex

section

variable {cs : List Char} {i j : Nat}

theorem spansSeq_append (rs rs' : List Regex) :
    SpansSeq cs (rs ++ rs') i j ↔ ∃ m, SpansSeq cs rs i m ∧ SpansSeq cs rs' m j := by
  induction rs generalizing i with
  | nil => simp [SpansSeq]
  | cons r rs ih =>
      simp only [List.cons_append, SpansSeq, ih]
      constructor
      · rintro ⟨m, hm, p, hp, hj⟩
        exact ⟨p, ⟨m, hm, hp⟩, hj⟩
      · rintro ⟨p, ⟨m, hm, hp⟩, hj⟩
        exact ⟨m, hm, p, hp, hj⟩

@[simp] theorem spansSeq_singleton (r : Regex) : SpansSeq cs [r] i j ↔ Spans cs r i j := by
  simp [SpansSeq]

theorem spansSeq_items (r : Regex) : SpansSeq cs r.items i j ↔ Spans cs r i j := by
  cases r <;> simp [items, Spans, SpansSeq]

theorem spansSeq_flatMap_items (rs : List Regex) :
    SpansSeq cs (rs.flatMap items) i j ↔ SpansSeq cs rs i j := by
  induction rs generalizing i with
  | nil => rfl
  | cons r rs ih => simp only [List.flatMap_cons, spansSeq_append, spansSeq_items, ih, SpansSeq]

theorem spans_text_nil : Spans cs (text []) i j ↔ i = j := by
  simp [Spans, eq_comm]

theorem spans_text_append (ds es : List Char) :
    Spans cs (text (ds ++ es)) i j ↔ SpansSeq cs [text ds, text es] i j := by
  simp only [SpansSeq, Spans, exists_eq_right]
  induction ds generalizing i with
  | nil => simp
  | cons d ds ih =>
      have ih := @ih (i + 1)
      simp only [List.cons_append, cons_prefix_drop, List.length_cons, List.length_append] at ih ⊢
      grind

namespace Joining

def read (k : Joining) : List Regex :=
  k.parts.reverse ++ [text k.tail.reverse]

theorem spansSeq_close (k : Joining) : SpansSeq cs k.close.reverse i j ↔ SpansSeq cs k.read i j := by
  rw [close, read]
  split
  · next htail =>
      rw [List.isEmpty_iff.1 htail, spansSeq_append]
      simp [spans_text_nil]
  · rw [List.reverse_cons]

theorem add_of_ne_text (k : Joining) {r : Regex} (hr : ∀ ds, r ≠ text ds) :
    k.add r = { parts := r :: k.close } := by
  cases r with
  | text ds => exact absurd rfl (hr ds)
  | _ => rfl

theorem spansSeq_add (k : Joining) (r : Regex) :
    SpansSeq cs (k.add r).read i j ↔ SpansSeq cs (k.read ++ [r]) i j := by
  by_cases hr : ∃ ds, r = text ds
  · obtain ⟨ds, rfl⟩ := hr
    have hread : (k.add (text ds)).read = k.parts.reverse ++ [text (k.tail.reverse ++ ds)] := by
      simp [add, read, List.reverseAux_eq]
    rw [hread, read, List.append_assoc, spansSeq_append, spansSeq_append]
    simp only [spansSeq_singleton, spans_text_append]
    rfl
  · rw [k.add_of_ne_text (not_exists.1 hr), spansSeq_append]
    simp only [read, List.reverse_cons, List.reverse_nil, spansSeq_append, spansSeq_singleton,
      spans_text_nil, exists_eq_right, spansSeq_close]

theorem spansSeq_foldl (k : Joining) (rs : List Regex) :
    SpansSeq cs (rs.foldl add k).read i j ↔ SpansSeq cs (k.read ++ rs) i j := by
  induction rs generalizing k with
  | nil => rw [List.foldl_nil, List.append_nil]
  | cons r rs ih =>
      rw [List.foldl_cons, ih, List.append_cons, spansSeq_append, spansSeq_append]
      simp only [spansSeq_add]

end Joining

theorem spansSeq_joinTexts (rs : List Regex) :
    SpansSeq cs (joinTexts rs) i j ↔ SpansSeq cs rs i j := by
  rw [joinTexts, Joining.spansSeq_close, Joining.spansSeq_foldl, spansSeq_append]
  simp [Joining.read, spans_text_nil]

theorem spans_concat (rs : List Regex) : Spans cs (concat rs) i j ↔ SpansSeq cs rs i j := by
  rw [← spansSeq_flatMap_items rs, ← spansSeq_joinTexts, concat]
  cases joinTexts (rs.flatMap items) with
  | nil => simp [Spans, SpansSeq]
  | cons r rs =>
      cases rs with
      | nil => simp
      | cons r' rs => simp [Spans]

end

end QueryEngine.Regex
