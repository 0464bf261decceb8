import QueryEngine.Physical.Basic
import QueryEngine.Proofs.Physical.Sorting
import QueryEngine.Proofs.Value.Equality

namespace QueryEngine

open Std Value

namespace SortKey

/-- The values of some keys come before others: where the two first differ, they have the lesser
value, or the greater one if that key descends. -/
inductive Precedes : List SortKey → List Value → List Value → Prop
  | ascending {k : SortKey} {a b : Value} (hk : k.descending = false) (h : a.cmp b = .lt)
      (ks : List SortKey) (as bs : List Value) : Precedes (k :: ks) (a :: as) (b :: bs)
  | descending {k : SortKey} {a b : Value} (hk : k.descending = true) (h : b.cmp a = .lt)
      (ks : List SortKey) (as bs : List Value) : Precedes (k :: ks) (a :: as) (b :: bs)
  | same (k : SortKey) {a b : Value} (hab : a.same b = true) {ks : List SortKey}
      {as bs : List Value} (h : Precedes ks as bs) : Precedes (k :: ks) (a :: as) (b :: bs)

def InOrder (keys : List SortKey) (as bs : List Value) : Prop :=
  sameList as bs = true ∨ Precedes keys as bs

variable {keys : List SortKey} {as bs cs : List Value}

theorem compareKeys_eq_lt : compareKeys keys as bs = .lt ↔ Precedes keys as bs := by
  induction keys generalizing as bs with
  | nil => exact ⟨nofun, nofun⟩
  | cons k ks ih =>
      match as, bs with
      | [], _ | _ :: _, [] => exact ⟨nofun, nofun⟩
      | a :: as, b :: bs =>
          rw [compareKeys, Ordering.then_eq_lt, ih]
          constructor
          · intro h
            cases hk : k.descending <;> simp only [hk, if_true, if_false, Bool.false_eq_true] at h
            · rcases h with h | ⟨h, hrest⟩
              · exact .ascending hk h ks as bs
              · exact .same k (by simp [Value.same, h]) hrest
            · rcases h with h | ⟨h, hrest⟩
              · exact .descending hk h ks as bs
              · exact .same k (by rw [same_comm]; simp [Value.same, h]) hrest
          · rintro (⟨hk, h⟩ | ⟨hk, h⟩ | ⟨-, hab, hrest⟩)
            · exact .inl (by simp [hk, h])
            · exact .inl (by simp [hk, h])
            · have hba : b.same a = true := by rwa [same_comm]
              refine .inr ⟨?_, hrest⟩
              simp only [Value.same, beq_iff_eq] at hab hba
              simp [hab, hba]

theorem compareKeys_eq_eq (ha : as.length = keys.length) (hb : bs.length = keys.length) :
    compareKeys keys as bs = .eq ↔ sameList as bs = true := by
  induction keys generalizing as bs with
  | nil =>
      rw [List.eq_nil_of_length_eq_zero ha, List.eq_nil_of_length_eq_zero hb]
      exact ⟨fun _ => rfl, fun _ => rfl⟩
  | cons k ks ih =>
      match as, bs with
      | [], _ => cases ha
      | _ :: _, [] => cases hb
      | a :: as, b :: bs =>
          simp only [List.length_cons, Nat.add_right_cancel_iff] at ha hb
          rw [compareKeys, Ordering.then_eq_eq, ih ha hb, sameList_cons, Bool.and_eq_true]
          refine and_congr_left' ?_
          cases k.descending with
          | false => simp [Value.same]
          | true => rw [same_comm]; simp [Value.same]

theorem compareKeys_isLE (ha : as.length = keys.length) (hb : bs.length = keys.length) :
    (compareKeys keys as bs).isLE ↔ InOrder keys as bs := by
  rw [InOrder, ← compareKeys_eq_eq ha hb, ← compareKeys_eq_lt]
  cases compareKeys keys as bs <;> simp

theorem compareKeys_total_preorder (ha : as.length = keys.length) (hb : bs.length = keys.length)
    (hc : cs.length = keys.length) :
    compareKeys keys bs as = (compareKeys keys as bs).swap ∧
      ((compareKeys keys as bs).isLE → (compareKeys keys bs cs).isLE →
        (compareKeys keys as cs).isLE) := by
  have htrans := transCmp_comparePadded keys
  rw [compareKeys_eq_comparePadded ha hb, compareKeys_eq_comparePadded hb ha,
    compareKeys_eq_comparePadded hb hc, compareKeys_eq_comparePadded ha hc]
  exact ⟨htrans.eq_swap, htrans.isLE_trans⟩

theorem comparePadded_total (keys : List SortKey) (as bs : List Value) :
    (comparePadded keys as bs).isLE || (comparePadded keys bs as).isLE := by
  rw [(transCmp_comparePadded keys).eq_swap (a := bs)]
  cases comparePadded keys as bs <;> rfl

end SortKey

theorem Value.sameList_self (as : List Value) : sameList as as = true :=
  sameList_iff.2 rfl

/-- Two arrangements of a list are equal if both follow a relation, and elements that it puts in
either order have the same order in both. -/
theorem eq_of_perm_of_filter {α : Type} {r : α → α → Prop} (same : α → α → Bool)
    (hrefl : ∀ a, same a a = true) {l l' : List α} (hperm : l.Perm l')
    (hsame : ∀ a ∈ l, ∀ b ∈ l, r a b → r b a → same b a = true) (h : l.Pairwise r)
    (h' : l'.Pairwise r) (hfilter : ∀ a, (l.filter (same · a)) = l'.filter (same · a)) : l = l' := by
  induction l generalizing l' with
  | nil => exact hperm.nil_eq
  | cons a l ih =>
      match l' with
      | [] => exact absurd hperm.eq_nil (List.cons_ne_nil a l)
      | b :: l' =>
          obtain ⟨ha, hl⟩ := List.pairwise_cons.1 h
          obtain ⟨hb, hl'⟩ := List.pairwise_cons.1 h'
          have hab : a = b := by
            by_contra hne
            have hbl : b ∈ l := by
              have hmem : b ∈ a :: l := hperm.mem_iff.2 List.mem_cons_self
              exact (List.mem_cons.1 hmem).resolve_left (Ne.symm hne)
            have hal : a ∈ l' := by
              have hmem : a ∈ b :: l' := hperm.mem_iff.1 List.mem_cons_self
              exact (List.mem_cons.1 hmem).resolve_left hne
            have hba : same b a = true :=
              hsame a List.mem_cons_self b (List.mem_cons_of_mem a hbl) (ha b hbl) (hb a hal)
            -- of the elements that may change places with `a`, both lists have the first in front
            have hheads := hfilter a
            simp only [List.filter_cons, hrefl a, hba, if_true, List.cons.injEq] at hheads
            exact hne hheads.1
          subst hab
          have htails : ∀ c, l.filter (same · c) = l'.filter (same · c) := by
            intro c
            have hc := hfilter c
            cases hac : same a c with
            | false => simpa [hac] using hc
            | true => simpa [hac] using hc
          rw [ih hperm.cons_inv (fun c hc d hd => hsame c (List.mem_cons_of_mem a hc) d
            (List.mem_cons_of_mem a hd)) hl hl' htails]

open SortKey

/-- An arrangement of rows in the order of their keys, in which rows with the same key stand in the
order in which they came. -/
structure StablySorted (keys : List SortKey) (keyOf : Row → List Value) (rs sorted : List Row) :
    Prop where
  perm : sorted.Perm rs
  ordered : sorted.Pairwise fun r r' => InOrder keys (keyOf r) (keyOf r')
  stable : ∀ key, sorted.filter (fun r => sameList (keyOf r) key) =
    rs.filter fun r => sameList (keyOf r) key

namespace StablySorted

variable {keys : List SortKey} {keyOf : Row → List Value} {rs sorted other : List Row}

theorem mergeSort (hlength : ∀ r ∈ rs, (keyOf r).length = keys.length) :
    StablySorted keys keyOf rs
      (rs.mergeSort fun r r' => (comparePadded keys (keyOf r) (keyOf r')).isLE) := by
  have htrans (r r' r'' : Row) := (transCmp_comparePadded keys).isLE_trans
    (a := keyOf r) (b := keyOf r') (c := keyOf r'')
  have htotal (r r' : Row) := comparePadded_total keys (keyOf r) (keyOf r')
  have hle : ∀ r ∈ rs, ∀ r' ∈ rs,
      (comparePadded keys (keyOf r) (keyOf r')).isLE ↔ InOrder keys (keyOf r) (keyOf r') := by
    intro r hr r' hr'
    rw [← compareKeys_eq_comparePadded (hlength r hr) (hlength r' hr'),
      compareKeys_isLE (hlength r hr) (hlength r' hr')]
  refine ⟨List.mergeSort_perm _ _, ?_, fun key => ?_⟩
  · refine (List.pairwise_mergeSort htrans htotal rs).imp_of_mem fun hr hr' h => ?_
    exact (hle _ (List.mem_mergeSort.1 hr) _ (List.mem_mergeSort.1 hr')).1 h
  · rw [filter_mergeSort htrans htotal]
    -- rows with one key are in order as they stand
    apply List.mergeSort_of_pairwise
    refine List.pairwise_of_forall_mem_list fun r hr r' hr' => ?_
    obtain ⟨hr, hkey⟩ := List.mem_filter.1 hr
    obtain ⟨hr', hkey'⟩ := List.mem_filter.1 hr'
    exact (hle r hr r' hr').2 (.inl (by rwa [sameList_congr_left hkey, sameList_comm]))

theorem unique (hlength : ∀ r ∈ rs, (keyOf r).length = keys.length)
    (h : StablySorted keys keyOf rs sorted) (h' : StablySorted keys keyOf rs other) :
    other = sorted := by
  refine eq_of_perm_of_filter (fun r r' => sameList (keyOf r) (keyOf r'))
    (fun r => sameList_self (keyOf r)) (h'.perm.trans h.perm.symm) (fun r hr r' hr' hle hge => ?_)
    h'.ordered h.ordered fun r => (h'.stable (keyOf r)).trans (h.stable (keyOf r)).symm
  have hr := hlength r (h'.perm.mem_iff.1 hr)
  have hr' := hlength r' (h'.perm.mem_iff.1 hr')
  rw [← compareKeys_isLE hr hr'] at hle
  rw [← compareKeys_isLE hr' hr, (compareKeys_total_preorder hr hr' hr).1] at hge
  rw [sameList_comm, ← compareKeys_eq_eq hr hr']
  cases hc : compareKeys keys (keyOf r) (keyOf r') <;> simp_all

end StablySorted

namespace Physical

variable {ctx : Context} {keys : List SortKey} {keyOf : Row → List Value} {rs : List Row}

/-- Where the keys of all rows have values, a sort hands out the rows of its input stably sorted, and
there is no other such arrangement of them: the order of keys is a total preorder. -/
theorem execute_sort {input : Physical} {rows : Rows} (hrows : execute ctx input = .ok rows)
    (hrs : rows.toList = rs.map .ok)
    (hkeys : ∀ r ∈ rs, Scalar.evalList ctx r (keys.map (·.expr)) = .ok (keyOf r)) :
    ∃ (result : Rows) (sorted : List Row), execute ctx (.sort input keys) = .ok result ∧
      result.toList = sorted.map .ok ∧ StablySorted keys keyOf rs sorted ∧
      (∀ other, StablySorted keys keyOf rs other → other = sorted) ∧
      ∀ as bs cs : List Value, as.length = keys.length → bs.length = keys.length →
        cs.length = keys.length → compareKeys keys bs as = (compareKeys keys as bs).swap ∧
          ((compareKeys keys as bs).isLE → (compareKeys keys bs cs).isLE →
            (compareKeys keys as cs).isLE) := by
  have hlength : ∀ r ∈ rs, (keyOf r).length = keys.length := by
    intro r hr
    simpa using Rows.length_evalList (hkeys r hr)
  have hsorted := StablySorted.mergeSort hlength
  refine ⟨_, _, rfl, ?_, hsorted, fun other hother => hsorted.unique hlength hother,
    fun as bs cs ha hb hc => compareKeys_total_preorder ha hb hc⟩
  rw [hrows, Rows.toList_delay]
  refine (Rows.toList_sortOnto_of_rows hrs).trans ?_
  rw [Rows.sortRows_eq hkeys]

/-- The first key descends and puts NULL last, the second one ascends. The rows with an integer and
the float that it equals keep their order. -/
theorem execute_sort_mixed_directions :
    let rs : List Row := [[.float (Binary64.ofInt 1), .string "b", .integer 0],
      [.null, .string "a", .integer 1], [.integer 1, .string "b", .integer 2],
      [.integer 1, .string "a", .integer 3], [.integer 2, .string "c", .integer 4]]
    let sorted : List Row := [[.integer 2, .string "c", .integer 4],
      [.integer 1, .string "a", .integer 3], [.float (Binary64.ofInt 1), .string "b", .integer 0],
      [.integer 1, .string "b", .integer 2], [.null, .string "a", .integer 1]]
    let keys : List SortKey := [⟨.column 0, true⟩, ⟨.column 1, false⟩]
    (∀ r ∈ rs, Scalar.evalList {} r (keys.map (·.expr)) = .ok (r.take 2)) ∧
      StablySorted keys (List.take 2) rs sorted ∧
      ∃ result, execute {} (.sort (.scan ⟨.ok (.ofRows rs)⟩) keys) = .ok result ∧
        result.toList = sorted.map .ok := by
  intro rs expected keys
  have hkeys : ∀ r ∈ rs, Scalar.evalList {} r (keys.map (·.expr)) = .ok (r.take 2) := by
    simp only [rs, List.mem_cons, List.not_mem_nil, or_false]
    rintro r (rfl | rfl | rfl | rfl | rfl) <;> rfl
  have hrows : execute {} (.scan ⟨.ok (.ofRows rs)⟩) = .ok (.ofRows rs) := rfl
  obtain ⟨result, sorted, hresult, hlist, hsorted, -, -⟩ :=
    execute_sort hrows (Rows.toList_ofRows rs) hkeys
  -- `mergeSort` does not reduce, so it is evaluated from the comparisons that it makes
  have hmerge {a b c d e : Row} {le : Row → Row → Bool} (hab : le a b = true)
      (hac : le a c = true) (hbc : le b c = false) (hde : le d e = false) (hae : le a e = false)
      (had : le a d = false) : [a, b, c, d, e].mergeSort le = [e, d, a, c, b] := by
    simp [List.mergeSort, List.MergeSort.Internal.splitInTwo, hab, hac, hbc, hde, hae, had]
  have hexpected : result.toList = expected.map .ok := by
    have hsort : result.toList = (Rows.sortOnto {} keys [] (.ofRows rs)).toList := by
      cases hresult
      rfl
    rw [hsort, Rows.toList_sortOnto_of_rows (Rows.toList_ofRows rs), Rows.sortRows_eq hkeys,
      hmerge rfl rfl rfl rfl rfl rfl]
  obtain rfl : sorted = expected :=
    (List.map_injective_iff.2 fun _ _ => Except.ok.inj) (hlist.symm.trans hexpected)
  exact ⟨hkeys, hsorted, result, hresult, hlist⟩

end Physical

end QueryEngine
