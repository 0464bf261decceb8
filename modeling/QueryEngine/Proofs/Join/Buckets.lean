import Mathlib.Data.List.Forall2
import QueryEngine.Proofs.Except
import QueryEngine.Proofs.Join.Table

namespace QueryEngine

namespace Value

theorem sameList_iff_forall₂ {as bs : List Value} :
    sameList as bs = true ↔ List.Forall₂ (fun a b => a.same b = true) as bs := by
  induction as generalizing bs with
  | nil => cases bs <;> simp [sameList, cmpList]
  | cons a as ih =>
      cases bs with
      | nil => simp [sameList, cmpList]
      | cons b bs => rw [sameList_cons, Bool.and_eq_true, List.forall₂_cons, ih]

end Value

namespace JoinTable

open Value

/-- The entries of the bucket of a hash: every key hashes to it, and no two keys are equal. -/
structure BucketOf (h : UInt64) (entries : List (List Value × List Row)) : Prop where
  placed : ∀ k ∈ entries.map (·.1), keyHash k = h
  apart : (entries.map (·.1)).Pairwise fun k l => sameList k l = false

def WellPlaced (t : JoinTable) : Prop :=
  ∀ h, BucketOf h (t.buckets.getD h [])

theorem keys_putFirst (key : List Value) (row : Row) (entries : List (List Value × List Row)) :
    (putFirst key row entries).map (·.1) =
      if entries.any fun entry => sameList entry.1 key then entries.map (·.1)
      else entries.map (·.1) ++ [key] := by
  induction entries with
  | nil => rfl
  | cons entry entries ih =>
      obtain ⟨k, rows⟩ := entry
      rw [putFirst]
      by_cases hk : sameList k key = true
      · simp [hk]
      · simp only [hk, Bool.false_eq_true, if_false, List.map_cons, List.any_cons, Bool.false_or,
          ih]
        split <;> rfl

theorem BucketOf.putFirst {key : List Value} {entries : List (List Value × List Row)}
    (b : BucketOf (keyHash key) entries) (row : Row) :
    BucketOf (keyHash key) (putFirst key row entries) := by
  by_cases hany : (entries.any fun entry => sameList entry.1 key) = true
  · have hkeys := keys_putFirst key row entries
    rw [if_pos hany] at hkeys
    exact ⟨hkeys ▸ b.placed, hkeys ▸ b.apart⟩
  · have hkeys := keys_putFirst key row entries
    rw [if_neg hany] at hkeys
    have hnew : ∀ k ∈ entries.map (·.1), sameList k key = false := by
      intro k hk
      obtain ⟨entry, hentry, rfl⟩ := List.mem_map.1 hk
      by_contra hsame
      exact hany (List.any_eq_true.2 ⟨entry, hentry, by simpa using hsame⟩)
    constructor
    · intro k hk
      rw [hkeys, List.mem_append, List.mem_singleton] at hk
      rcases hk with hk | rfl
      · exact b.placed k hk
      · rfl
    · rw [hkeys, List.pairwise_append]
      exact ⟨b.apart, List.pairwise_singleton _ _, by simpa using hnew⟩

theorem wellPlaced_empty : WellPlaced {} := fun h => by
  constructor <;> simp

theorem WellPlaced.insert {t : JoinTable} (w : t.WellPlaced) (key : List Value) (row : Row) :
    (t.insert key row).WellPlaced := by
  intro h
  simp only [JoinTable.insert, Std.HashMap.getD_insert, beq_iff_eq]
  by_cases hh : keyHash key = h
  · subst hh
    simpa using (w (keyHash key)).putFirst row
  · simpa [hh] using w h

theorem wellPlaced_foldr (keyed : List (List Value × Row)) :
    (keyed.foldr (fun (k, row) t => JoinTable.insert t k row) {}).WellPlaced := by
  induction keyed with
  | nil => exact wellPlaced_empty
  | cons entry keyed ih => exact ih.insert entry.1 entry.2

theorem findIn_of_mem {h : UInt64} {entries : List (List Value × List Row)} (b : BucketOf h entries)
    {entry : List Value × List Row} (hentry : entry ∈ entries) {key : List Value}
    (hkey : sameList entry.1 key = true) : findIn key entries = entry.2 := by
  induction entries with
  | nil => simp at hentry
  | cons first entries ih =>
      have hrest : BucketOf h entries :=
        ⟨fun k hk => b.placed k (List.mem_cons_of_mem _ hk), (List.pairwise_cons.1 b.apart).2⟩
      rcases List.mem_cons.1 hentry with rfl | hmem
      · simp [findIn, hkey]
      · -- another key comes first, and it is not the key looked up
        have hapart : sameList first.1 entry.1 = false :=
          (List.pairwise_cons.1 b.apart).1 _ (List.mem_map_of_mem hmem)
        have hfirst : sameList first.1 key = false := by
          rw [sameList_comm, ← sameList_congr_left hkey, sameList_comm, hapart]
        simpa [findIn, hfirst] using ih hrest hmem

theorem WellPlaced.find_eq_of_mem {t : JoinTable} (w : t.WellPlaced) {h : UInt64}
    {entry : List Value × List Row} (hentry : entry ∈ t.buckets.getD h []) {key : List Value}
    (hkey : sameList entry.1 key = true) : keyHash key = h ∧ t.find key = entry.2 := by
  have hh : keyHash key = h := by
    rw [← keyHash_congr hkey]
    exact (w h).placed _ (List.mem_map_of_mem hentry)
  subst hh
  exact ⟨rfl, by rw [find_eq, findIn_of_mem (w _) hentry hkey]⟩

theorem exists_keyed_of_ofBlock {positions : List Nat} {block : List Row} {t : JoinTable}
    (h : ofBlock positions block = .ok t) :
    ∃ keyed, keyRows positions block = .ok keyed ∧
      t = keyed.foldr (fun (k, row) t => JoinTable.insert t k row) {} := by
  rw [ofBlock] at h
  obtain ⟨keyed, hkeyed, h⟩ := bind_eq_ok.1 h
  exact ⟨keyed, hkeyed, by simpa [pure, Except.pure] using h.symm⟩

theorem mem_of_keyRows {positions : List Nat} {block : List Row} {keyed : List (List Value × Row)}
    (h : keyRows positions block = .ok keyed) {row : Row} (hrow : row ∈ block) {key : List Value}
    (hkey : keyValues row positions = .ok key) : (key, row) ∈ keyed := by
  induction block generalizing keyed with
  | nil => cases hrow
  | cons first block ih =>
      rw [keyRows] at h
      obtain ⟨k, hk, h⟩ := bind_eq_ok.1 h
      obtain ⟨rest, hrest, h⟩ := bind_eq_ok.1 h
      cases h
      rcases List.mem_cons.1 hrow with rfl | hrow
      · cases hk.symm.trans hkey
        exact List.mem_cons_self
      · exact List.mem_cons_of_mem _ (ih hrest hrow)

/-- Equal values and equal keys have the same hash writes, and a lookup in the table of a block
finds every entry whose key equals the key looked up, and every row of the block with such a key. -/
theorem hash_coherent :
    (∀ a b : Value, a.same b = true → a.hashWrites = b.hashWrites) ∧
    (∀ ks ls : List Value, List.Forall₂ (fun a b => a.same b = true) ks ls →
      keyHashWrites ks = keyHashWrites ls) ∧
    ∀ (positions : List Nat) (block : List Row) (table : JoinTable),
      ofBlock positions block = .ok table →
      (∀ h entries entry key, table.buckets[h]? = some entries → entry ∈ entries →
        List.Forall₂ (fun a b => a.same b = true) entry.1 key →
        keyHash key = h ∧ table.find key = entry.2) ∧
      ∀ row ∈ block, ∀ k key, keyValues row positions = .ok k →
        List.Forall₂ (fun a b => a.same b = true) k key → row ∈ table.find key := by
  refine ⟨fun a b h => same_iff.1 h, fun ks ls h => sameList_iff.1 (sameList_iff_forall₂.2 h), ?_⟩
  intro positions block table htable
  obtain ⟨keyed, hkeyed, rfl⟩ := exists_keyed_of_ofBlock htable
  constructor
  · intro h entries entry key hentries hentry hsame
    apply (wellPlaced_foldr keyed).find_eq_of_mem _ (sameList_iff_forall₂.2 hsame)
    rwa [Std.HashMap.getD_eq_getD_getElem?, hentries]
  · intro row hrow k key hk hsame
    have hmem : (k, row) ∈ keyed := mem_of_keyRows hkeyed hrow hk
    rw [find_foldr]
    exact List.mem_map.2 ⟨(k, row), List.mem_filter.2 ⟨hmem, sameList_iff_forall₂.2 hsame⟩, rfl⟩

theorem hash_coherent_mixed :
    let one : Value := .float (Binary64.ofInt 1)
    let zero : Value := .float ⟨0x8000000000000000⟩
    let k : List Value := [.integer 1, .record [("x", .list [.integer 0])]]
    let l : List Value := [one, .record [("x", .list [zero])]]
    let key : List Value := [.integer 1, .record [("x", .list [zero])]]
    let block : List Row := [k ++ [.string "a"], l ++ [.string "b"]]
    ∃ table, ofBlock [0, 1] block = .ok table ∧ one.hashWrites = (Value.integer 1).hashWrites ∧
      keyHashWrites k = keyHashWrites l ∧ keyHash key = keyHash l ∧ table.find key = block ∧
      ∀ row ∈ block, row ∈ table.find key := by
  intro one zero k l key block
  have hone : one.same (.integer 1) = true := by decide +kernel
  have hkl : List.Forall₂ (fun a b => a.same b = true) k l :=
    sameList_iff_forall₂.1 (by decide +kernel)
  have hkkey : List.Forall₂ (fun a b => a.same b = true) k key :=
    sameList_iff_forall₂.1 (by decide +kernel)
  have hlkey : List.Forall₂ (fun a b => a.same b = true) l key :=
    sameList_iff_forall₂.1 (by decide +kernel)
  let table : JoinTable :=
    (JoinTable.insert {} l (l ++ [.string "b"])).insert k (k ++ [.string "a"])
  have htable : ofBlock [0, 1] block = .ok table := rfl
  have hhash : keyHash k = keyHash l := keyHash_congr (sameList_iff_forall₂.2 hkl)
  have hsame : sameList l k = true := by decide +kernel
  have hbucket : table.buckets[keyHash l]? = some [(l, block)] := by
    simp [table, JoinTable.insert, hhash, putFirst, hsame, block]
  have hlookup := hash_coherent.2.2 [0, 1] block table htable
  have hentry := hlookup.1 (keyHash l) [(l, block)] (l, block) key hbucket
    (List.mem_singleton_self _) hlkey
  refine ⟨table, htable, hash_coherent.1 one (.integer 1) hone, hash_coherent.2.1 k l hkl,
    hentry.1, hentry.2, ?_⟩
  intro row hrow
  rcases List.mem_pair.1 hrow with rfl | rfl
  · exact hlookup.2 _ hrow k key rfl hkkey
  · exact hlookup.2 _ hrow l key rfl hlkey

end JoinTable

end QueryEngine
