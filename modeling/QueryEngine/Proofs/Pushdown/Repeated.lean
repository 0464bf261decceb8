import QueryEngine.Expr.Lemmas
import QueryEngine.Proofs.Pushdown.Climb
import QueryEngine.Proofs.Typing.Lookup

namespace QueryEngine

namespace KeyFields

variable {k : KeyFields} {e : Expr}

theorem split_of_needsRecord (h : k.needsRecord e = false) : k.split e = (none, some e) := by
  induction e using split.induct k with
  | case1 l r rr rk hl rr' rk' hr ihl ihr =>
      obtain ⟨hl, hr⟩ : k.needsRecord l = false ∧ k.needsRecord r = false := by simpa using h
      rw [split_and, ihl hl, ihr hr]
      rfl
  | case2 l r hparts ihl ihr => rw [split, if_pos hparts]
  | case3 l r hparts ihl ihr =>
      obtain ⟨hl, hr⟩ : k.needsRecord l = false ∧ k.needsRecord r = false := by simpa using h
      exact absurd (by simp [ihl hl, ihr hr]) hparts
  | case4 e hand hor hmoves => rw [k.split_of_ne hand hor, if_pos hmoves]
  | case5 e hand hor hstays => exact absurd (by simp [isPartitionable, h]) hstays

theorem split_key {key : Expr} (h : (k.split e).2 = some key) : k.split key = (none, some key) :=
  split_of_needsRecord ((k.needsRecord_split e).1 key h)

theorem split_andParts {a b : Option Expr} (ha : ∀ e, a = some e → k.split e = (some e, none))
    (hb : ∀ e, b = some e → k.split e = (some e, none)) :
    ∀ e, andParts a b = some e → k.split e = (some e, none) := by
  cases a with
  | none => cases b <;> simp_all [andParts, Expr.andAll]
  | some a =>
      cases b with
      | none => simp_all [andParts, Expr.andAll]
      | some b =>
          rintro _ ⟨⟩
          have hboth := k.split_and a b
          rw [ha a rfl, hb b rfl] at hboth
          exact hboth

theorem split_record {record : Expr} (h : (k.split e).1 = some record) :
    k.split record = (some record, none) := by
  induction e using Expr.inductionOnAnd generalizing record with
  | and l r ihl ihr =>
      rw [split_and] at h
      exact split_andParts (fun _ => ihl) (fun _ => ihr) record h
  | other e he =>
      rcases k.split_of_ne_and he with hsplit | hsplit
      · rw [hsplit] at h
        cases h
        exact hsplit
      · rw [hsplit] at h
        cases h

def needsMore (k : KeyFields) (e : Expr) : Bool :=
  e.any fun
    | .var path => !k.fields.contains path
    | .star _ => true
    | _ => false

/-- No name of a key field has a dot, so that none looks like a name behind a qualifier. -/
def Plain (k : KeyFields) : Prop :=
  ∀ name ∈ k.fields, '.' ∉ name.toList

theorem needsMore_strip (h : k.needsRecord e = false) : k.needsMore (k.strip e) = false := by
  refine Expr.any_mapVars (fun x hx => ?_) h
  cases x with
  | var path =>
      have hcontains : k.contains path = true := by simpa using hx
      unfold contains at hcontains
      cases hname : k.unqualified? path with
      | none => simp [hname] at hcontains
      | some name => simpa [Expr.mapVars, hname] using hcontains
  | star => cases hx
  | _ => rfl

theorem Plain.unqualified? (hk : k.Plain) {path : String} (h : (!k.fields.contains path) = false) :
    k.unqualified? path = some path := by
  have hpath : path ∈ k.fields := by simpa using h
  rw [KeyFields.unqualified?, Text.splitOnce_eq_none (hk path hpath)]

theorem Plain.needsRecord (hk : k.Plain) (h : k.needsMore e = false) : k.needsRecord e = false := by
  refine Expr.any_mono (fun x hx => ?_) h
  cases x with
  | var path =>
      have hpath : path ∈ k.fields := by simpa using hx
      simp [contains, hk.unqualified? hx, hpath]
  | star => cases hx
  | _ => rfl

theorem Plain.strip_eq (hk : k.Plain) (h : k.needsMore e = false) : k.strip e = e :=
  Expr.mapVars_eq_self (fun path hpath => by rw [hk.unqualified? hpath, Option.getD_some]) h

theorem needsMore_andAll {es : List Expr} (h : ∀ e ∈ es, k.needsMore e = false) {conjunction : Expr}
    (hes : Expr.andAll es = some conjunction) : k.needsMore conjunction = false := by
  cases es with
  | nil => cases hes
  | cons e es =>
      cases hes
      rw [List.forall_mem_cons] at h
      obtain ⟨he, hes⟩ := h
      induction es generalizing e with
      | nil => exact he
      | cons e' es ih =>
          rw [List.forall_mem_cons] at hes
          refine ih (e.and e') ?_ hes.2
          have hboth : k.needsMore (e.and e') = (k.needsMore e || k.needsMore e') := by
            simp [needsMore, Expr.and, Expr.any]
          rw [hboth, he, hes.1, Bool.or_false]

end KeyFields

namespace Link

variable {k : KeyFields} {l : Link}

theorem fields_keys (k : KeyFields) (l : Link) : (l.keys k).fields = k.fields := by
  cases l <;> rfl

theorem record_eq_some {kept : Link} (h : l.record k = some kept) :
    kept.record k = some kept ∧ kept.key k = none ∧ kept.keys k = l.keys k := by
  rcases l with ⟨_ | e, own⟩ | ⟨ks, own⟩ | ⟨name, own⟩
  · cases h
    exact ⟨rfl, rfl, rfl⟩
  · obtain ⟨record, hrecord, rfl⟩ := Option.map_eq_some_iff.1 h
    have hsplit := KeyFields.split_record hrecord
    simp [Link.record, Link.key, Link.keys, hsplit]
  · cases h
    exact ⟨rfl, rfl, rfl⟩
  · cases h
    exact ⟨rfl, rfl, rfl⟩

theorem keys_of_record_eq_none (h : l.record k = none) : l.keys k = k := by
  cases l with
  | select e own => rfl
  | orderBy ks own => rfl
  | aliased name own => cases h

theorem splitAll_kept (k : KeyFields) (links : List Link) :
    splitAll k (splitAll k links).1 = ((splitAll k links).1, []) := by
  induction links generalizing k with
  | nil => rfl
  | cons l links ih =>
      have ih := ih (l.keys k)
      simp only [splitAll, split_eq]
      cases hrecord : l.record k with
      | none =>
          rw [keys_of_record_eq_none hrecord] at ih ⊢
          exact ih
      | some kept =>
          obtain ⟨hkept, hkey, hkeys⟩ := record_eq_some hrecord
          simp [splitAll, split_eq, hkept, hkey, hkeys, ih]

theorem needsMore_of_mem_taken {links : List Link} {e : Expr} (h : e ∈ (splitAll k links).2) :
    k.needsMore e = false := by
  induction links generalizing k with
  | nil => cases h
  | cons l links ih =>
      simp only [splitAll, split_eq, List.mem_append, Option.mem_toList] at h
      rcases h with h | h
      · rcases l with ⟨_ | predicate, own⟩ | ⟨ks, own⟩ | ⟨name, own⟩ <;>
          simp only [Link.key, reduceCtorEq] at h
        obtain ⟨key, hkey, rfl⟩ := Option.map_eq_some_iff.1 h
        exact KeyFields.needsMore_strip ((k.needsRecord_split predicate).1 key hkey)
      · have htaken := ih h
        rwa [KeyFields.needsMore, fields_keys] at htaken

/-- The predicates taken from a chain move on from a selection below it as they are. -/
theorem splitAll_selected (hk : k.Plain) {links : List Link} {conjunction : Expr}
    (h : Expr.andAll (splitAll k links).2 = some conjunction) (own : Option Schema) :
    splitAll k (select (some conjunction) own :: (splitAll k links).1) =
      ((splitAll k links).1, [conjunction]) := by
  have hmore := KeyFields.needsMore_andAll (fun _ => needsMore_of_mem_taken) h
  have hsplit := KeyFields.split_of_needsRecord (hk.needsRecord hmore)
  simp [splitAll, Link.split, Link.keys, hsplit, hk.strip_eq hmore, splitAll_kept]

end Link

namespace Cursor

open Link

variable {k : KeyFields} {c : Cursor}

theorem exists_links (p : Plan) (moves : List Move) :
    ∃ (answers : List Bool) (c : Cursor) (links : List Link) (above : List Frame),
      (ofPlan p).travel moves = .ok (answers, c) ∧ c.Fits ∧ c.path = links.map frame ++ above ∧
        Stops above := by
  have hfits : (ofPlan p).Fits := fun f hf => by cases hf
  have hhollow : (ofPlan p).Hollow := fun f hf => by cases hf
  obtain ⟨c, hrun, hc, -⟩ := hfits.travel moves
  obtain ⟨outer, links, hchain⟩ := Place.exists_chain hc.focus?_place
  obtain ⟨above, hpath, hstops, -⟩ := hc.path_eq (hhollow.travel hrun) hchain
  exact ⟨_, c, links, above, hrun, hc, hpath, hstops⟩

theorem fits_links {p q : Plan} {links kept : List Link} {above : List Frame} {r : Bool}
    (h : Fits ⟨p, links.map frame ++ above, r⟩) : Fits ⟨q, kept.map frame ++ above, r⟩ := by
  intro f hf
  rcases List.mem_append.1 hf with hf | hf
  · obtain ⟨l, -, rfl⟩ := List.mem_map.1 hf
    exact fits_frame l
  · exact h f (List.mem_append_right _ hf)

/-- The cursor stands on a node onto which a push has moved predicates: where the push has ended, or
right below that, where the node has got a selection. -/
def BackOn (node : Plan) (c₁ c₂ : Cursor) : Prop :=
  c₂.node = node ∧ (c₂ = c₁ ∨ c₁.down 0 = some c₂)

theorem Fits.toPlan_backOn {c₁ c₂ : Cursor} {node : Plan} (h : c₁.Fits) (hback : BackOn node c₁ c₂) :
    c₂.toPlan = .ok c₁.whole := by
  obtain ⟨-, rfl | hdown⟩ := hback
  · exact h.toPlan_eq
  · have hfollows := h.down 0
    rw [hdown] at hfollows
    have hwhole : c₂.whole = c₁.whole :=
      Place.whole_move (m := .down 0) (by simp) hfollows.place.symm
    rw [(hfollows.fits c₂ rfl).toPlan_eq, hwhole]

/-- A second push onto the same node leads to the cursor that the first has led to. -/
theorem pushKeyPredicates_links_twice (hk : k.Plain) {above : List Frame} (h : Stops above)
    (links : List Link) (p : Plan) (r : Bool) : ∃ c₁ : Cursor,
      (⟨p, links.map frame ++ above, r⟩ : Cursor).pushKeyPredicates k = .ok c₁ ∧
        c₁.path = (splitAll k links).1.map frame ++ above ∧ (∃ c₂, BackOn p c₁ c₂) ∧
        ∀ c₂, BackOn p c₁ c₂ → c₂.pushKeyPredicates k = .ok c₁ := by
  have hfirst := pushKeyPredicates_links h links k p r
  refine ⟨_, hfirst, rfl, ?_⟩
  unfold selected
  cases htaken : Expr.andAll (splitAll k links).2 with
  | none =>
      refine ⟨⟨_, rfl, .inl rfl⟩, ?_⟩
      rintro c₂ ⟨hnode, rfl | hdown⟩
      · rw [pushKeyPredicates_links h, splitAll_kept]
        rfl
      · have hchild : c₂.node ∈ p.children := List.mem_of_getElem? (of_down hdown).1
        rw [hnode] at hchild
        exact absurd hchild p.notMem_children
  | some conjunction =>
      let l : Link := .select (some conjunction) none
      have hl := down_wrap l p ((splitAll k links).1.map frame ++ above) r
      refine ⟨⟨_, rfl, .inr hl⟩, ?_⟩
      rintro c₂ ⟨hnode, rfl | hdown⟩
      · have hnode : l.wrap p = p := hnode
        have hchild : p ∈ (l.wrap p).children := by simp
        rw [hnode] at hchild
        exact absurd hchild p.notMem_children
      · obtain rfl := Option.some.inj (hl.symm.trans hdown)
        have hsecond := pushKeyPredicates_links h (l :: (splitAll k links).1) k p r
        rw [splitAll_selected hk htaken] at hsecond
        exact hsecond

/-- Where no name of a key field has a dot, pushing twice is pushing once: a part of a predicate is a
part as a whole, and whatever moves lead to a node, once key predicates are pushed onto it, a push from
there leaves the plan as it is. -/
theorem pushKeyPredicates_twice (hk : k.Plain) :
    (∀ e record, (k.split e).1 = some record → k.split record = (some record, none)) ∧
      (∀ e key, (k.split e).2 = some key → k.split key = (none, some key)) ∧
      ∀ (p : Plan) (moves : List Move), ∃ answers c c₁ q,
        (ofPlan p).travel moves = .ok (answers, c) ∧ c.pushKeyPredicates k = .ok c₁ ∧
          c₁.toPlan = .ok q ∧ (∃ c₂, BackOn c.node c₁ c₂) ∧
          ∀ c₂, BackOn c.node c₁ c₂ → c₂.toPlan = .ok q ∧ c₂.pushKeyPredicates k = .ok c₁ := by
  refine ⟨fun e record => KeyFields.split_record, fun e key => KeyFields.split_key,
    fun p moves => ?_⟩
  obtain ⟨answers, ⟨node, path, r⟩, links, above, hrun, hfits, hpath, hstops⟩ :=
    exists_links p moves
  obtain rfl : path = links.map frame ++ above := hpath
  obtain ⟨c₁, hfirst, hpath₁, hback, hsecond⟩ :=
    pushKeyPredicates_links_twice hk hstops links node r
  have hfits₁ : c₁.Fits := by
    unfold Fits
    rw [hpath₁]
    exact fits_links (q := node) (r := r) hfits
  refine ⟨answers, _, c₁, c₁.whole, hrun, hfirst, hfits₁.toPlan_eq, hback, fun c₂ hc₂ => ?_⟩
  exact ⟨hfits₁.toPlan_backOn hc₂, hsecond c₂ hc₂⟩

/-- The first push takes one key predicate from below an alias and two from above, one of them with the
name of the alias before a key field, and leaves a disjunction that needs the record. -/
theorem pushKeyPredicates_twice_under_alias :
    let k := KeyFields.ofRelation "docs" ["path", "year"]
    let isRecent (path : String) : Expr := .binary .gt (.var path) (.const (.string "2022"))
    let isAlpha : Expr := .binary .eq (.var "path") (.const (.string "alpha"))
    let isLarge : Expr := .binary .gt (.var "d.size") (.const (.integer 5))
    let mixed : Expr := .binary .or isAlpha isLarge
    let docs : Plan := .load "docs" none
    let above (p : Plan) (e : Expr) : Plan := .select (.orderBy (.aliased "d" p none) [.var "size"]
      none) (some e) none
    let p := above (.select docs (some (isRecent "docs.year")) none)
      (.and (.and mixed (isRecent "d.year")) isAlpha)
    let keyed : Plan := .select docs
      (some (.and (isRecent "year") (.and (isRecent "year") isAlpha))) none
    ∃ answers c c₁, (ofPlan p).travel [.leftmost] = .ok (answers, c) ∧ c.node = docs ∧
      c.pushKeyPredicates k = .ok c₁ ∧ c₁.toPlan = .ok (above keyed mixed) ∧ c₁.node = keyed ∧
      ∃ c₂, c₁.down 0 = some c₂ ∧ c₂.pushKeyPredicates k = .ok c₁ := by
  intro k isRecent isAlpha isLarge mixed docs above p keyed
  have hk : k.Plain := by
    rw [KeyFields.Plain]
    decide
  obtain ⟨answers, c, c₁, q, hrun, hfirst, hplan, -, hsecond⟩ :=
    (pushKeyPredicates_twice hk).2.2 p [.leftmost]
  let kept : List Link := [.aliased "d" none, .orderBy [.var "size"] none, .select (some mixed) none]
  let selection : Link := .select
    (some (.and (isRecent "year") (.and (isRecent "year") isAlpha))) none
  have hpush : (ofPlan p).leftmostDescendant.pushKeyPredicates k =
      .ok ⟨keyed, kept.map frame, true⟩ := rfl
  have hback : BackOn docs ⟨keyed, kept.map frame, true⟩
      ⟨docs, selection.frame :: kept.map frame, true⟩ := ⟨rfl, .inr rfl⟩
  cases hrun
  obtain rfl := Except.ok.inj (hpush.symm.trans hfirst)
  exact ⟨_, _, _, rfl, rfl, hpush, rfl, rfl, _, rfl, (hsecond _ hback).2⟩

end Cursor

end QueryEngine
