import Mathlib.Data.List.ReduceOption
import QueryEngine.Proofs.Cursor.Reached
import QueryEngine.Proofs.Pushdown.Chain
import QueryEngine.Proofs.Pushdown.Split

namespace QueryEngine

namespace Link

variable {l l' : Link} {p q : Plan}

theorem wrap_inj (h : l.wrap p = l'.wrap q) : l = l' ∧ p = q := by
  cases l <;> cases l' <;> cases h <;> exact ⟨rfl, rfl⟩

theorem at?_wrapAll (links : List Link) (p : Plan) :
    (wrapAll links p).at? (List.replicate links.length 0) = some p := by
  induction links using List.reverseRecOn with
  | nil => rfl
  | append_singleton links l ih =>
      rw [wrapAll_append, List.length_append, List.length_singleton, List.replicate_succ]
      simpa [Plan.at?] using ih

theorem fits_frame (l : Link) : l.frame.Fits := by
  simp [Frame.Fits, frame]

@[simp] theorem fill_frame (l : Link) (p : Plan) : l.frame.fill p = l.wrap p := by
  simp [Frame.fill, frame]

end Link

namespace KeyFields

theorem split_of_none (k : KeyFields) {e : Expr} (h : (k.split e).2 = none) :
    (k.split e).1 = some e := by
  induction e using Expr.inductionOnAnd with
  | and l r ihl ihr =>
      rw [split_and] at h ⊢
      obtain ⟨hl, hr⟩ := andParts_eq_none h
      simp [ihl hl, ihr hr, andParts, Expr.andAll, Expr.and]
  | other e he =>
      rcases k.split_of_ne_and he with hsplit | hsplit
      · rw [hsplit]
      · rw [hsplit] at h
        cases h

end KeyFields

namespace Link

def record (k : KeyFields) : Link → Option Link
  | select (some e) s => (k.split e).1.map fun e => select (some e) s
  | l => some l

def key (k : KeyFields) : Link → Option Expr
  | select (some e) _ => (k.split e).2.map k.strip
  | _ => none

theorem split_eq (k : KeyFields) (l : Link) : l.split k = (l.record k, l.key k) := by
  rcases l with ⟨_ | e, s⟩ | ⟨ks, s⟩ | ⟨name, s⟩
  · rfl
  · simp only [Link.split, record, key]
    rcases hsplit : k.split e with ⟨r, _ | e'⟩
    · have hr : r = some e := by simpa [hsplit] using k.split_of_none (e := e)
      simp [hr]
    · simp
  · rfl
  · rfl

def names (links : List Link) : List String :=
  links.filterMap fun
    | aliased name _ => some name
    | _ => none

def keysOver (k : KeyFields) (links : List Link) : KeyFields :=
  { k with qualifiers := k.qualifiers ++ names links }

theorem keysOver_nil (k : KeyFields) : keysOver k [] = k := by
  simp [keysOver, names]

theorem keysOver_cons (k : KeyFields) (l : Link) (links : List Link) :
    keysOver k (l :: links) = keysOver (l.keys k) links := by
  cases l <;> simp [keysOver, names, Link.keys, KeyFields.addQualifier]

def kept (k : KeyFields) (links : List Link) : List Link :=
  (links.mapIdx fun i l => l.record (keysOver k (links.take i))).reduceOption

/-- The key predicates that a chain gives away, from bottom to top. -/
def taken (k : KeyFields) (links : List Link) : List Expr :=
  (links.mapIdx fun i l => l.key (keysOver k (links.take i))).reduceOption

theorem reduceOption_cons {α : Type} (a : Option α) (as : List (Option α)) :
    (a :: as).reduceOption = a.toList ++ as.reduceOption := by
  cases a <;> rfl

theorem splitAll_eq (k : KeyFields) (links : List Link) :
    splitAll k links = (kept k links, taken k links) := by
  induction links generalizing k with
  | nil => rfl
  | cons l links ih =>
      simp only [splitAll, ih, split_eq, kept, taken, List.mapIdx_cons, List.take_zero,
        keysOver_nil, List.take_succ_cons, keysOver_cons, reduceOption_cons]

end Link

open Link in
/-- The links right above a place, the lowest first, and the place of the highest one, above which
there is no other. -/
structure Place.Chain (s : Place) (outer : List Nat) (links : List Link) (node : Plan) : Prop where
  path : s.path = List.replicate links.length 0 ++ outer
  at_outer : s.whole.at? outer.reverse = some (wrapAll links node)
  maximal : ∀ i above l q, outer = i :: above → s.whole.at? above.reverse ≠ some (wrap l q)

namespace Place

theorem exists_chain {whole node : Plan} {path : List Nat}
    (h : (⟨whole, path⟩ : Place).focus? = some node) :
    ∃ outer links, Chain ⟨whole, path⟩ outer links node := by
  induction path generalizing node with
  | nil => exact ⟨[], [], rfl, h, by simp⟩
  | cons i path ih =>
      have hchild := h
      rw [focus?, List.reverse_cons, Plan.at?_append] at hchild
      obtain ⟨parent, hparent, hchild⟩ := Option.bind_eq_some_iff.1 hchild
      by_cases hlink : ∃ l q, parent = Link.wrap l q
      · obtain ⟨l, q, rfl⟩ := hlink
        obtain ⟨rfl, rfl⟩ : i = 0 ∧ q = node := by
          cases i <;> simp_all [Plan.at?]
        obtain ⟨outer, links, hpath, hat, hmaximal⟩ := ih hparent
        exact ⟨outer, l :: links, congrArg (0 :: ·) hpath, hat, hmaximal⟩
      · refine ⟨i :: path, [], rfl, h, ?_⟩
        rintro _ _ l q ⟨⟩ hat
        exact hlink ⟨l, q, Option.some.inj (hparent.symm.trans hat)⟩

theorem Chain.focus? {s : Place} {outer : List Nat} {links : List Link} {node : Plan}
    (h : s.Chain outer links node) : s.focus? = some node := by
  rw [Place.focus?, h.path, List.reverse_append, List.reverse_replicate, Plan.at?_append,
    h.at_outer, Option.bind_some, Link.at?_wrapAll]

theorem Chain.parent {whole node : Plan} {i : Nat} {path outer : List Nat} {l : Link}
    {links : List Link} (h : Chain ⟨whole, i :: path⟩ outer (l :: links) node) :
    Chain ⟨whole, path⟩ outer links (l.wrap node) :=
  ⟨(List.cons.inj h.path).2, h.at_outer, h.maximal⟩

end Place

namespace Cursor

open Link

variable {c : Cursor} {f : Frame} {l : Link} {p q : Plan}

theorem eq_frame (hf : f.Fits) (hshell : f.parent.shell = f.parent) (h : f.parent = l.wrap q) :
    f = l.frame := by
  have hparent : f.parent = l.wrap .placeholder := by rw [← hshell, h, shell_wrap]
  rw [Frame.Fits, h, children_wrap, List.length_singleton] at hf
  have hbefore : f.before = [] := List.eq_nil_of_length_eq_zero (by omega)
  have hafter : f.after = [] := List.eq_nil_of_length_eq_zero (by omega)
  obtain ⟨parent, before, after⟩ := f
  simp_all [frame]

theorem eq_frame_of_fill (hf : f.Fits) (hshell : f.parent.shell = f.parent)
    (h : f.fill p = l.wrap q) : f = l.frame ∧ p = q := by
  obtain ⟨l', i, hparent⟩ := exists_of_refill _ _ _ h
  obtain rfl := eq_frame hf hshell hparent
  rw [fill_frame] at h
  obtain ⟨rfl, rfl⟩ := wrap_inj h
  exact ⟨rfl, rfl⟩

theorem Fits.path_eq {outer : List Nat} {links : List Link} (hfits : c.Fits) (hhollow : c.Hollow)
    (h : c.place.Chain outer links c.node) : ∃ above, c.path = links.map frame ++ above ∧
      Stops above ∧ above.map (·.before.length) = outer := by
  induction links generalizing c with
  | nil =>
      refine ⟨c.path, rfl, ?_, h.path⟩
      obtain ⟨p, path, r⟩ := c
      cases path with
      | nil => exact .root
      | cons f path =>
          obtain ⟨hf, habove⟩ := hfits.of_cons
          have hshell := hhollow f List.mem_cons_self
          have hparent (l : Link) (q : Plan) : f.parent ≠ l.wrap q := by
            intro hl
            obtain rfl := eq_frame hf hshell hl
            apply h.maximal _ _ l p h.path.symm
            rw [← fill_frame]
            exact habove.focus?_place
          have hstops := Stops.node hparent hf.symm path
          rwa [hshell] at hstops
  | cons l links ih =>
      obtain ⟨p, path, r⟩ := c
      cases path with
      | nil => cases h.path
      | cons f path =>
          obtain ⟨hf, habove⟩ := hfits.of_cons
          have hchain : (⟨f.fill p, path, r⟩ : Cursor).place.Chain outer links (l.wrap p) :=
            h.parent
          have hfill : f.fill p = l.wrap p :=
            Option.some.inj (habove.focus?_place.symm.trans hchain.focus?)
          obtain ⟨rfl, -⟩ := eq_frame_of_fill hf (hhollow f List.mem_cons_self) hfill
          rw [fill_frame] at habove hchain
          obtain ⟨above, hpath, hstops, houter⟩ :=
            ih habove (fun g hg => hhollow g (List.mem_cons_of_mem _ hg)) hchain
          exact ⟨above, congrArg (l.frame :: ·) hpath, hstops, houter⟩

theorem positions_links (links : List Link) (p : Plan) (above : List Frame) (r : Bool) :
    positions ⟨p, links.map frame ++ above, r⟩ =
      List.replicate links.length 0 ++ above.map (·.before.length) := by
  simp only [positions, List.map_append, List.map_map]
  congr 1
  exact List.map_const'

theorem whole_links (links : List Link) (p : Plan) (above : List Frame) (r : Bool) :
    whole ⟨p, links.map frame ++ above, r⟩ = whole ⟨wrapAll links p, above, r⟩ := by
  induction links generalizing p with
  | nil => rfl
  | cons l links ih =>
      rw [wrapAll_cons, ← ih, ← fill_frame]
      rfl

/-- Every place of a plan is the focus of some cursor and the end of one chain of links. A cursor
there pushes key predicates without an error: in place of the chain stands what is kept of it, the
focus has a selection on what is taken, and the cursor is on that; the rest of the plan is as it was. -/
theorem pushKeyPredicates_place {s : Place} {node : Plan} (h : s.focus? = some node)
    (k : KeyFields) :
    (∃ p moves answers c, (ofPlan p).travel moves = .ok (answers, c) ∧ c.place = s) ∧
    (∃ outer links, s.Chain outer links node) ∧
    ∀ outer links, s.Chain outer links node → ∀ p moves answers c,
      (ofPlan p).travel moves = .ok (answers, c) → c.place = s →
        ∃ c', c.pushKeyPredicates k = .ok c' ∧
          c'.toPlan = .ok (s.whole.replaceAt outer.reverse
            (wrapAll (kept k links) (selected (taken k links) node))) ∧
          c'.node = selected (taken k links) node ∧
          c'.positions = List.replicate (kept k links).length 0 ++ outer := by
  have hfits (p : Plan) : (ofPlan p).Fits := fun f hf => by cases hf
  have hhollow (p : Plan) : (ofPlan p).Hollow := fun f hf => by cases hf
  refine ⟨?_, Place.exists_chain h, ?_⟩
  · obtain ⟨moves, hmoves⟩ := Place.exists_travel h
    obtain ⟨c, hrun, -, hplace⟩ := (hfits s.whole).travel moves
    exact ⟨s.whole, moves, _, c, hrun, hplace.trans hmoves⟩
  · rintro outer links hchain p moves answers c hrun rfl
    obtain ⟨c₁, hrun₁, hc, -⟩ := (hfits p).travel moves
    obtain ⟨-, rfl⟩ := Prod.mk.inj (Except.ok.inj (hrun.symm.trans hrun₁))
    obtain rfl : c.node = node := Option.some.inj (hchain.focus?.symm.trans hc.focus?_place) |>.symm
    -- the cursor is at the end of the chain, above which no climb goes on
    obtain ⟨above, hpath, hstops, rfl⟩ := hc.path_eq ((hhollow p).travel hrun) hchain
    obtain ⟨node, path, r⟩ := c
    obtain rfl : path = links.map frame ++ above := hpath
    have hpush := pushKeyPredicates_links hstops links k node r
    rw [splitAll_eq] at hpush
    refine ⟨_, hpush, ?_, rfl, positions_links _ _ _ _⟩
    have habove : Fits ⟨wrapAll links node, above, r⟩ := fun f hf =>
      hc f (List.mem_append_right _ hf)
    have hfits' : Fits ⟨selected (taken k links) node, (kept k links).map frame ++ above, r⟩ := by
      intro f hf
      rcases List.mem_append.1 hf with hf | hf
      · obtain ⟨l, -, rfl⟩ := List.mem_map.1 hf
        exact fits_frame l
      · exact habove f hf
    rw [hfits'.toPlan_eq, whole_links]
    have hwhole := habove.whole_replace (wrapAll (kept k links) (selected (taken k links) node))
    rw [← whole_links links node above r] at hwhole
    exact congrArg Except.ok hwhole

/-- The chain stands under the second child of a join. Its lowest selection tests keys only and goes,
the one above the alias gives its key part away, and the others stay. -/
theorem pushKeyPredicates_place_below_join :
    let isAlpha : Expr := .binary .eq (.var "path") (.const (.string "alpha"))
    let isRecent (path : String) : Expr := .binary .gt (.var path) (.const (.string "2022"))
    let isLarge : Expr := .binary .gt (.var "size") (.const (.integer 5))
    let isTitled : Expr := .binary .isNot (.var "title") (.const .null)
    let node : Plan := .load "docs" none
    let beside (p : Plan) : Plan := .join (.load "t" none) p none .inner none
    let links : List Link := [.select (some isAlpha) none, .select none none, .aliased "d" none,
      .select (some (.binary .and (isRecent "d.year") isLarge)) none,
      .orderBy [.var "size"] none, .select (some isTitled) none]
    let rest : List Link := [.select none none, .aliased "d" none, .select (some isLarge) none,
      .orderBy [.var "size"] none, .select (some isTitled) none]
    let keyed : Plan := .select node (some (.binary .and isAlpha (isRecent "year"))) none
    ∃ p moves answers c c', (ofPlan p).travel moves = .ok (answers, c) ∧
      c.place = ⟨beside (wrapAll links node), [0, 0, 0, 0, 0, 0, 1]⟩ ∧
      c.pushKeyPredicates (KeyFields.ofRelation "docs" ["path", "year"]) = .ok c' ∧
      c'.toPlan = .ok (beside (wrapAll rest keyed)) ∧ c'.node = keyed ∧
      c'.positions = [0, 0, 0, 0, 0, 1] := by
  intro isAlpha isRecent isLarge isTitled node beside links rest keyed
  let s : Place := ⟨beside (wrapAll links node), [0, 0, 0, 0, 0, 0, 1]⟩
  have hchain : s.Chain [1] links node := by
    refine ⟨rfl, rfl, ?_⟩
    rintro _ _ l q ⟨⟩ hat
    cases l <;> cases hat
  have hfocus : s.focus? = some node := rfl
  obtain ⟨⟨p, moves, answers, c, hrun, hplace⟩, -, hpush⟩ :=
    pushKeyPredicates_place hfocus (KeyFields.ofRelation "docs" ["path", "year"])
  obtain ⟨c', hc', hplan, hnode, hpositions⟩ := hpush [1] links hchain p moves answers c hrun hplace
  exact ⟨p, moves, answers, c, c', hrun, hplace, hc', hplan, hnode, hpositions⟩

end Cursor

end QueryEngine
