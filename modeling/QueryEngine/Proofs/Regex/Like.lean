import Mathlib
import QueryEngine.Operation.Basic
import QueryEngine.Proofs.Regex.Sequences

namespace QueryEngine

/-- The texts that a LIKE pattern stands for. -/
inductive Likes : List Char → List Char → Prop
  | nil : Likes [] []
  | sequence (skipped : List Char) {pattern cs : List Char} (h : Likes pattern cs) :
    Likes ('%' :: pattern) (skipped ++ cs)
  | character (c : Char) {pattern cs : List Char} (h : Likes pattern cs) :
    Likes ('_' :: pattern) (c :: cs)
  | itself {c : Char} (hpercent : c ≠ '%') (hunderscore : c ≠ '_') {pattern cs : List Char}
    (h : Likes pattern cs) : Likes (c :: pattern) (c :: cs)

namespace Likes

variable {pattern cs : List Char} {i : Nat}

theorem nil_iff : Likes [] cs ↔ cs = [] := by
  constructor
  · rintro ⟨⟩
    rfl
  · rintro rfl
    exact .nil

theorem percent_iff (hi : i ≤ cs.length) :
    Likes ('%' :: pattern) (cs.drop i) ↔ ∃ j, i ≤ j ∧ j ≤ cs.length ∧ Likes pattern (cs.drop j) := by
  constructor
  · intro h
    generalize hrest : cs.drop i = rest at h
    cases h with
    | sequence skipped h =>
        have hlength := congrArg List.length hrest
        rw [List.length_drop, List.length_append] at hlength
        refine ⟨i + skipped.length, by omega, by omega, ?_⟩
        rwa [← List.drop_drop, hrest, List.drop_left]
    | itself hpercent => exact absurd rfl hpercent
  · rintro ⟨j, hij, -, h⟩
    have hsplit : cs.drop i = (cs.drop i).take (j - i) ++ cs.drop j := by
      rw [← Nat.add_sub_cancel' hij, ← List.drop_drop, Nat.add_sub_cancel_left,
        List.take_append_drop]
    rw [hsplit]
    exact h.sequence _

theorem underscore_iff :
    Likes ('_' :: pattern) (cs.drop i) ↔ i < cs.length ∧ Likes pattern (cs.drop (i + 1)) := by
  constructor
  · intro h
    generalize hrest : cs.drop i = rest at h
    cases h with
    | character c h =>
        have hi : i < cs.length := by
          by_contra hle
          simp [List.drop_eq_nil_of_le (Nat.not_lt.1 hle)] at hrest
        rw [List.drop_eq_getElem_cons hi, List.cons.injEq] at hrest
        exact ⟨hi, hrest.2 ▸ h⟩
    | itself _ hunderscore => exact absurd rfl hunderscore
  · rintro ⟨hi, h⟩
    rw [List.drop_eq_getElem_cons hi]
    exact h.character _

theorem letter_iff {c : Char} (hpercent : c ≠ '%') (hunderscore : c ≠ '_') :
    Likes (c :: pattern) (cs.drop i) ↔ cs[i]? = some c ∧ Likes pattern (cs.drop (i + 1)) := by
  constructor
  · intro h
    generalize hrest : cs.drop i = rest at h
    cases h with
    | sequence => exact absurd rfl hpercent
    | character => exact absurd rfl hunderscore
    | itself _ _ h =>
        have hstarts : [c] <+: cs.drop i := hrest ▸ ⟨_, rfl⟩
        obtain ⟨hc, -⟩ := Regex.cons_prefix_drop.1 hstarts
        obtain ⟨hi, hc'⟩ := List.getElem?_eq_some_iff.1 hc
        rw [List.drop_eq_getElem_cons hi, List.cons.injEq] at hrest
        exact ⟨hc, hrest.2 ▸ h⟩
  · rintro ⟨hc, h⟩
    obtain ⟨hi, rfl⟩ := List.getElem?_eq_some_iff.1 hc
    rw [List.drop_eq_getElem_cons hi]
    exact h.itself hpercent hunderscore

end Likes

namespace CharSet

theorem contains_full (c : Char) : full.contains c = true := by
  have hvalid : c.toNat < 0xD800 ∨ (0xDFFF < c.toNat ∧ c.toNat < 0x110000) := c.valid
  rcases hvalid with h | ⟨h, h'⟩
  · simp [contains, full, countUpTo, show ¬ 0xE000 ≤ c.toNat by omega, Nat.not_le.2 h]
  · simp [contains, full, countUpTo, show 0xE000 ≤ c.toNat from h, Nat.not_le.2 h']

end CharSet

namespace Regex

def likeChar (c : Char) : Regex :=
  if c = '%' then .repeat (oneOf .full) 0 none true
  else if c = '_' then oneOf .full
  else text [c]

def ofLike (pattern : String) : Regex :=
  concat (look .textStart :: (pattern.toList.map likeChar ++ [look .textEnd]))

section

variable {cs : List Char} {i j : Nat}

theorem spans_full : Spans cs (oneOf .full) i j ↔ i < cs.length ∧ j = i + 1 := by
  simp only [Spans, CharSet.contains_full, and_true]
  refine and_congr_left fun _ => ?_
  constructor
  · rintro ⟨c, hc⟩
    exact (List.getElem?_eq_some_iff.1 hc).1
  · exact fun hi => ⟨_, List.getElem?_eq_getElem hi⟩

theorem steps_full (hi : i ≤ cs.length) (k : Nat) :
    Steps (Spans cs (oneOf .full)) k i j ↔ j = i + k ∧ j ≤ cs.length := by
  induction k generalizing i with
  | zero =>
      simp only [Steps]
      omega
  | succ k ih =>
      simp only [Steps, spans_full]
      constructor
      · rintro ⟨m, ⟨hlt, rfl⟩, h⟩
        have := (ih hlt).1 h
        omega
      · rintro ⟨rfl, hj⟩
        exact ⟨i + 1, ⟨by omega, rfl⟩, (ih (by omega)).2 ⟨by omega, hj⟩⟩

theorem spans_any (hi : i ≤ cs.length) :
    Spans cs (.repeat (oneOf .full) 0 none true) i j ↔ i ≤ j ∧ j ≤ cs.length := by
  rw [Spans]
  simp only [steps_full hi]
  constructor
  · rintro ⟨k, -, rfl, hj⟩
    omega
  · rintro ⟨hij, hj⟩
    exact ⟨j - i, by simp, by omega, hj⟩

theorem spansSeq_like (pattern : List Char) (hi : i ≤ cs.length) :
    SpansSeq cs (pattern.map likeChar ++ [look .textEnd]) i j ↔
      Likes pattern (cs.drop i) ∧ j = cs.length := by
  induction pattern generalizing i with
  | nil =>
      rw [List.map_nil, List.nil_append, spansSeq_singleton, Likes.nil_iff,
        List.drop_eq_nil_iff, Spans]
      simp only [Look.holds, Option.isNone_iff_eq_none, List.getElem?_eq_none_iff]
      omega
  | cons c pattern ih =>
      rw [List.map_cons, List.cons_append, SpansSeq, likeChar]
      split
      · next h =>
          subst h
          rw [Likes.percent_iff hi]
          constructor
          · rintro ⟨m, hm, hj⟩
            obtain ⟨him, hm⟩ := (spans_any hi).1 hm
            obtain ⟨h, rfl⟩ := (ih hm).1 hj
            exact ⟨⟨m, him, hm, h⟩, rfl⟩
          · rintro ⟨⟨m, him, hm, h⟩, rfl⟩
            exact ⟨m, (spans_any hi).2 ⟨him, hm⟩, (ih hm).2 ⟨h, rfl⟩⟩
      · next hpercent =>
        split
        · next h =>
            subst h
            rw [Likes.underscore_iff]
            constructor
            · rintro ⟨m, hm, hj⟩
              obtain ⟨hlt, rfl⟩ := spans_full.1 hm
              obtain ⟨h, rfl⟩ := (ih hlt).1 hj
              exact ⟨⟨hlt, h⟩, rfl⟩
            · rintro ⟨⟨hlt, h⟩, rfl⟩
              exact ⟨i + 1, spans_full.2 ⟨hlt, rfl⟩, (ih hlt).2 ⟨h, rfl⟩⟩
        · next hunderscore =>
            rw [Likes.letter_iff hpercent hunderscore]
            simp only [Spans, cons_prefix_drop, List.nil_prefix, and_true, List.length_singleton]
            constructor
            · rintro ⟨m, ⟨hc, rfl⟩, hj⟩
              obtain ⟨hlt, -⟩ := List.getElem?_eq_some_iff.1 hc
              obtain ⟨h, rfl⟩ := (ih hlt).1 hj
              exact ⟨⟨hc, h⟩, rfl⟩
            · rintro ⟨⟨hc, h⟩, rfl⟩
              obtain ⟨hlt, -⟩ := List.getElem?_eq_some_iff.1 hc
              exact ⟨i + 1, ⟨hc, rfl⟩, (ih hlt).2 ⟨h, rfl⟩⟩

theorem spans_textStart (hi : i ≤ cs.length) :
    Spans cs (look .textStart) i j ↔ i = 0 ∧ j = 0 := by
  simp only [Spans, Look.holds, Option.isNone_iff_eq_none]
  cases i with
  | zero => simp [previous, eq_comm]
  | succ i =>
      simp only [previous, List.getElem?_eq_none_iff]
      omega

theorem isMatch_ofLike (pattern value : String) :
    (ofLike pattern).isMatch value = true ↔ Likes pattern.toList value.toList := by
  rw [isMatch_iff]
  simp only [ofLike, spans_concat, SpansSeq]
  constructor
  · rintro ⟨i, j, hi, m, hm, hj⟩
    obtain ⟨-, rfl⟩ := (spans_textStart hi).1 hm
    exact ((spansSeq_like _ (Nat.zero_le _)).1 hj).1
  · intro h
    exact ⟨0, _, Nat.zero_le _, 0, (spans_textStart (Nat.zero_le _)).2 ⟨rfl, rfl⟩,
      (spansSeq_like _ (Nat.zero_le _)).2 ⟨h, rfl⟩⟩

end

theorem isMeta_iff (c : Char) :
    isMeta c = true ↔ c ∈ ['\\', '.', '+', '*', '?', '(', ')', '|', '[', ']', '\x7b', '\x7d', '^', '$',
      '#', '&', '-', '~'] := by
  rw [isMeta, String.contains_char_eq, decide_eq_true_eq]
  rfl

theorem readEscape?_of_isMeta (f : Flags) {c : Char} (h : isMeta c = true) (rest : List Char) :
    readEscape? f (c :: rest) = some (.literal c, rest) := by
  have hescapable : isEscapable c = true := by rw [isEscapable, h, Bool.true_or]
  rw [isMeta_iff] at h
  simp only [List.mem_cons, List.not_mem_nil, or_false] at h
  rcases h with rfl | rfl | rfl | rfl | rfl | rfl | rfl | rfl | rfl | rfl | rfl | rfl | rfl | rfl |
      rfl | rfl | rfl | rfl <;>
    simp [readEscape?, Flags.shorthandClass?, hescapable]

def likeFlags : Flags := { dotAll := true }

def likePart (c : Char) : Part :=
  { regex := likeChar c, depth := if c = '%' then 1 else 0 }

section

variable {g : OpenGroup} (hflags : g.flags = likeFlags) (fuel : Nat) (rest : List Char)

include hflags

theorem readGroup?_escaped {c : Char} (hpercent : c ≠ '%') (hunderscore : c ≠ '_') :
    readGroup? (fuel + 1) g (escaped c ++ rest) = readGroup? fuel (g.push (likePart c)) rest := by
  have hatom : g.pushAtom (.literal c) = g.push (likePart c) := by
    simp [OpenGroup.pushAtom, likePart, likeChar, hpercent, hunderscore, hflags, likeFlags,
      Flags.char]
  rw [← hatom, escaped]
  split
  · next hmeta =>
      rw [List.cons_append, readGroup?]
      simp [skip, hflags, likeFlags, readEscape?_of_isMeta _ hmeta]
  · next hmeta =>
      rw [isMeta_iff] at hmeta
      simp only [List.mem_cons, List.not_mem_nil, or_false, not_or] at hmeta
      simp [readGroup?, skip, hflags, likeFlags, hmeta]

theorem readGroup?_dot :
    readGroup? (fuel + 1) g ('.' :: rest) =
      readGroup? fuel (g.push { regex := oneOf .full }) rest := by
  simp [readGroup?, skip, hflags, likeFlags, Flags.dot?]

theorem readGroup?_star {set : CharSet} (hrest : rest.head? ≠ some '?') :
    readGroup? (fuel + 1) (g.push { regex := oneOf set }) ('*' :: rest) =
      readGroup? fuel (g.push { regex := .repeat (oneOf set) 0 none true, depth := 1 }) rest := by
  cases rest with
  | nil =>
      simp [readGroup?, skip, OpenGroup.push, OpenGroup.repeatLast?, repeated, widthless, hflags,
        likeFlags]
  | cons c rest =>
      have hc : c ≠ '?' := by simpa using hrest
      simp [readGroup?, skip, OpenGroup.push, OpenGroup.repeatLast?, repeated, widthless, hflags,
        likeFlags, hc]

/-- Every piece is read as one part, in no more steps than it has characters. -/
theorem readGroup?_piece (c : Char) (hrest : rest.head? ≠ some '?')
    (hfuel : (likePiece c).length ≤ fuel) :
    ∃ fuel' ≥ fuel - (likePiece c).length,
      readGroup? fuel g (likePiece c ++ rest) = readGroup? fuel' (g.push (likePart c)) rest := by
  rw [likePiece] at hfuel ⊢
  split at hfuel
  · next h =>
      subst h
      obtain ⟨fuel, rfl⟩ := Nat.exists_eq_add_of_le' hfuel
      refine ⟨fuel, by simp, ?_⟩
      rw [if_pos rfl, List.cons_append, List.singleton_append]
      exact (readGroup?_dot hflags (fuel + 1) ('*' :: rest)).trans
        (readGroup?_star hflags fuel rest hrest)
  · next hpercent =>
    split at hfuel
    · next h =>
        subst h
        obtain ⟨fuel, rfl⟩ := Nat.exists_eq_add_of_le' hfuel
        refine ⟨fuel, by simp, ?_⟩
        rw [if_neg hpercent, if_pos rfl, List.singleton_append]
        exact readGroup?_dot hflags fuel rest
    · next hunderscore =>
        have hpos : 1 ≤ (escaped c).length := by
          rw [escaped]
          split <;> simp
        obtain ⟨fuel, rfl⟩ := Nat.exists_eq_add_of_le' (hpos.trans hfuel)
        rw [if_neg hpercent, if_neg hunderscore]
        exact ⟨fuel, by omega, readGroup?_escaped hflags fuel rest hpercent hunderscore⟩

omit hflags in
theorem head?_pieces (pattern : List Char) :
    (pattern.flatMap likePiece ++ ['$']).head? ≠ some '?' := by
  cases pattern with
  | nil => simp
  | cons c pattern =>
      rw [List.flatMap_cons, likePiece]
      split
      · simp
      split
      · simp
      · rw [escaped]
        split
        · simp
        · next hmeta =>
            intro h
            obtain rfl : c = '?' := by simpa using h
            exact hmeta ((isMeta_iff '?').2 (by decide))

theorem readGroup?_pieces (pattern : List Char)
    (hfuel : (pattern.flatMap likePiece).length + 2 ≤ fuel) :
    readGroup? fuel g (pattern.flatMap likePiece ++ ['$']) =
      some (((pattern.map likePart).foldl OpenGroup.push g).push { regex := look .textEnd }, []) := by
  induction pattern generalizing g fuel with
  | nil =>
      obtain ⟨fuel, rfl⟩ := Nat.exists_eq_add_of_le' hfuel
      simp [readGroup?, skip, OpenGroup.push, Flags.dollar, hflags, likeFlags]
  | cons c pattern ih =>
      rw [List.flatMap_cons, List.length_append] at hfuel
      obtain ⟨fuel', hfuel', hread⟩ := readGroup?_piece hflags fuel
        (pattern.flatMap likePiece ++ ['$']) c (head?_pieces pattern) (by omega)
      rw [List.flatMap_cons, List.append_assoc, hread, List.map_cons,
        List.foldl_cons]
      exact ih (g := g.push (likePart c)) hflags fuel' (by omega)

end

def likeStart : OpenGroup :=
  { flags := likeFlags
    parts := [{ regex := look .textStart }, { regex := empty, repeatable := false }] }

theorem toList_likeText (pattern : String) : (likeText pattern).toList =
    '(' :: '?' :: 's' :: ')' :: '^' :: (pattern.toList.flatMap likePiece ++ ['$']) := by
  simp [likeText]

theorem readGroup?_start (fuel : Nat) (rest : List Char) :
    readGroup? (fuel + 2) {} ('(' :: '?' :: 's' :: ')' :: '^' :: rest) =
      readGroup? fuel likeStart rest := by
  simp [readGroup?, skip, readGroupStart?, readFlags?, setFlag?, OpenGroup.setFlags, OpenGroup.push,
    Flags.caret, likeStart, likeFlags]

theorem foldl_push (g : OpenGroup) (ps : List Part) :
    ps.foldl OpenGroup.push g = { g with parts := ps.reverse ++ g.parts } := by
  induction ps generalizing g with
  | nil => rfl
  | cons p ps ih => simp [ih, OpenGroup.push]

def likeGroup (pattern : String) : OpenGroup :=
  ((pattern.toList.map likePart).foldl OpenGroup.push likeStart).push { regex := look .textEnd }

theorem readGroup?_likeText (pattern : String) :
    readGroup? ((likeText pattern).toList.length + 1) {} (likeText pattern).toList =
      some (likeGroup pattern, []) := by
  rw [toList_likeText]
  simp only [List.length_cons, List.length_append, List.length_nil]
  rw [readGroup?_start]
  exact readGroup?_pieces rfl _ _ (by omega)

theorem depth_likePart (c : Char) : (likePart c).depth ≤ 1 := by
  rw [likePart]
  split
  · exact Nat.le_refl 1
  · exact Nat.zero_le 1

theorem foldl_depth_le (pattern : List Char) {n : Nat} (hn : n ≤ 1) :
    (pattern.map likePart).foldl (fun n p => max n p.depth) n ≤ 1 := by
  induction pattern generalizing n with
  | nil => exact hn
  | cons c pattern ih => exact ih (max_le hn (depth_likePart c))

theorem parts_likeGroup (pattern : String) :
    (likeGroup pattern).parts.reverse = { regex := empty, repeatable := false } ::
      { regex := look .textStart } :: (pattern.toList.map likePart ++ [{ regex := look .textEnd }]) := by
  simp [likeGroup, OpenGroup.push, foldl_push, likeStart]

theorem value_likeGroup (pattern : String) : (likeGroup pattern).value =
    joined concat (likeGroup pattern).parts.reverse := by
  simp [OpenGroup.value, OpenGroup.sequence, likeGroup, OpenGroup.push, foldl_push, likeStart,
    joined]

theorem regex_likeGroup (pattern : String) : (likeGroup pattern).value.regex = ofLike pattern := by
  have hparts : (pattern.toList.map likePart).map (·.regex) = pattern.toList.map likeChar := by
    simp [Function.comp_def, likePart]
  rw [value_likeGroup, parts_likeGroup, joined, List.map_cons, List.map_cons, List.map_append,
    hparts]
  · rfl
  · simp
  · simp

theorem depth_likeGroup (pattern : String) : (likeGroup pattern).value.depth ≤ 2 := by
  rw [value_likeGroup, parts_likeGroup, joined, List.foldl_cons, List.foldl_cons,
    List.foldl_append]
  · have := foldl_depth_le pattern.toList (Nat.zero_le 1)
    simpa using this
  · simp
  · simp

theorem like?_eq (pattern : String) :
    like? pattern = if (ofLike pattern).fits then some (ofLike pattern) else none := by
  have hdepth : (likeGroup pattern).value.depth ≤ depthLimit :=
    (depth_likeGroup pattern).trans (by decide)
  rw [like?, read?]
  simp only [readGroup?_likeText, regex_likeGroup, hdepth, decide_true, Bool.true_and]

end Regex

namespace Operation

/-- LIKE is true for the texts that the pattern stands for, and NOT LIKE for all others. -/
theorem matchPattern_like (pattern value : String)
    (hfits : (Regex.ofLike pattern).fits = true) : ∃ r matched,
      compilePattern .like pattern = .ok r ∧ compilePattern .notLike pattern = .ok r ∧
      matchPattern .like (.string value) r = .ok (.boolean matched) ∧
      matchPattern .notLike (.string value) r = .ok (.boolean !matched) ∧
      (matched = true ↔ Likes pattern.toList value.toList) := by
  refine ⟨Regex.ofLike pattern, (Regex.ofLike pattern).isMatch value, ?_, ?_, rfl, rfl,
    Regex.isMatch_ofLike pattern value⟩
  · simp [compilePattern, Regex.like?_eq, hfits]
  · simp [compilePattern, Regex.like?_eq, hfits]

theorem matchPattern_like_line_break : (Regex.ofLike "a.%_").fits = true ∧
    ∃ r, compilePattern .like "a.%_" = .ok r ∧
      matchPattern .like (.string "a.\n%é") r = .ok (.boolean true) := by
  have hfits : (Regex.ofLike "a.%_").fits = true := by cbv
  obtain ⟨r, matched, hr, -, hmatch, -, hiff⟩ := matchPattern_like "a.%_" "a.\n%é" hfits
  have hlikes : Likes "a.%_".toList "a.\n%é".toList := by
    simp only [String.toList]
    exact .itself (by decide) (by decide) <| .itself (by decide) (by decide) <|
      .sequence ['\n', '%'] <| .character 'é' .nil
  rw [hiff.2 hlikes] at hmatch
  exact ⟨hfits, r, hr, hmatch⟩

end Operation

end QueryEngine
