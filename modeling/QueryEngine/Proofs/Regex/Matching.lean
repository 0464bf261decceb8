import Mathlib.Data.Nat.Bitwise
import QueryEngine.Regex.Basic

namespace QueryEngine

def Steps (R : Nat → Nat → Prop) : Nat → Nat → Nat → Prop
  | 0, i, j => i = j
  | k + 1, i, j => ∃ m, R i m ∧ Steps R k m j

/-- A function on sets of positions leads on exactly as the relation does. -/
def Leads (step : Nat → Nat) (R : Nat → Nat → Prop) : Prop :=
  ∀ s j, (step s).testBit j = true ↔ ∃ i, s.testBit i = true ∧ R i j

section

variable {R : Nat → Nat → Prop} {step : Nat → Nat} {s i j k n : Nat}

theorem Leads.comp {f g : Nat → Nat} {Q : Nat → Nat → Prop} (hf : Leads f Q) (hg : Leads g R) :
    Leads (fun s => g (f s)) fun i j => ∃ m, Q i m ∧ R m j := by
  intro s j
  rw [hg]
  simp only [hf s]
  constructor
  · rintro ⟨m, ⟨i, hi, him⟩, hmj⟩
    exact ⟨i, hi, m, him, hmj⟩
  · rintro ⟨i, hi, m, him, hmj⟩
    exact ⟨m, ⟨i, hi, him⟩, hmj⟩

theorem steps_add (m : Nat) :
    Steps R (k + m) i j ↔ ∃ p, Steps R k i p ∧ Steps R m p j := by
  induction k generalizing i with
  | zero => simp [Steps]
  | succ k ih =>
      simp only [Nat.succ_add, Steps, ih]
      constructor
      · rintro ⟨p, hp, q, hq, hj⟩
        exact ⟨q, ⟨p, hp, hq⟩, hj⟩
      · rintro ⟨q, ⟨p, hp, hq⟩, hj⟩
        exact ⟨p, hp, q, hq, hj⟩

theorem testBit_of_steps (hclosed : ∀ i j, s.testBit i = true → R i j → s.testBit j = true)
    (hi : s.testBit i = true) (h : Steps R k i j) : s.testBit j = true := by
  induction k generalizing i with
  | zero => exact h ▸ hi
  | succ k ih =>
      obtain ⟨m, him, hmj⟩ := h
      exact ih (hclosed i m hi him) hmj

theorem Leads.iterate (h : Leads step R) (k : Nat) : Leads (Regex.iterate step k) (Steps R k) := by
  induction k with
  | zero =>
      intro s j
      simp [Regex.iterate, Steps]
  | succ k ih =>
      intro s j
      rw [Regex.iterate]
      split
      · next hfix =>
          -- the set is its own image, so each position in it has a predecessor in it
          have hclosed : ∀ i j, s.testBit i = true → R i j → s.testBit j = true :=
            fun i j hi hij => by
              rw [← hfix, h]
              exact ⟨i, hi, hij⟩
          have hback : ∀ m j, s.testBit j = true → ∃ i, s.testBit i = true ∧ Steps R m i j := by
            intro m
            induction m with
            | zero => exact fun j hj => ⟨j, hj, rfl⟩
            | succ m ihm =>
                intro j hj
                obtain ⟨p, hp, hpj⟩ := ihm j hj
                rw [← hfix, h] at hp
                obtain ⟨i, hi, hip⟩ := hp
                exact ⟨i, hi, p, hip, hpj⟩
          exact ⟨hback (k + 1) j, fun ⟨i, hi, hij⟩ => testBit_of_steps hclosed hi hij⟩
      · exact h.comp ih s j

theorem Leads.closure (h : Leads step R) (k : Nat) :
    Leads (Regex.closure step k) fun i j => ∃ m ≤ k, Steps R m i j := by
  induction k with
  | zero =>
      intro s j
      simp [Regex.closure, Steps]
  | succ k ih =>
      intro s j
      rw [Regex.closure]
      split
      · next hfix =>
          have hclosed : ∀ i j, s.testBit i = true → R i j → s.testBit j = true :=
            fun i j hi hij => by
              rw [← hfix, Nat.testBit_or, (h s j).2 ⟨i, hi, hij⟩, Bool.or_true]
          exact ⟨fun hj => ⟨j, hj, 0, Nat.zero_le _, rfl⟩,
            fun ⟨i, hi, m, _, hij⟩ => testBit_of_steps hclosed hi hij⟩
      · rw [ih]
        simp only [Nat.testBit_or, Bool.or_eq_true, h s]
        constructor
        · rintro ⟨p, hp | ⟨i, hi, hip⟩, m, hm, hpj⟩
          · exact ⟨p, hp, m, Nat.le_succ_of_le hm, hpj⟩
          · exact ⟨i, hi, m + 1, Nat.succ_le_succ hm, p, hip, hpj⟩
        · rintro ⟨i, hi, m, hm, hij⟩
          cases m with
          | zero => exact ⟨i, .inl hi, 0, Nat.zero_le _, hij⟩
          | succ m =>
              obtain ⟨p, hip, hpj⟩ := hij
              exact ⟨p, .inr ⟨i, hi, hip⟩, m, Nat.le_of_succ_le_succ hm, hpj⟩

/-- Steps that go forward, and end within `n` unless they stay where they are. -/
def Forward (n : Nat) (R : Nat → Nat → Prop) : Prop :=
  ∀ i j, R i j → i ≤ j ∧ (i = j ∨ j ≤ n)

theorem Forward.steps (h : Forward n R) (k : Nat) : Forward n (Steps R k) := by
  induction k with
  | zero =>
      intro i j hij
      exact ⟨hij.le, .inl hij⟩
  | succ k ih =>
      rintro i j ⟨m, him, hmj⟩
      have h₁ := h i m him
      have h₂ := ih m j hmj
      omega

/-- Steps that stay where they are can be left out, so that no more are left than positions. -/
theorem Forward.exists_steps_le (h : Forward n R) (hij : Steps R k i j) :
    ∃ m ≤ j - i, Steps R m i j := by
  induction k generalizing i with
  | zero => exact ⟨0, Nat.zero_le _, hij⟩
  | succ k ih =>
      obtain ⟨p, hip, hpj⟩ := hij
      obtain ⟨m, hm, hmj⟩ := ih hpj
      have hle := (h i p hip).1
      have hle' := (h.steps k p j hpj).1
      by_cases heq : i = p
      · exact ⟨m, heq ▸ hm, heq ▸ hmj⟩
      · exact ⟨m + 1, by omega, p, hip, hmj⟩

end

/-- The character before a position, where `first` stands before the whole text. -/
def previous (first : Option Char) (cs : List Char) : Nat → Option Char
  | 0 => first
  | i + 1 => cs[i]?

namespace Subject

theorem testBit_one_shiftLeft {n i : Nat} : (1 <<< n).testBit i = true ↔ n = i := by
  rw [Nat.one_shiftLeft, Nat.testBit_two_pow, decide_eq_true_eq]

def HasPlace (places : List (Char × Nat)) (c : Char) (i : Nat) : Prop :=
  ∃ p ∈ places, p.1 = c ∧ p.2.testBit i = true

theorem hasPlace_cons {p : Char × Nat} {places : List (Char × Nat)} {c : Char} {i : Nat} :
    HasPlace (p :: places) c i ↔ (p.1 = c ∧ p.2.testBit i = true) ∨ HasPlace places c i := by
  simp [HasPlace]

theorem hasPlace_addPlace (p : Char × Nat) (places : List (Char × Nat)) {c : Char} {i : Nat} :
    HasPlace (addPlace p places) c i ↔ p = (c, i) ∨ HasPlace places c i := by
  obtain ⟨d, n⟩ := p
  induction places with
  | nil => simp only [addPlace, hasPlace_cons, testBit_one_shiftLeft, Prod.mk.injEq]
  | cons q places ih =>
      obtain ⟨e, positions⟩ := q
      rw [addPlace]
      split
      · next hde =>
          obtain rfl : d = e := hde
          simp only [hasPlace_cons, Nat.testBit_or, Bool.or_eq_true, testBit_one_shiftLeft,
            Prod.mk.injEq]
          tauto
      · simp only [hasPlace_cons, testBit_one_shiftLeft, Prod.mk.injEq]

theorem hasPlace_foldr (chars : List (Char × Nat)) {c : Char} {i : Nat} :
    HasPlace (chars.foldr addPlace []) c i ↔ (c, i) ∈ chars := by
  induction chars with
  | nil => simp [HasPlace]
  | cons p chars ih => rw [List.foldr_cons, hasPlace_addPlace, ih, List.mem_cons, eq_comm]

theorem hasPlace_ofString (s : String) {c : Char} {i : Nat} :
    HasPlace (ofString s).places c i ↔ s.toList[i]? = some c := by
  rw [ofString, hasPlace_foldr, List.mem_mergeSort, List.mem_zipIdx_iff_getElem?]

theorem testBit_startsOf (subject : Subject) (p : Char → Bool) (i : Nat) :
    (subject.startsOf p).testBit i = true ↔ ∃ c, p c = true ∧ HasPlace subject.places c i := by
  have hfold (starts : Nat) (places : List (Char × Nat)) :
      (places.foldl (fun starts q => if p q.1 then starts ||| q.2 else starts) starts).testBit i
        = true ↔
        starts.testBit i = true ∨ ∃ c, p c = true ∧ HasPlace places c i := by
    induction places generalizing starts with
    | nil => simp [HasPlace]
    | cons q places ih =>
        obtain ⟨d, positions⟩ := q
        rw [List.foldl_cons, ih]
        simp only [hasPlace_cons]
        by_cases hd : p d = true
        · simp only [hd, if_true, Nat.testBit_or, Bool.or_eq_true]
          constructor
          · rintro ((h | h) | ⟨c, hc, h⟩)
            · exact .inl h
            · exact .inr ⟨d, hd, .inl ⟨rfl, h⟩⟩
            · exact .inr ⟨c, hc, .inr h⟩
          · rintro (h | ⟨c, hc, ⟨rfl, h⟩ | h⟩)
            · exact .inl (.inl h)
            · exact .inl (.inr h)
            · exact .inr ⟨c, hc, h⟩
        · simp only [hd, Bool.false_eq_true, if_false]
          refine or_congr_right (exists_congr fun c => and_congr_right fun hc => ?_)
          rw [or_iff_right]
          rintro ⟨rfl, -⟩
          exact hd hc
  exact (hfold 0 subject.places).trans (by simp)

theorem testBit_startsOf_ofString (s : String) (p : Char → Bool) (i : Nat) :
    ((ofString s).startsOf p).testBit i = true ↔ ∃ c, s.toList[i]? = some c ∧ p c = true := by
  simp only [testBit_startsOf, hasPlace_ofString, and_comm]

theorem previous_cons (first : Option Char) (c : Char) (cs : List Char) (i : Nat) :
    previous first (c :: cs) (i + 1) = previous (some c) cs i := by
  cases i <;> rfl

theorem testBit_lookMask (p : Option Char → Option Char → Bool) (n : Nat) (first : Option Char)
    (cs : List Char) (j : Nat) : (lookMask p n first cs).testBit j = true ↔
      ∃ i ≤ cs.length, j = n + i ∧ p (previous first cs i) cs[i]? = true := by
  have hbit (b : Bool) (n : Nat) :
      (if b then 1 <<< n else 0).testBit j = true ↔ j = n ∧ b = true := by
    cases b
    · simp
    · rw [if_pos rfl, testBit_one_shiftLeft, eq_comm]
      simp
  induction cs generalizing n first with
  | nil =>
      rw [lookMask, hbit]
      simp [previous]
  | cons c cs ih =>
      simp only [lookMask, Nat.testBit_or, Bool.or_eq_true, hbit, ih, List.length_cons]
      constructor
      · rintro (⟨rfl, h⟩ | ⟨i, hi, rfl, h⟩)
        · exact ⟨0, Nat.zero_le _, rfl, h⟩
        · exact ⟨i + 1, Nat.succ_le_succ hi, by omega, by rwa [previous_cons]⟩
      · rintro ⟨i, hi, rfl, h⟩
        cases i with
        | zero => exact .inl ⟨rfl, h⟩
        | succ i =>
            rw [previous_cons] at h
            exact .inr ⟨i, Nat.le_of_succ_le_succ hi, by omega, h⟩

theorem testBit_allPositions (subject : Subject) (i : Nat) :
    subject.allPositions.testBit i = true ↔ i ≤ subject.chars.length := by
  rw [allPositions, Nat.one_shiftLeft, Nat.testBit_two_pow_sub_one, decide_eq_true_eq,
    Nat.lt_succ_iff]

end Subject

namespace Regex

section

variable (cs : List Char)

mutual

/-- The parts of the text that an expression matches, from one position to another. A repetition
takes place `least` times, and then again as long as `most` allows it. -/
def Spans : Regex → Nat → Nat → Prop
  | empty, i, j => i = j
  | text ds, i, j => ds <+: cs.drop i ∧ j = i + ds.length
  | oneOf set, i, j => (∃ c, cs[i]? = some c ∧ set.contains c = true) ∧ j = i + 1
  | look l, i, j => i = j ∧ i ≤ cs.length ∧ l.holds (previous none cs i) cs[i]? = true
  | .repeat r least most _, i, j =>
    ∃ k, (∀ n ∈ most, k ≤ n - least) ∧ Steps (Spans r) (least + k) i j
  | capture r, i, j => Spans r i j
  | seq rs, i, j => SpansSeq rs i j
  | alt rs, i, j => SpansAlt rs i j

def SpansSeq : List Regex → Nat → Nat → Prop
  | [], i, j => i = j
  | r :: rs, i, j => ∃ m, Spans r i m ∧ SpansSeq rs m j

def SpansAlt : List Regex → Nat → Nat → Prop
  | [], _, _ => False
  | r :: rs, i, j => Spans r i j ∨ SpansAlt rs i j

end

mutual

theorem forward_spans : (r : Regex) → Forward cs.length (Spans cs r)
  | empty => fun i j h => by
      have : i = j := by simpa [Spans] using h
      omega
  | text ds => fun i j h => by
      obtain ⟨hstarts, rfl⟩ : ds <+: cs.drop i ∧ j = i + ds.length := by simpa [Spans] using h
      have hlength := hstarts.length_le
      rw [List.length_drop] at hlength
      omega
  | oneOf set => fun i j h => by
      obtain ⟨⟨c, hc, -⟩, rfl⟩ :
          (∃ c, cs[i]? = some c ∧ set.contains c = true) ∧ j = i + 1 := by simpa [Spans] using h
      obtain ⟨hi, -⟩ := List.getElem?_eq_some_iff.1 hc
      omega
  | look l => fun i j h => by
      rw [Spans] at h
      omega
  | .repeat r least most _ => fun i j h => by
      rw [Spans] at h
      obtain ⟨k, -, h⟩ := h
      exact (forward_spans r).steps (least + k) i j h
  | capture r => fun i j h => forward_spans r i j (by rwa [Spans] at h)
  | seq rs => fun i j h => forward_spansSeq rs i j (by rwa [Spans] at h)
  | alt rs => fun i j h => forward_spansAlt rs i j (by rwa [Spans] at h)

theorem forward_spansSeq : (rs : List Regex) → Forward cs.length (SpansSeq cs rs)
  | [] => fun i j h => by
      have : i = j := by simpa [SpansSeq] using h
      omega
  | r :: rs => fun i j h => by
      rw [SpansSeq] at h
      obtain ⟨m, him, hmj⟩ := h
      have h₁ := forward_spans r i m him
      have h₂ := forward_spansSeq rs m j hmj
      omega

theorem forward_spansAlt : (rs : List Regex) → Forward cs.length (SpansAlt cs rs)
  | [] => fun i j h => by
      rw [SpansAlt] at h
      exact h.elim
  | r :: rs => fun i j h => by
      rw [SpansAlt] at h
      exact h.elim (forward_spans r i j) (forward_spansAlt rs i j)

end

end

section

variable (s : String)

theorem steppersOnto_eq (subject : Subject) (acc : List Stepper) (rs : List Regex) :
    steppersOnto subject acc rs = (rs.map (stepper subject)).reverse ++ acc := by
  induction rs generalizing acc with
  | nil => rfl
  | cons r rs ih => simp [steppersOnto, ih]

theorem leads_advance (p : Char → Bool) :
    Leads ((Stepper.advance ((Subject.ofString s).startsOf p)).ends (Subject.ofString s))
      fun i j => (∃ c, s.toList[i]? = some c ∧ p c = true) ∧ j = i + 1 := by
  intro t j
  rw [Stepper.ends]
  cases j with
  | zero => simp
  | succ j =>
      simp only [Nat.testBit_shiftLeft, Nat.testBit_and, Bool.and_eq_true, decide_eq_true_eq,
        Subject.testBit_startsOf_ofString, Nat.add_right_cancel_iff]
      constructor
      · rintro ⟨-, hj, hc⟩
        exact ⟨j, hj, hc, rfl⟩
      · rintro ⟨i, hi, hc, rfl⟩
        exact ⟨by omega, hi, hc⟩

theorem cons_prefix_drop {cs ds : List Char} {d : Char} {i : Nat} :
    d :: ds <+: cs.drop i ↔ cs[i]? = some d ∧ ds <+: cs.drop (i + 1) := by
  by_cases hi : i < cs.length
  · rw [List.drop_eq_getElem_cons hi, List.cons_prefix_cons, List.getElem?_eq_getElem hi,
      Option.some.injEq, eq_comm]
  · rw [List.drop_eq_nil_of_le (Nat.not_lt.1 hi), List.getElem?_eq_none (Nat.not_lt.1 hi)]
    simp

theorem leads_text (ds : List Char) :
    Leads (Stepper.endsSeq (Subject.ofString s)
        (ds.map fun d => .advance ((Subject.ofString s).startsOf (· == d))))
      fun i j => ds <+: s.toList.drop i ∧ j = i + ds.length := by
  induction ds with
  | nil =>
      intro t j
      simp [Stepper.endsSeq]
  | cons d ds ih =>
      intro t j
      rw [List.map_cons, Stepper.endsSeq, (leads_advance s (· == d)).comp ih t j]
      refine exists_congr fun i => and_congr_right fun _ => ?_
      simp only [cons_prefix_drop]
      constructor
      · rintro ⟨m, ⟨⟨c, hc, hcd⟩, rfl⟩, hds, rfl⟩
        obtain rfl : c = d := by simpa using hcd
        exact ⟨⟨hc, hds⟩, by rw [List.length_cons]; omega⟩
      · rintro ⟨⟨hd, hds⟩, rfl⟩
        exact ⟨i + 1, ⟨⟨d, hd, by simp⟩, rfl⟩, hds, by rw [List.length_cons]; omega⟩

theorem leads_look (l : Look) :
    Leads ((Stepper.keep ((Subject.ofString s).positionsOf l)).ends (Subject.ofString s))
      (Spans s.toList (look l)) := by
  intro t j
  rw [Stepper.ends, Nat.testBit_and, Bool.and_eq_true, Subject.positionsOf,
    Subject.testBit_lookMask]
  simp only [Spans, Nat.zero_add]
  constructor
  · rintro ⟨hj, i, hi, rfl, hl⟩
    exact ⟨j, hj, rfl, hi, hl⟩
  · rintro ⟨i, ht, rfl, hi, hl⟩
    exact ⟨ht, i, hi, rfl, hl⟩

theorem leads_repeat {a : Stepper} {R : Nat → Nat → Prop}
    (ha : Leads (a.ends (Subject.ofString s)) R) (hforward : Forward s.toList.length R)
    (least : Nat) (most : Option Nat) :
    Leads ((Stepper.repeat a least most).ends (Subject.ofString s))
      fun i j => ∃ k, (∀ n ∈ most, k ≤ n - least) ∧ Steps R (least + k) i j := by
  intro t j
  rw [Stepper.ends, (ha.iterate least).comp (ha.closure _) t j]
  refine exists_congr fun i => and_congr_right fun _ => ?_
  constructor
  · rintro ⟨m, him, k, hk, hmj⟩
    refine ⟨k, ?_, (steps_add k).2 ⟨m, him, hmj⟩⟩
    rintro n ⟨⟩
    exact hk
  · rintro ⟨k, hk, hij⟩
    obtain ⟨m, him, hmj⟩ := (steps_add k).1 hij
    cases most with
    | some n => exact ⟨m, him, k, hk n rfl, hmj⟩
    | none =>
        obtain ⟨k', hk', hmj'⟩ := hforward.exists_steps_le hmj
        have hend := hforward.steps k m j hmj
        refine ⟨m, him, k', ?_, hmj'⟩
        show k' ≤ s.toList.length + 1
        omega

mutual

theorem leads_ends : (r : Regex) →
    Leads ((r.stepper (Subject.ofString s)).ends (Subject.ofString s)) (Spans s.toList r)
  | empty => fun t j => by simp [stepper, Stepper.ends, Stepper.endsSeq, Spans]
  | text ds => fun t j => by
      simpa only [stepper, Stepper.ends, Spans] using leads_text s ds t j
  | oneOf set => fun t j => by
      simpa only [stepper, Spans] using leads_advance s set.contains t j
  | look l => leads_look s l
  | .repeat r least most _ => fun t j => by
      simpa only [stepper, Spans] using
        leads_repeat s (leads_ends r) (forward_spans s.toList r) least most t j
  | capture r => fun t j => by simpa only [stepper, Spans] using leads_ends r t j
  | seq rs => fun t j => by
      simpa [stepper, Stepper.ends, Spans, steppersOnto_eq] using leads_endsSeq rs t j
  | alt rs => fun t j => by
      simpa [stepper, Stepper.ends, Spans, steppersOnto_eq] using leads_endsAlt rs t 0 j

theorem leads_endsSeq : (rs : List Regex) →
    Leads (Stepper.endsSeq (Subject.ofString s) (rs.map (stepper (Subject.ofString s))))
      (SpansSeq s.toList rs)
  | [] => fun t j => by simp [Stepper.endsSeq, SpansSeq]
  | r :: rs => fun t j => by
      simpa only [List.map_cons, Stepper.endsSeq, SpansSeq] using
        (leads_ends r).comp (leads_endsSeq rs) t j

theorem leads_endsAlt : (rs : List Regex) → (t acc j : Nat) →
    ((Stepper.endsAlt (Subject.ofString s) (rs.map (stepper (Subject.ofString s))) t acc).testBit j
      = true ↔ acc.testBit j = true ∨ ∃ i, t.testBit i = true ∧ SpansAlt s.toList rs i j)
  | [], t, acc, j => by simp [Stepper.endsAlt, SpansAlt]
  | r :: rs, t, acc, j => by
      simp only [List.map_cons, Stepper.endsAlt, leads_endsAlt rs, Nat.testBit_or,
        Bool.or_eq_true, leads_ends r t j, SpansAlt, and_or_left, exists_or, or_assoc]

end

/-- A match is found exactly if the expression spans some part of the text. -/
theorem isMatch_iff (r : Regex) :
    r.isMatch s = true ↔ ∃ i j, i ≤ s.toList.length ∧ Spans s.toList r i j := by
  have hzero (n : Nat) : (n != 0) = true ↔ ∃ j, n.testBit j = true := by
    rw [bne_iff_ne]
    constructor
    · exact Nat.exists_testBit_of_ne_zero
    · rintro ⟨j, hj⟩ rfl
      simp at hj
  rw [isMatch, hzero]
  simp only [leads_ends s r (Subject.ofString s).allPositions, Subject.testBit_allPositions]
  exact exists_comm

end

end Regex

end QueryEngine
