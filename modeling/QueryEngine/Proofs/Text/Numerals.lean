import Mathlib.Algebra.Group.Nat.Defs
import Mathlib.Data.List.Basic
import QueryEngine.Text

namespace QueryEngine.Text

theorem isBlank_of_isDigit {c : Char} (h : isDigit c = true) : isBlank c = false := by
  simp only [isDigit, Bool.and_eq_true, decide_eq_true_eq, Char.le_def, UInt32.le_iff_toNat_le]
    at h
  change 48 ≤ c.toNat ∧ c.toNat ≤ 57 at h
  have hlow := h.1
  have hhigh := h.2
  simp [isBlank]
  omega

/-- The text is a run of digits for the number. -/
structure Numeral (ds : List Char) (n : Nat) : Prop where
  digits : ∀ c ∈ ds, isDigit c = true
  nonempty : ds ≠ []
  value : digitsValue ds = n

theorem isDigit_of_mem_toDigits {c : Char} {n : Nat} (h : c ∈ Nat.toDigits 10 n) :
    isDigit c = true :=
  Nat.isDigit_of_mem_toDigits (by decide) (by decide) h

theorem numeral_toString (n : Nat) : Numeral (toString n).toList n where
  digits c hc := isDigit_of_mem_toDigits (by simpa [Nat.toString_eq_repr] using hc)
  nonempty := by simp [Nat.toString_eq_repr, Nat.toDigits_ne_nil]
  value := by
    rw [Nat.toString_eq_repr, Nat.toList_repr]
    exact Nat.ofDigitChars_ten_toDigits

theorem toList_padded (width n : Nat) :
    (padded width n).toList =
      List.replicate (width - (Nat.toDigits 10 n).length) '0' ++ Nat.toDigits 10 n := by
  simp [padded, Nat.toString_eq_repr, ← String.length_toList]

theorem numeral_padded (width n : Nat) : Numeral (padded width n).toList n where
  digits c hc := by
    rw [toList_padded, List.mem_append, List.mem_replicate] at hc
    rcases hc with ⟨-, rfl⟩ | hc
    · rfl
    · exact isDigit_of_mem_toDigits hc
  nonempty := by simp [toList_padded, Nat.toDigits_ne_nil]
  value := by
    rw [toList_padded]
    change Nat.ofDigitChars 10 (_ ++ _) 0 = n
    rw [Nat.ofDigitChars_append, Nat.ofDigitChars_replicate_zero, Nat.mul_zero,
      Nat.ofDigitChars_ten_toDigits]

theorem length_padded {width n : Nat} (hwidth : 0 < width) (hn : n < 10 ^ width) :
    (padded width n).toList.length = width := by
  have hle := (Nat.length_toDigits_le_iff (by decide) hwidth).2 hn
  rw [toList_padded, List.length_append, List.length_replicate]
  omega

theorem Numeral.exists_cons {ds : List Char} {n : Nat} (h : Numeral ds n) :
    ∃ d ds', ds = d :: ds' ∧ isDigit d = true := by
  obtain ⟨d, ds', rfl⟩ := List.exists_cons_of_ne_nil h.nonempty
  exact ⟨d, ds', rfl, h.digits d List.mem_cons_self⟩

theorem Numeral.append_ne_cons {ds rest cs : List Char} {n : Nat} {c : Char} (h : Numeral ds n)
    (hc : isDigit c = false) : ds ++ rest ≠ c :: cs := by
  obtain ⟨d, ds', rfl, hd⟩ := h.exists_cons
  rintro heq
  obtain ⟨rfl, -⟩ := List.cons.inj heq
  exact Bool.false_ne_true (hc.symm.trans hd)

def StopsDigits (rest : List Char) : Prop :=
  ∀ c ∈ rest.head?, isDigit c = false

@[simp] theorem stopsDigits_nil : StopsDigits [] := by
  simp [StopsDigits]

@[simp] theorem stopsDigits_cons {c : Char} {rest : List Char} :
    StopsDigits (c :: rest) ↔ isDigit c = false := by
  simp [StopsDigits]

theorem StopsDigits.takeWhile {rest : List Char} (h : StopsDigits rest) :
    rest.takeWhile isDigit = [] := by
  cases rest with
  | nil => rfl
  | cons c cs => simp [stopsDigits_cons.1 h]

theorem Numeral.takeWhile {ds rest : List Char} {n : Nat} (h : Numeral ds n)
    (hrest : StopsDigits rest) : (ds ++ rest).takeWhile isDigit = ds := by
  rw [List.takeWhile_append_of_pos h.digits, hrest.takeWhile, List.append_nil]

theorem Numeral.trimStart {ds : List Char} {n : Nat} (h : Numeral ds n) (rest : List Char) :
    trimStart (ds ++ rest) = ds ++ rest := by
  obtain ⟨d, ds', rfl, hd⟩ := h.exists_cons
  simp [Text.trimStart, isBlank_of_isDigit hd]

def Solid (cs : List Char) : Prop :=
  ∀ c ∈ cs, isBlank c = false

@[simp] theorem solid_nil : Solid [] := by
  simp [Solid]

@[simp] theorem solid_cons {c : Char} {cs : List Char} :
    Solid (c :: cs) ↔ isBlank c = false ∧ Solid cs := by
  simp [Solid]

@[simp] theorem solid_append {cs cs' : List Char} : Solid (cs ++ cs') ↔ Solid cs ∧ Solid cs' := by
  simp [Solid, or_imp, forall_and]

theorem Numeral.solid {ds : List Char} {n : Nat} (h : Numeral ds n) : Solid ds :=
  fun c hc => isBlank_of_isDigit (h.digits c hc)

structure Tight (cs : List Char) : Prop where
  first : ∀ c ∈ cs.head?, isBlank c = false
  last : ∀ c ∈ cs.getLast?, isBlank c = false

theorem Solid.tight {cs : List Char} (h : Solid cs) : Tight cs where
  first c hc := h c (List.mem_of_mem_head? hc)
  last c hc := h c (List.mem_of_mem_getLast? hc)

theorem Tight.append {cs cs' : List Char} (mid : List Char) (h : Tight cs) (h' : Tight cs')
    (hcs : cs ≠ []) (hcs' : cs' ≠ []) : Tight (cs ++ mid ++ cs') where
  first c hc := by
    rw [List.append_assoc, List.head?_append_of_ne_nil _ hcs] at hc
    exact h.first c hc
  last c hc := by
    rw [List.getLast?_append_of_ne_nil _ hcs'] at hc
    exact h'.last c hc

theorem trimStart_of_first {cs : List Char} (h : ∀ c ∈ cs.head?, isBlank c = false) :
    trimStart cs = cs := by
  cases cs with
  | nil => rfl
  | cons c cs => simp [trimStart, h c rfl]

theorem trim_of_tight {s : String} (h : Tight s.toList) : trim s = s.toList := by
  have hlast : ∀ c ∈ s.toList.reverse.head?, isBlank c = false := by
    simpa using h.last
  rw [trim, trimStart_of_first h.first, trimStart_of_first hlast, List.reverse_reverse]

end QueryEngine.Text
