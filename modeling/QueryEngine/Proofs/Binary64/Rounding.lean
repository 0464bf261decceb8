import QueryEngine.Binary64
import Mathlib.Tactic.Ring

namespace QueryEngine

namespace Binary64

theorem roundQuotient_mono {n m d : Nat} (h : n ≤ m) : roundQuotient n d ≤ roundQuotient m d := by
  have hdiv : n / d ≤ m / d := Nat.div_le_div_right h
  rcases Nat.lt_or_eq_of_le hdiv with hlt | heq
  · unfold roundQuotient
    dsimp only
    split <;> split <;> omega
  · have hmod : n % d ≤ m % d := by
      have hn := Nat.div_add_mod n d
      have hm := Nat.div_add_mod m d
      rw [heq] at hn
      omega
    unfold roundQuotient
    dsimp only
    rw [heq]
    split <;> split <;> omega

theorem le_roundQuotient {n d k : Nat} (hd : 0 < d) (h : k * d ≤ n) : k ≤ roundQuotient n d := by
  have hk : k ≤ n / d := (Nat.le_div_iff_mul_le hd).2 h
  unfold roundQuotient
  dsimp only
  split <;> omega

theorem roundQuotient_le {n d k : Nat} (hd : 0 < d) (h : n ≤ k * d) : roundQuotient n d ≤ k := by
  have hself : roundQuotient (k * d) d = k := by
    unfold roundQuotient
    simp only [Nat.mul_div_cancel _ hd, Nat.mul_mod_left]
    split <;> omega
  exact hself ▸ roundQuotient_mono h

def scaledInt (n : Nat) : Nat × Nat :=
  scaled n 1 (n.log2 - 52)

theorem scaledInt_bounds {n : Nat} (hn : n ≠ 0) :
    0 < (scaledInt n).2 ∧ hiddenBit * (scaledInt n).2 ≤ (scaledInt n).1 ∧
      (scaledInt n).1 < 2 * hiddenBit * (scaledInt n).2 := by
  have hlow : 2 ^ n.log2 ≤ n := Nat.log2_self_le hn
  have hhigh : n < 2 ^ (n.log2 + 1) := Nat.lt_log2_self
  unfold scaledInt scaled
  split
  · next h =>
      obtain ⟨k, hk⟩ : ∃ k, n.log2 = 52 + k := ⟨n.log2 - 52, by omega⟩
      have hexp : (((n.log2 : Nat) : Int) - 52).toNat = k := by omega
      rw [hk] at hlow hhigh
      have hsplit : 2 ^ (52 + k) = hiddenBit * 2 ^ k := by
        rw [Nat.pow_add]
        rfl
      have hsplit' : 2 ^ (52 + k + 1) = 2 * hiddenBit * 2 ^ k := by
        rw [Nat.pow_succ, hsplit]
        ring
      simp only [hexp, Nat.shiftLeft_eq, Nat.one_mul]
      exact ⟨Nat.two_pow_pos k, by omega, by omega⟩
  · next h =>
      obtain ⟨k, hk⟩ : ∃ k, n.log2 + k = 52 := ⟨52 - n.log2, by omega⟩
      have hexp : (-(((n.log2 : Nat) : Int) - 52)).toNat = k := by omega
      have hpos := Nat.two_pow_pos k
      have hsplit : 2 ^ n.log2 * 2 ^ k = hiddenBit := by
        rw [← Nat.pow_add, hk]
        rfl
      have hlow' := Nat.mul_le_mul_right (2 ^ k) hlow
      have hhigh' := Nat.mul_lt_mul_of_pos_right hhigh hpos
      have hsplit' : 2 ^ (n.log2 + 1) * 2 ^ k = 2 * hiddenBit := by
        rw [← hsplit]
        ring
      simp only [hexp, Nat.shiftLeft_eq, Nat.mul_one]
      exact ⟨by omega, by omega, by omega⟩

theorem roundingExponent_int {n : Nat} (hn : n ≠ 0) :
    roundingExponent n 1 = (n.log2 : Int) - 52 := by
  obtain ⟨hd, hlow, -⟩ := scaledInt_bounds hn
  have hlog : Nat.log2 1 = 0 := rfl
  have hquot : ¬ (scaledInt n).1 / (scaledInt n).2 < hiddenBit := by
    rw [Nat.not_lt, Nat.le_div_iff_mul_le hd]
    exact hlow
  unfold scaledInt at hquot
  unfold roundingExponent
  simp only [hlog, Int.natCast_zero, Int.sub_zero]
  rw [if_neg hquot]
  omega

theorem roundRatio_int {n : Nat} (hn : n ≠ 0) :
    roundRatio n 1 = min ((n.log2 + 1022) * hiddenBit +
      roundQuotient (scaledInt n).1 (scaledInt n).2) infinityBits := by
  have hexp : ((n.log2 : Int) - 52 + 1074).toNat = n.log2 + 1022 := by omega
  simp only [roundRatio, if_neg hn, roundingExponent_int hn, hexp]
  rfl

theorem roundRatio_int_mono {n m : Nat} (h : n ≤ m) : roundRatio n 1 ≤ roundRatio m 1 := by
  by_cases hn : n = 0
  · simp [roundRatio, hn]
  · have hm : m ≠ 0 := by omega
    rw [roundRatio_int hn, roundRatio_int hm]
    suffices h : (n.log2 + 1022) * hiddenBit + roundQuotient (scaledInt n).1 (scaledInt n).2 ≤
        (m.log2 + 1022) * hiddenBit + roundQuotient (scaledInt m).1 (scaledInt m).2 by omega
    have hlog : n.log2 ≤ m.log2 := (Nat.le_log2 hm).2 (Nat.le_trans (Nat.log2_self_le hn) h)
    rcases Nat.lt_or_eq_of_le hlog with hlt | heq
    · obtain ⟨hd, -, hhigh⟩ := scaledInt_bounds hn
      obtain ⟨hd', hlow, -⟩ := scaledInt_bounds hm
      have hleft := roundQuotient_le hd (Nat.le_of_lt hhigh)
      have hright := le_roundQuotient hd' hlow
      have hstep : (n.log2 + 1 + 1022) * hiddenBit ≤ (m.log2 + 1022) * hiddenBit :=
        Nat.mul_le_mul_right _ (by omega)
      have hsucc : (n.log2 + 1 + 1022) * hiddenBit = (n.log2 + 1022) * hiddenBit + hiddenBit := by
        ring
      omega
    · have hscaled : (scaledInt n).1 ≤ (scaledInt m).1 ∧ (scaledInt n).2 = (scaledInt m).2 := by
        unfold scaledInt scaled
        rw [heq]
        split
        · exact ⟨h, rfl⟩
        · simp only [Nat.shiftLeft_eq]
          exact ⟨Nat.mul_le_mul_right _ h, trivial⟩
      rw [heq, hscaled.2]
      exact Nat.add_le_add_left (roundQuotient_mono hscaled.1) _

theorem roundRatio_le (num den : Nat) : roundRatio num den ≤ infinityBits := by
  unfold roundRatio
  split
  · exact Nat.zero_le _
  · exact Nat.min_le_right _ _

theorem toNat_ofParts {negative : Bool} {m : Nat} (h : m < signBit) :
    (ofParts negative m).bits.toNat = if negative then signBit + m else m := by
  have hsign : signBit + signBit = UInt64.size := rfl
  refine UInt64.toNat_ofNat_of_lt' ?_
  split <;> omega

theorem orderKey_ofParts {negative : Bool} {m : Nat} (h : m < signBit) :
    (ofParts negative m).orderKey = if negative then -(m : Int) - 1 else m := by
  have hbits := @toNat_ofParts negative m h
  unfold orderKey isNegative magnitude
  rw [hbits]
  cases negative <;> simp [Nat.mod_eq_of_lt h, h]

theorem orderKey_ofInt (i : Int) :
    (ofInt i).orderKey =
      if i < 0 then -(roundRatio i.natAbs 1 : Int) - 1 else roundRatio i.natAbs 1 := by
  have h : roundRatio i.natAbs 1 < signBit :=
    Nat.lt_of_le_of_lt (roundRatio_le _ _) (by decide)
  rw [ofInt, ofRatio, orderKey_ofParts h]
  simp

/-- Conversion keeps the order of integers, though it may make some of them equal. -/
theorem orderKey_ofInt_mono {i j : Int} (h : i ≤ j) : (ofInt i).orderKey ≤ (ofInt j).orderKey := by
  rw [orderKey_ofInt, orderKey_ofInt]
  by_cases hi : i < 0 <;> by_cases hj : j < 0
  · have hr : roundRatio j.natAbs 1 ≤ roundRatio i.natAbs 1 := roundRatio_int_mono (by omega)
    simp only [hi, hj, if_true]
    omega
  · simp only [hi, hj, if_true, if_false]
    omega
  · omega
  · have hr : roundRatio i.natAbs 1 ≤ roundRatio j.natAbs 1 := roundRatio_int_mono (by omega)
    simp only [hi, hj, if_false]
    omega

end Binary64

end QueryEngine
