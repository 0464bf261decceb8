import Mathlib.Order.Compare
import Mathlib.Order.Monotone.Basic
import Mathlib.Tactic.Linarith
import QueryEngine.Proofs.Binary64.Rounding

namespace QueryEngine

namespace Binary64

/-- The least positive number is `2 ^ -unitExponent`. -/
@[irreducible] def unitExponent : Nat := 1074

def unitsPerOne : Nat := 2 ^ unitExponent

/-- A magnitude in units of the least positive one. Infinity and the NaNs go on where the finite
magnitudes end. -/
def unitsOf (m : Nat) : Nat :=
  (if m / hiddenBit = 0 then m % hiddenBit else m % hiddenBit + hiddenBit) *
    2 ^ (max (m / hiddenBit) 1 - 1)

def units (x : Binary64) : Int :=
  x.signed (unitsOf x.magnitude)

theorem unitExponent_eq : unitExponent = 1074 := by rw [unitExponent]

theorem unitsPerOne_pos : 0 < unitsPerOne := Nat.two_pow_pos unitExponent

theorem unitsOf_normal {q r : Nat} (hr : r ≤ hiddenBit) :
    unitsOf ((q + 1) * hiddenBit + r) = (hiddenBit + r) * 2 ^ q := by
  have hpos : 0 < hiddenBit := by decide
  rcases Nat.lt_or_eq_of_le hr with hr | rfl
  · have hdiv : ((q + 1) * hiddenBit + r) / hiddenBit = q + 1 := by
      rw [Nat.add_comm, Nat.add_mul_div_right _ _ hpos, Nat.div_eq_of_lt hr, Nat.zero_add]
    have hmod : ((q + 1) * hiddenBit + r) % hiddenBit = r := by
      rw [Nat.mul_add_mod_self_right, Nat.mod_eq_of_lt hr]
    have hmax : max (q + 1) 1 - 1 = q := by omega
    rw [unitsOf, hdiv, hmod, if_neg (Nat.succ_ne_zero q), hmax, Nat.add_comm]
  · -- the least magnitude of the next binade
    have hsum : (q + 1) * hiddenBit + hiddenBit = (q + 2) * hiddenBit := by ring
    have hmax : max (q + 2) 1 - 1 = q + 1 := by omega
    rw [hsum, unitsOf, Nat.mul_div_cancel _ hpos, Nat.mul_mod_left, if_neg (by omega), hmax]
    ring

theorem unitsOf_subnormal {m : Nat} (hm : m ≤ hiddenBit) : unitsOf m = m := by
  rcases Nat.lt_or_eq_of_le hm with hm | rfl
  · simp [unitsOf, Nat.div_eq_of_lt hm, Nat.mod_eq_of_lt hm]
  · rfl

theorem exists_normal {m : Nat} (hm : hiddenBit ≤ m) :
    ∃ q r, r < hiddenBit ∧ m = (q + 1) * hiddenBit + r := by
  have hpos : 0 < hiddenBit := by decide
  have hdiv : 1 ≤ m / hiddenBit := (Nat.le_div_iff_mul_le hpos).2 (by omega)
  refine ⟨m / hiddenBit - 1, m % hiddenBit, Nat.mod_lt _ hpos, ?_⟩
  rw [Nat.sub_add_cancel hdiv, Nat.mul_comm, Nat.div_add_mod]

theorem strictMono_unitsOf : StrictMono unitsOf := by
  refine strictMono_nat_of_lt_succ fun m => ?_
  rcases Nat.lt_or_ge m hiddenBit with hm | hm
  · rw [unitsOf_subnormal (Nat.le_of_lt hm), unitsOf_subnormal hm]
    exact Nat.lt_succ_self m
  · obtain ⟨q, r, hr, rfl⟩ := exists_normal hm
    rw [unitsOf_normal (Nat.le_of_lt hr), Nat.add_assoc, unitsOf_normal hr]
    exact Nat.mul_lt_mul_of_pos_right (by omega) (Nat.two_pow_pos q)

@[simp] theorem unitsOf_zero : unitsOf 0 = 0 := rfl

theorem unitsOf_pos {m : Nat} (hm : m ≠ 0) : 0 < unitsOf m :=
  strictMono_unitsOf (Nat.pos_of_ne_zero hm)

section

variable {x y : Binary64}

/-- Zeros apart, the order on bits is the order of values. -/
theorem orderKey_lt_iff (h : x.magnitude ≠ 0 ∨ y.magnitude ≠ 0) :
    x.orderKey < y.orderKey ↔ x.units < y.units := by
  have hlt := strictMono_unitsOf.lt_iff_lt (a := x.magnitude) (b := y.magnitude)
  have hgt := strictMono_unitsOf.lt_iff_lt (a := y.magnitude) (b := x.magnitude)
  have hx := @unitsOf_pos x.magnitude
  have hy := @unitsOf_pos y.magnitude
  unfold orderKey units signed
  cases x.isNegative <;> cases y.isNegative <;>
    simp only [if_true, if_false, Bool.false_eq_true] <;> omega

theorem units_le_of_orderKey_le (h : x.orderKey ≤ y.orderKey) : x.units ≤ y.units := by
  by_cases hzero : x.magnitude ≠ 0 ∨ y.magnitude ≠ 0
  · exact Int.not_lt.1 fun hlt => Int.not_lt.2 h ((orderKey_lt_iff hzero.symm).2 hlt)
  · have hx : x.magnitude = 0 := by tauto
    have hy : y.magnitude = 0 := by tauto
    simp [units, signed, hx, hy]

theorem totalCompare_eq_compare (h : x.magnitude ≠ 0 ∨ y.magnitude ≠ 0) :
    x.totalCompare y = compare x.units y.units := by
  have hxy := orderKey_lt_iff h
  have hyx := orderKey_lt_iff h.symm
  unfold totalCompare
  rcases Int.lt_trichotomy x.orderKey y.orderKey with hlt | heq | hgt
  · rw [Int.compare_eq_lt.2 hlt, Int.compare_eq_lt.2 (hxy.1 hlt)]
  · have hunits : x.units = y.units := by omega
    rw [Int.compare_eq_eq.2 heq, Int.compare_eq_eq.2 hunits]
  · rw [Int.compare_eq_gt.2 hgt, Int.compare_eq_gt.2 (hyx.1 hgt)]

end

def roundedInt (n : Nat) : Nat :=
  roundQuotient (scaledInt n).1 (scaledInt n).2

theorem roundedInt_bounds {n : Nat} (hn : n ≠ 0) :
    hiddenBit ≤ roundedInt n ∧ roundedInt n ≤ 2 * hiddenBit := by
  obtain ⟨hd, hlow, hhigh⟩ := scaledInt_bounds hn
  exact ⟨le_roundQuotient hd hlow, roundQuotient_le hd (Nat.le_of_lt hhigh)⟩

def intExponent (n : Nat) : Nat :=
  n.log2 + 1022

theorem scaledInt_mul (n : Nat) :
    (scaledInt n).1 * 2 ^ intExponent n = n * unitsPerOne * (scaledInt n).2 := by
  have hunit := unitExponent_eq
  unfold scaledInt scaled unitsPerOne
  split
  · have hexp : intExponent n = unitExponent + ((n.log2 : Int) - 52).toNat := by
      unfold intExponent
      omega
    rw [hexp, Nat.pow_add, Nat.shiftLeft_eq, Nat.one_mul, Nat.mul_assoc]
  · have hexp : unitExponent = (-((n.log2 : Int) - 52)).toNat + intExponent n := by
      rw [hunit, intExponent]
      omega
    rw [hexp, Nat.pow_add, Nat.shiftLeft_eq, Nat.mul_one, Nat.mul_assoc]

theorem le_scaledInt_iff {n : Nat} (hn : n ≠ 0) {k : Nat} :
    k * (scaledInt n).2 ≤ (scaledInt n).1 ↔ k * 2 ^ intExponent n ≤ n * unitsPerOne := by
  rw [← Nat.mul_le_mul_right_iff (Nat.two_pow_pos (intExponent n)), scaledInt_mul,
    Nat.mul_right_comm, Nat.mul_le_mul_right_iff (scaledInt_bounds hn).1]

theorem scaledInt_le_iff {n : Nat} (hn : n ≠ 0) {k : Nat} :
    (scaledInt n).1 ≤ k * (scaledInt n).2 ↔ n * unitsPerOne ≤ k * 2 ^ intExponent n := by
  rw [← Nat.mul_le_mul_right_iff (Nat.two_pow_pos (intExponent n)), scaledInt_mul,
    Nat.mul_right_comm k, Nat.mul_le_mul_right_iff (scaledInt_bounds hn).1]

/-- Integers of up to 53 bits are not rounded. -/
theorem roundedInt_eq {n : Nat} (h : n.log2 ≤ 52) :
    (scaledInt n).2 = 1 ∧ roundedInt n = (scaledInt n).1 := by
  have hone : (scaledInt n).2 = 1 := by
    unfold scaledInt scaled
    split
    · have hzero : ((n.log2 : Int) - 52).toNat = 0 := by omega
      simp [hzero]
    · rfl
  refine ⟨hone, ?_⟩
  rw [roundedInt, hone, roundQuotient, Nat.div_one, Nat.mod_one, if_neg (by omega)]

section

variable {n m : Nat} (hn : n ≠ 0) (hlog : n.log2 ≤ 1022)

include hn hlog

theorem roundRatio_eq : roundRatio n 1 = intExponent n * hiddenBit + roundedInt n := by
  have hhigh := (roundedInt_bounds hn).2
  have hexp : intExponent n * hiddenBit ≤ 2044 * hiddenBit :=
    Nat.mul_le_mul_right _ (Nat.add_le_add_right hlog 1022)
  have hinfinity : infinityBits = 2047 * hiddenBit := rfl
  rw [roundRatio_int hn]
  refine Nat.min_eq_left ?_
  unfold roundedInt at hhigh
  unfold intExponent at hexp
  omega

theorem unitsOf_roundRatio : unitsOf (roundRatio n 1) = roundedInt n * 2 ^ intExponent n := by
  obtain ⟨hlow, hhigh⟩ := roundedInt_bounds hn
  have hbinade : intExponent n * hiddenBit + roundedInt n =
      (intExponent n + 1) * hiddenBit + (roundedInt n - hiddenBit) := by
    rw [Nat.succ_mul]
    omega
  rw [roundRatio_eq hn hlog, hbinade, unitsOf_normal (by omega), Nat.add_sub_cancel' hlow]

theorem dvd_unitsOf_roundRatio : unitsPerOne ∣ unitsOf (roundRatio n 1) := by
  rw [unitsOf_roundRatio hn hlog]
  rcases Nat.le_total 52 n.log2 with hlarge | hsmall
  · have hexp : unitExponent ≤ intExponent n :=
      unitExponent_eq ▸ Nat.add_le_add_right hlarge 1022
    exact Nat.dvd_mul_left_of_dvd (Nat.pow_dvd_pow 2 hexp) _
  · obtain ⟨hone, hexact⟩ := roundedInt_eq hsmall
    rw [hexact, scaledInt_mul, hone, Nat.mul_one]
    exact Nat.dvd_mul_left _ _

omit hn

theorem roundRatio_lt_infinity : roundRatio n 1 < infinityBits := by
  rcases eq_or_ne n 0 with rfl | hn
  · decide
  have hhigh := (roundedInt_bounds hn).2
  have hexp : intExponent n * hiddenBit ≤ 2044 * hiddenBit :=
    Nat.mul_le_mul_right _ (Nat.add_le_add_right hlog 1022)
  have hinfinity : infinityBits = 2047 * hiddenBit := rfl
  have hpos : 0 < hiddenBit := by decide
  rw [roundRatio_eq hn hlog]
  omega

/-- A number that is not above an integer is not above what the integer is rounded to. -/
theorem le_roundRatio (h : unitsOf m ≤ n * unitsPerOne) : m ≤ roundRatio n 1 := by
  rcases eq_or_ne n 0 with rfl | hn
  · rw [Nat.zero_mul, ← unitsOf_zero, strictMono_unitsOf.le_iff_le] at h
    exact Nat.le_trans h (Nat.zero_le _)
  obtain ⟨hd, -, hhigh⟩ := scaledInt_bounds hn
  have hlow := (roundedInt_bounds hn).1
  have hsucc : (intExponent n + 1) * hiddenBit = intExponent n * hiddenBit + hiddenBit :=
    Nat.succ_mul _ _
  rw [roundRatio_eq hn hlog]
  -- magnitudes of lower binades are below all that the integer may be rounded to
  by_cases hbinade : (intExponent n + 1) * hiddenBit ≤ m
  · obtain ⟨r, rfl⟩ := Nat.exists_eq_add_of_le hbinade
    by_cases hr : r ≤ hiddenBit
    · rw [unitsOf_normal hr, ← le_scaledInt_iff hn] at h
      have hround : hiddenBit + r ≤ roundedInt n := le_roundQuotient hd h
      omega
    · have hend : unitsOf ((intExponent n + 1) * hiddenBit + hiddenBit) ≤ n * unitsPerOne :=
        Nat.le_trans (strictMono_unitsOf.monotone (by omega)) h
      rw [unitsOf_normal (Nat.le_refl _), ← le_scaledInt_iff hn, ← Nat.two_mul] at hend
      omega
  · omega

theorem mul_unitsPerOne_lt_infinity : n * unitsPerOne < unitsOf infinityBits := by
  by_contra h
  have hround := le_roundRatio hlog (Nat.not_lt.1 h)
  exact Nat.not_lt.2 hround (roundRatio_lt_infinity hlog)

theorem roundRatio_le_of_le (h : n * unitsPerOne ≤ unitsOf m) : roundRatio n 1 ≤ m := by
  rcases eq_or_ne n 0 with rfl | hn
  · exact Nat.zero_le m
  obtain ⟨hd, hlow, -⟩ := scaledInt_bounds hn
  have hhigh := (roundedInt_bounds hn).2
  have hsucc : (intExponent n + 1) * hiddenBit = intExponent n * hiddenBit + hiddenBit :=
    Nat.succ_mul _ _
  rw [roundRatio_eq hn hlog]
  by_cases hbinade : (intExponent n + 1) * hiddenBit ≤ m
  · obtain ⟨r, rfl⟩ := Nat.exists_eq_add_of_le hbinade
    by_cases hr : r ≤ hiddenBit
    · rw [unitsOf_normal hr, ← scaledInt_le_iff hn] at h
      have hround : roundedInt n ≤ hiddenBit + r := roundQuotient_le hd h
      omega
    · omega
  · -- the integer is not below the start of its binade
    have hstart := strictMono_unitsOf (Nat.not_le.1 hbinade)
    have hunits := unitsOf_normal (q := intExponent n) (Nat.zero_le hiddenBit)
    simp only [Nat.add_zero] at hunits
    rw [le_scaledInt_iff hn] at hlow
    omega

end

theorem magnitude_ofParts {negative : Bool} {m : Nat} (h : m < signBit) :
    (ofParts negative m).magnitude = m := by
  rw [magnitude, toNat_ofParts h]
  cases negative <;> simp [Nat.mod_eq_of_lt h]

theorem mul_unitsPerOne (i : Int) :
    i * unitsPerOne = if i < 0 then -((i.natAbs * unitsPerOne : Nat) : Int)
      else (i.natAbs * unitsPerOne : Nat) := by
  rw [Int.natCast_mul]
  split
  · rw [Int.ofNat_natAbs_of_nonpos (by omega), Int.neg_mul, Int.neg_neg]
  · rw [Int.natAbs_of_nonneg (by omega)]

section

variable {i : Int} (hi : i.natAbs.log2 ≤ 1022) {x : Binary64}

include hi

/-- An integer that is not above a number is not converted to one above it, unless the number is the
negative zero. -/
theorem orderKey_ofInt_le (hx : x.magnitude ≠ 0) (h : i * unitsPerOne ≤ x.units) :
    (ofInt i).orderKey ≤ x.orderKey := by
  have hpos := unitsOf_pos hx
  have hlow := le_roundRatio (m := x.magnitude) hi
  have hhigh := roundRatio_le_of_le (m := x.magnitude) hi
  rw [mul_unitsPerOne, units, signed] at h
  rw [orderKey_ofInt, orderKey]
  by_cases hneg : i < 0 <;> cases hsign : x.isNegative <;>
    simp only [hsign, hneg, if_true, if_false, Bool.false_eq_true] at h ⊢ <;> omega

theorem orderKey_le_ofInt (h : x.units ≤ i * unitsPerOne) : x.orderKey ≤ (ofInt i).orderKey := by
  have hpos (hn : i.natAbs ≠ 0) : 0 < i.natAbs * unitsPerOne :=
    Nat.mul_pos (Nat.pos_of_ne_zero hn) unitsPerOne_pos
  have hlow := le_roundRatio (m := x.magnitude) hi
  have hhigh := roundRatio_le_of_le (m := x.magnitude) hi
  rw [mul_unitsPerOne, units, signed] at h
  rw [orderKey_ofInt, orderKey]
  by_cases hneg : i < 0 <;> cases hsign : x.isNegative <;>
    simp only [hsign, hneg, if_true, if_false, Bool.false_eq_true] at h ⊢ <;> omega

theorem dvd_units_ofInt : (unitsPerOne : Int) ∣ (ofInt i).units := by
  have hsmall : roundRatio i.natAbs 1 < signBit :=
    Nat.lt_of_le_of_lt (roundRatio_le _ _) (by decide)
  have hdvd : unitsPerOne ∣ unitsOf (roundRatio i.natAbs 1) := by
    rcases eq_or_ne i.natAbs 0 with hzero | hn
    · rw [hzero]
      exact Nat.dvd_zero _
    · exact dvd_unitsOf_roundRatio hn hi
  rw [units, ofInt, ofRatio, magnitude_ofParts hsmall, signed]
  split
  · exact Int.dvd_neg.2 (Int.natCast_dvd_natCast.2 hdvd)
  · exact Int.natCast_dvd_natCast.2 hdvd

end

section

variable {x : Binary64}

theorem ratio_pos (x : Binary64) : 0 < x.ratio.2 := by
  unfold ratio
  split
  · exact Nat.one_pos
  · rw [Nat.one_shiftLeft]
    exact Nat.two_pow_pos _

theorem ratio_mul (x : Binary64) :
    x.ratio.1 * unitsPerOne = unitsOf x.magnitude * x.ratio.2 := by
  have hunit := unitExponent_eq
  have hunits : unitsOf x.magnitude =
      x.significand * 2 ^ (max (x.magnitude / hiddenBit) 1 - 1) := rfl
  rw [hunits, unitsPerOne, ratio, exponent]
  split
  · rw [Nat.shiftLeft_eq, Nat.mul_one, Nat.mul_assoc, ← Nat.pow_add]
    congr 2
    omega
  · rw [Nat.one_shiftLeft, Nat.mul_assoc, ← Nat.pow_add]
    congr 2
    omega

theorem signed_ratio_mul (x : Binary64) :
    x.signed x.ratio.1 * unitsPerOne = x.units * x.ratio.2 := by
  have hmul := congrArg (Nat.cast (R := Int)) (ratio_mul x)
  rw [Int.natCast_mul, Int.natCast_mul] at hmul
  unfold units signed
  split
  · rw [Int.neg_mul, Int.neg_mul, hmul]
  · exact hmul

theorem unitsOf_eq_iff {k : Nat} :
    unitsOf x.magnitude = k * unitsPerOne ↔ x.ratio.1 = k * x.ratio.2 := by
  rw [← Nat.mul_left_inj (Nat.ne_of_gt (ratio_pos x)), ← ratio_mul, Nat.mul_right_comm,
    Nat.mul_left_inj (Nat.ne_of_gt unitsPerOne_pos)]

@[simp] theorem natAbs_units (x : Binary64) : x.units.natAbs = unitsOf x.magnitude := by
  unfold units signed
  split <;> simp

theorem isFinite_of_units_eq {i : Int} (hi : i.natAbs.log2 ≤ 1022)
    (h : x.units = i * unitsPerOne) : x.isFinite = true := by
  have hunits : unitsOf x.magnitude = i.natAbs * unitsPerOne := by
    rw [← natAbs_units, h, Int.natAbs_mul, Int.natAbs_natCast]
  have hround := le_roundRatio hi (Nat.le_of_eq hunits)
  exact decide_eq_true (Nat.lt_of_le_of_lt hround (roundRatio_lt_infinity hi))

theorem toInt?_eq_some_iff {i : Int} :
    x.toInt? = some i ↔ x.isFinite = true ∧ x.units = i * unitsPerOne := by
  have htruncate : x.truncate? =
      if x.isFinite then some (x.signed (x.ratio.1 / x.ratio.2)) else none := rfl
  have htoInt : x.toInt? = if x.ratio.1 % x.ratio.2 = 0 then x.truncate? else none := rfl
  have hsigned (k : Nat) : x.signed (k * unitsPerOne) = x.signed k * unitsPerOne := by
    unfold signed
    split <;> simp
  rw [htoInt, htruncate]
  constructor
  · intro h
    split at h
    · next hmod =>
        split at h
        · next hfinite =>
            cases h
            have hratio := Nat.div_mul_cancel (Nat.dvd_of_mod_eq_zero hmod)
            rw [units, unitsOf_eq_iff.2 hratio.symm, hsigned]
            exact ⟨hfinite, rfl⟩
        · cases h
    · cases h
  · rintro ⟨hfinite, hunits⟩
    have hmagnitude : unitsOf x.magnitude = i.natAbs * unitsPerOne := by
      rw [← natAbs_units, hunits, Int.natAbs_mul, Int.natAbs_natCast]
    have hratio := unitsOf_eq_iff.1 hmagnitude
    have hvalue : x.signed i.natAbs = i := by
      rw [units, hmagnitude, hsigned] at hunits
      have hne : (unitsPerOne : Int) ≠ 0 := Int.natCast_ne_zero.2 (Nat.ne_of_gt unitsPerOne_pos)
      exact Int.eq_of_mul_eq_mul_right hne hunits
    rw [hratio, Nat.mul_mod_left, if_pos rfl, if_pos hfinite, Nat.mul_div_cancel _ (ratio_pos x),
      hvalue]

end

end Binary64

end QueryEngine
