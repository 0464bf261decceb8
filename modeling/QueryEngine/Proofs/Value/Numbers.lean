import Mathlib.Data.EReal.Basic
import QueryEngine.Proofs.Binary64.Units
import QueryEngine.Proofs.Value.Equality

namespace QueryEngine

open Binary64

theorem log2_natAbs_le (i : Int64) : i.toInt.natAbs.log2 ≤ 1022 := by
  have hlow := i.le_toInt
  have hhigh := i.toInt_lt
  rcases eq_or_ne i.toInt.natAbs 0 with h | h
  · simp [h]
  · have hlt : i.toInt.natAbs.log2 < 64 := (Nat.log2_lt h).2 (by omega)
    omega

namespace Binary64

theorem minValue_le_units_ofInt (i : Int64) : -2 ^ 63 * unitsPerOne ≤ (ofInt i.toInt).units := by
  let least : Binary64 := ⟨0xC3E0000000000000⟩
  have hleast : least.units = -2 ^ 63 * unitsPerOne := by decide +kernel
  have hle : -2 ^ 63 * unitsPerOne ≤ i.toInt * unitsPerOne :=
    Int.mul_le_mul_of_nonneg_right i.le_toInt (Int.natCast_nonneg _)
  rw [← hleast] at hle ⊢
  exact units_le_of_orderKey_le (orderKey_le_ofInt (log2_natAbs_le i) hle)

end Binary64

namespace Number

theorem inInt64_iff {n : Int} : inInt64 n = true ↔ ∃ i : Int64, i.toInt = n := by
  constructor
  · intro h
    simp [inInt64, Int64.toInt_maxValue] at h
    exact ⟨.ofInt n, Int64.toInt_ofInt_of_le (by omega) (by omega)⟩
  · rintro ⟨i, rfl⟩
    have hlow := i.le_toInt
    have hhigh := i.toInt_lt
    simp [inInt64, Int64.toInt_maxValue]
    omega

def units : Number → Int
  | integer i => i.toInt * unitsPerOne
  | float x => x.units

/-- A number whose value is an integer in range is held as an integer. -/
def IsCanonical : Number → Prop
  | integer _ => True
  | float x => ∀ i : Int64, x.units ≠ i.toInt * unitsPerOne

theorem units_ofFloat (x : Binary64) : (ofFloat x).units = x.units := by
  unfold ofFloat
  split
  · next n hn =>
      have hunits := (toInt?_eq_some_iff.1 hn).2
      split
      · next hrange =>
          obtain ⟨i, rfl⟩ := inInt64_iff.1 hrange
          rw [units, Int64.ofInt_toInt, hunits]
      · rfl
  · rfl

theorem isCanonical_ofFloat (x : Binary64) : (ofFloat x).IsCanonical := by
  have hint (i : Int64) (hi : x.units = i.toInt * unitsPerOne) : x.toInt? = some i.toInt :=
    toInt?_eq_some_iff.2 ⟨isFinite_of_units_eq (log2_natAbs_le i) hi, hi⟩
  unfold ofFloat
  split
  · next n hn =>
      split
      · trivial
      · next hrange =>
          intro i hi
          rw [hint i hi] at hn
          cases hn
          exact hrange (inInt64_iff.2 ⟨i, rfl⟩)
  · next hnone =>
      intro i hi
      rw [hint i hi] at hnone
      cases hnone

section

variable {i : Int64} {x : Binary64}

theorem magnitude_ne_zero (hx : (float x).IsCanonical) : x.magnitude ≠ 0 := by
  intro hzero
  refine hx 0 ?_
  simp [Binary64.units, signed, hzero]

/-- An integer is not rounded to a float that is not an integer in range, except from below to
`2 ^ 63`. -/
theorem orderKey_lt_ofInt (hx : (float x).IsCanonical) (h : x.units < i.toInt * unitsPerOne) :
    x.orderKey < (ofInt i.toInt).orderKey := by
  have hle := orderKey_le_ofInt (log2_natAbs_le i) (Int.le_of_lt h)
  refine lt_of_le_of_ne hle fun heq => ?_
  obtain rfl := orderKey_inj.1 heq
  have hpos : (0 : Int) < unitsPerOne := Int.natCast_pos.2 unitsPerOne_pos
  obtain ⟨c, hc⟩ := dvd_units_ofInt (log2_natAbs_le i)
  have hlow := minValue_le_units_ofInt i
  rw [hc, Int.mul_comm _ c] at h hlow
  have hc' : -2 ^ 63 ≤ c := Int.le_of_mul_le_mul_right hlow hpos
  have hlt : c < i.toInt := Int.lt_of_mul_lt_mul_right h (Int.le_of_lt hpos)
  have hhigh := i.toInt_lt
  have hrange : inInt64 c = true := by
    simp [inInt64, Int64.toInt_maxValue]
    omega
  obtain ⟨j, rfl⟩ := inInt64_iff.1 hrange
  exact hx j (by rw [hc, Int.mul_comm])

/-- A float in canonical form is on the same side of an integer as of what the integer is rounded
to, and ties go to the integer. -/
theorem compare_ofInt (hx : (float x).IsCanonical) (i : Int64) :
    ((ofInt i.toInt).totalCompare x).then .lt = compare (i.toInt * unitsPerOne) x.units := by
  unfold totalCompare
  rcases Int.lt_trichotomy (i.toInt * unitsPerOne) x.units with hlt | heq | hgt
  · have hle := orderKey_ofInt_le (log2_natAbs_le i) (magnitude_ne_zero hx) (Int.le_of_lt hlt)
    rw [Int.compare_eq_lt.2 hlt]
    rcases Int.lt_or_eq_of_le hle with h | h
    · rw [Int.compare_eq_lt.2 h, Ordering.lt_then]
    · rw [Int.compare_eq_eq.2 h, Ordering.eq_then]
  · exact absurd heq.symm (hx i)
  · have hkey := orderKey_lt_ofInt hx hgt
    rw [Int.compare_eq_gt.2 hgt, Int.compare_eq_gt.2 hkey, Ordering.gt_then]

end

/-- Numbers in canonical form are compared by their values. Those of NaNs are beyond infinity. -/
theorem cmp_eq_compare_units {a b : Number} (ha : a.IsCanonical) (hb : b.IsCanonical) :
    a.cmp b = compare a.units b.units := by
  cases a with
  | integer i =>
      cases b with
      | integer j =>
          have hpos : (0 : Int) < unitsPerOne := Int.natCast_pos.2 unitsPerOne_pos
          have hmono : StrictMono fun k : Int => k * unitsPerOne := strictMono_mul_right_of_pos hpos
          have h := hmono.cmp_map_eq i.toInt j.toInt
          rw [cmp_eq_compare, cmp_eq_compare] at h
          exact h.symm
      | float y => exact compare_ofInt hb i
  | float x =>
      cases b with
      | integer j =>
          have h := congrArg Ordering.swap (compare_ofInt ha j)
          rwa [Ordering.swap_then, totalCompare, Int.compare_swap, Int.compare_swap] at h
      | float y => exact totalCompare_eq_compare (.inl (magnitude_ne_zero ha))

end Number

namespace Binary64

/-- The exact value of a number that is not a NaN. -/
noncomputable def toEReal (x : Binary64) : EReal :=
  if x.isInfinite then if x.isNegative then ⊥ else ⊤
  else ((x.signed x.ratio.1 / x.ratio.2 : ℝ) : EReal)

/-- The value of so many units, which is infinite from the units of infinity on. -/
noncomputable def ofUnits (u : Int) : EReal :=
  if unitsOf infinityBits ≤ u then ⊤ else if u ≤ -unitsOf infinityBits then ⊥
  else ((u / unitsPerOne : ℝ) : EReal)

theorem ofUnits_lt_ofUnits {u v : Int} (hu : -(unitsOf infinityBits : Int) ≤ u)
    (hv : v ≤ unitsOf infinityBits) (huv : u < v) : ofUnits u < ofUnits v := by
  have hpos : (0 : ℝ) < unitsPerOne := Nat.cast_pos.2 unitsPerOne_pos
  have hu' : ¬ (unitsOf infinityBits : Int) ≤ u := Int.not_le.2 (Int.lt_of_lt_of_le huv hv)
  have hv' : ¬ v ≤ -(unitsOf infinityBits : Int) := Int.not_le.2 (Int.lt_of_le_of_lt hu huv)
  unfold ofUnits
  rw [if_neg hu', if_neg hv']
  split_ifs
  · exact bot_lt_top
  · exact EReal.bot_lt_coe _
  · exact EReal.coe_lt_top _
  · exact EReal.coe_lt_coe_iff.2 (div_lt_div_of_pos_right (Int.cast_lt.2 huv) hpos)

theorem ofUnits_eq {u : Int} (h : u.natAbs < unitsOf infinityBits) :
    ofUnits u = ((u / unitsPerOne : ℝ) : EReal) := by
  unfold ofUnits
  rw [if_neg (by omega), if_neg (by omega)]

theorem toEReal_eq {x : Binary64} (hx : x.isNaN = false) :
    x.units.natAbs ≤ unitsOf infinityBits ∧ x.toEReal = ofUnits x.units := by
  have hle : x.magnitude ≤ infinityBits := by simpa [isNaN] using hx
  have hunits : x.units.natAbs ≤ unitsOf infinityBits := by
    rw [natAbs_units]
    exact strictMono_unitsOf.monotone hle
  refine ⟨hunits, ?_⟩
  rcases Nat.lt_or_eq_of_le hle with hlt | heq
  · have hfinite : x.isInfinite = false := by simpa [isInfinite] using Nat.ne_of_lt hlt
    have hsmall : x.units.natAbs < unitsOf infinityBits := by
      rw [natAbs_units]
      exact strictMono_unitsOf hlt
    have hd : (x.ratio.2 : ℝ) ≠ 0 := Nat.cast_ne_zero.2 (Nat.ne_of_gt (ratio_pos x))
    have hone : (unitsPerOne : ℝ) ≠ 0 := Nat.cast_ne_zero.2 (Nat.ne_of_gt unitsPerOne_pos)
    have hvalue : (x.signed x.ratio.1 : ℝ) / x.ratio.2 = x.units / unitsPerOne := by
      rw [div_eq_div_iff hd hone]
      exact_mod_cast signed_ratio_mul x
    simp [toEReal, hfinite, ofUnits_eq hsmall, hvalue]
  · have hinfinite : x.isInfinite = true := by simpa [isInfinite] using heq
    have hpos : 0 < unitsOf infinityBits := unitsOf_pos (by decide)
    cases hsign : x.isNegative
    · have hvalue : x.units = unitsOf infinityBits := by
        rw [units, signed, hsign, if_neg Bool.false_ne_true, heq]
      rw [hvalue, ofUnits, if_pos (Int.le_refl _)]
      simp [toEReal, hinfinite, hsign]
    · have hvalue : x.units = -unitsOf infinityBits := by
        rw [units, signed, hsign, if_pos rfl, heq]
      rw [hvalue, ofUnits, if_neg (by omega), if_pos (Int.le_refl _)]
      simp [toEReal, hinfinite, hsign]

theorem intCast_eq (i : Int64) :
    (i.toInt * unitsPerOne : Int).natAbs < unitsOf infinityBits ∧
      ((i.toInt : ℝ) : EReal) = ofUnits (i.toInt * unitsPerOne) := by
  have hpos : (unitsPerOne : ℝ) ≠ 0 := Nat.cast_ne_zero.2 (Nat.ne_of_gt unitsPerOne_pos)
  have hunits : (i.toInt * unitsPerOne : Int).natAbs < unitsOf infinityBits := by
    rw [Int.natAbs_mul, Int.natAbs_natCast]
    exact mul_unitsPerOne_lt_infinity (log2_natAbs_le i)
  refine ⟨hunits, ?_⟩
  rw [ofUnits_eq hunits]
  push_cast
  rw [mul_div_cancel_right₀ _ hpos]

end Binary64

namespace Value

/-- The exact value of a number; `none` for NaNs and other kinds of values. -/
noncomputable def exactValue? : Value → Option EReal
  | integer i => some (i.toInt : ℝ)
  | float x => if x.isNaN then none else some x.toEReal
  | _ => none

theorem isCanonical_of_number? {a : Value} {m : Number} (h : a.number? = some m) :
    m.IsCanonical := by
  cases a <;> cases h
  · trivial
  · exact Number.isCanonical_ofFloat _

theorem cmp_of_number? {a b : Value} {m n : Number} (ha : a.number? = some m)
    (hb : b.number? = some n) : a.cmp b = compare m.units n.units := by
  rw [← Number.cmp_eq_compare_units (isCanonical_of_number? ha) (isCanonical_of_number? hb)]
  cases a <;> cases ha <;> cases b <;> cases hb <;> rfl

theorem exists_number?_of_exactValue? {a : Value} {r : EReal} (h : a.exactValue? = some r) :
    ∃ m, a.number? = some m ∧ m.units.natAbs ≤ unitsOf infinityBits ∧ r = ofUnits m.units := by
  cases a with
  | integer i =>
      cases h
      obtain ⟨hunits, hvalue⟩ := intCast_eq i
      exact ⟨.integer i, rfl, Nat.le_of_lt hunits, hvalue⟩
  | float x =>
      unfold exactValue? at h
      cases hx : x.isNaN with
      | true => simp [hx] at h
      | false =>
          obtain rfl : x.toEReal = r := by simpa [hx] using h
          refine ⟨.ofFloat x, rfl, ?_⟩
          rw [Number.units_ofFloat]
          exact toEReal_eq hx
  | _ => cases h

/-- Numbers that are not NaNs are compared by their exact values, across integers and floats. A NaN
comes before all of them if it is negative, and after all of them otherwise. -/
theorem cmp_exact {a b : Value} {r s : EReal} (ha : a.exactValue? = some r)
    (hb : b.exactValue? = some s) :
    a.cmp b = compare r s ∧ ∀ x : Binary64, x.isNaN = true →
      (float x).cmp b = (if x.isNegative then .lt else .gt) ∧
        b.cmp (float x) = (if x.isNegative then .gt else .lt) := by
  obtain ⟨m, hm, hmunits, rfl⟩ := exists_number?_of_exactValue? ha
  obtain ⟨n, hn, hnunits, rfl⟩ := exists_number?_of_exactValue? hb
  constructor
  · have hmono : StrictMonoOn ofUnits {u : Int | u.natAbs ≤ unitsOf infinityBits} := by
      intro u hu v hv huv
      have hu' : u.natAbs ≤ unitsOf infinityBits := hu
      have hv' : v.natAbs ≤ unitsOf infinityBits := hv
      exact ofUnits_lt_ofUnits (by omega) (by omega) huv
    rw [cmp_of_number? hm hn, ← cmp_eq_compare, ← cmp_eq_compare]
    exact (hmono.cmp_map_eq hmunits hnunits).symm
  · intro x hx
    have hbeyond : unitsOf infinityBits < unitsOf x.magnitude :=
      strictMono_unitsOf (by simpa [isNaN] using hx)
    rw [cmp_of_number? (rfl : (float x).number? = _) hn,
      cmp_of_number? hn (rfl : (float x).number? = _), Number.units_ofFloat, Binary64.units, signed]
    cases x.isNegative
    · exact ⟨Int.compare_eq_gt.2 (by rw [if_neg (by decide)]; omega),
        Int.compare_eq_lt.2 (by rw [if_neg (by decide)]; omega)⟩
    · exact ⟨Int.compare_eq_lt.2 (by rw [if_pos rfl]; omega),
        Int.compare_eq_gt.2 (by rw [if_pos rfl]; omega)⟩

/-- The greatest integer is converted to `2 ^ 63` and still comes before it. The negative zero is
the integer zero, and a negative NaN comes before it. -/
theorem cmp_exact_rounded :
    let greatest := integer 9223372036854775807
    let power := float ⟨0x43E0000000000000⟩
    let zero := float ⟨0x8000000000000000⟩
    let nan := float ⟨0xFFF8000000000000⟩
    greatest.exactValue? = some ((9223372036854775807 : ℝ) : EReal) ∧
      power.exactValue? = some ((9223372036854775808 : ℝ) : EReal) ∧ zero.exactValue? = some 0 ∧
      greatest.cmp power = .lt ∧ zero.cmp (integer 0) = .eq ∧ nan.cmp (integer 0) = .lt := by
  intro greatest power zero nan
  have hgreatest : greatest.exactValue? = some ((9223372036854775807 : ℝ) : EReal) := by
    have hvalue : (9223372036854775807 : Int64).toInt = 9223372036854775807 := by decide
    simp [exactValue?, greatest, hvalue]
  have hpower : power.exactValue? = some ((9223372036854775808 : ℝ) : EReal) := by
    have hnan : isNaN ⟨0x43E0000000000000⟩ = false := by decide
    have hinfinite : isInfinite ⟨0x43E0000000000000⟩ = false := by decide
    have hsign : isNegative ⟨0x43E0000000000000⟩ = false := by decide
    have hratio : ratio ⟨0x43E0000000000000⟩ = (9223372036854775808, 1) := by decide
    simp [exactValue?, power, hnan, toEReal, hinfinite, hratio, signed, hsign]
  have hzero : zero.exactValue? = some 0 := by
    have hnan : isNaN ⟨0x8000000000000000⟩ = false := by decide
    have hinfinite : isInfinite ⟨0x8000000000000000⟩ = false := by decide
    have hratio : (ratio ⟨0x8000000000000000⟩).1 = 0 := by decide
    simp [exactValue?, zero, hnan, toEReal, hinfinite, hratio, signed]
  have hinteger : (integer 0).exactValue? = some 0 := by simp [exactValue?]
  refine ⟨hgreatest, hpower, hzero, ?_, ?_, ?_⟩
  · rw [(cmp_exact hgreatest hpower).1, compare_lt_iff_lt, EReal.coe_lt_coe_iff]
    norm_num
  · rw [(cmp_exact hzero hinteger).1, compare_eq_iff_eq]
  · have hnan : isNaN ⟨0xFFF8000000000000⟩ = true := by decide
    have hsign : isNegative ⟨0xFFF8000000000000⟩ = true := by decide
    rw [((cmp_exact hinteger hinteger).2 _ hnan).1, hsign, if_pos rfl]

end Value

end QueryEngine
