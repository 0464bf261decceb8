import QueryEngine.Calendar.Reading
import QueryEngine.Proofs.Text.Numerals

namespace QueryEngine

open Text

theorem daysInMonth_le (year : Int) (month : Nat) : daysInMonth year month ≤ 31 := by
  unfold daysInMonth
  split
  · split <;> decide
  · decide
  · decide
  · decide
  · decide
  · decide

namespace Date

theorem natAbs_year_le (d : Date) : d.year.natAbs ≤ 262143 := by
  have h := d.valid
  simp only [isCalendarDay, Bool.and_eq_true, decide_eq_true_eq] at h
  omega

theorem month_le (d : Date) : d.month ≤ 12 := by
  have h := d.valid
  simp only [isCalendarDay, Bool.and_eq_true, decide_eq_true_eq] at h
  omega

theorem day_le (d : Date) : d.day ≤ 31 := by
  have h := d.valid
  have hdays := daysInMonth_le d.year d.month
  simp only [isCalendarDay, Bool.and_eq_true, decide_eq_true_eq] at h
  omega

theorem of?_parts (d : Date) : of? d.year d.month d.day = some d := by
  simp [of?, d.valid]

end Date

namespace Time

theorem bounds (t : Time) :
    t.hour < 24 ∧ t.minute < 60 ∧ t.second < 60 ∧ t.nanosecond < 2000000000 := by
  have h := t.valid
  simp only [isClockTime, Bool.and_eq_true, decide_eq_true_eq] at h
  tauto

def whole (t : Time) : Time where
  hour := t.hour
  minute := t.minute
  second := t.second
  nanosecond := t.nanosecond / 1000000000 * 1000000000
  valid := by
    have h := t.bounds
    simp only [isClockTime, Bool.and_eq_true, decide_eq_true_eq]
    omega

def fraction (t : Time) : Nat :=
  t.nanosecond % 1000000000

theorem fraction_lt (t : Time) : t.fraction < 1000000000 :=
  Nat.mod_lt _ (by decide)

theorem whole_add_fraction (t : Time) : t.whole.nanosecond + t.fraction = t.nanosecond := by
  simp only [whole, fraction]
  omega

theorem whole_of_fraction {t : Time} (h : t.fraction = 0) : t.whole = t := by
  have hnano : t.nanosecond / 1000000000 * 1000000000 = t.nanosecond := by
    unfold fraction at h
    omega
  simp [whole, hnano]

def Regular (t : Time) : Prop :=
  t.nanosecond < 1000000000 ∨ t.second = 59

instance (t : Time) : Decidable t.Regular :=
  inferInstanceAs (Decidable (_ ∨ _))

theorem Regular.whole {t : Time} (h : t.Regular) : t.whole.Regular := by
  unfold Regular Time.whole at *
  dsimp only
  omega

theorem of?_parts {t : Time} (h : t.Regular) :
    of? t.hour t.minute t.second t.nanosecond = some t := by
  rw [of?, dif_pos t.valid]
  exact if_pos h

/-- What the text of a time tells. A leap second that does not follow second 59 is printed like the
second after it. -/
def asPrinted (t : Time) : Time :=
  if h : t.Regular then t
  else
    { t with
      second := t.second + 1
      nanosecond := t.nanosecond - 1000000000
      valid := by
        have hbounds := t.bounds
        unfold Regular at h
        simp only [isClockTime, Bool.and_eq_true, decide_eq_true_eq]
        omega }

theorem asPrinted_of_regular {t : Time} (h : t.Regular) : t.asPrinted = t :=
  dif_pos h

theorem asPrinted_eq_self_iff {t : Time} : t.asPrinted = t ↔ t.Regular := by
  refine ⟨fun h => ?_, asPrinted_of_regular⟩
  by_contra hirregular
  rw [asPrinted, dif_neg hirregular] at h
  have hsecond := congrArg Time.second h
  simp at hsecond

theorem asPrinted_parts {t : Time} (h : ¬ t.Regular) : t.asPrinted.second = t.second + 1 ∧
    t.asPrinted.nanosecond = t.nanosecond - 1000000000 := by
  rw [asPrinted, dif_neg h]
  exact ⟨rfl, rfl⟩

@[simp] theorem hour_asPrinted (t : Time) : t.asPrinted.hour = t.hour := by
  unfold asPrinted
  split <;> rfl

@[simp] theorem minute_asPrinted (t : Time) : t.asPrinted.minute = t.minute := by
  unfold asPrinted
  split <;> rfl

theorem regular_asPrinted (t : Time) : t.asPrinted.Regular := by
  by_cases h : t.Regular
  · rwa [asPrinted_of_regular h]
  · have hbounds := t.bounds
    left
    rw [(asPrinted_parts h).2]
    omega

@[simp] theorem fraction_asPrinted (t : Time) : t.asPrinted.fraction = t.fraction := by
  by_cases h : t.Regular
  · rw [asPrinted_of_regular h]
  · rw [fraction, (asPrinted_parts h).2, fraction]
    unfold Regular at h
    omega

def printedSecond (t : Time) : Nat :=
  if 1000000000 ≤ t.nanosecond then t.second + 1 else t.second

theorem printedSecond_le (t : Time) : t.printedSecond ≤ 60 := by
  have h := t.bounds
  unfold printedSecond
  split <;> omega

theorem toList_display (t : Time) :
    t.display.toList = (padded 2 t.hour).toList ++ ':' :: ((padded 2 t.minute).toList ++
      ':' :: ((padded 2 t.printedSecond).toList ++ (fractionText t.fraction).toList)) := by
  simp [display, printedSecond, fraction]

theorem of?_printed (t : Time) (nanosecond : Nat) :
    (if t.printedSecond = 60 then of? t.hour t.minute 59 (1000000000 + nanosecond)
      else of? t.hour t.minute t.printedSecond nanosecond) =
    of? t.hour t.minute t.asPrinted.second (t.asPrinted.whole.nanosecond + nanosecond) := by
  have hbounds := t.bounds
  by_cases h : t.Regular
  · rw [asPrinted_of_regular h]
    by_cases hleap : 1000000000 ≤ t.nanosecond
    · have hsecond : t.second = 59 := h.resolve_left (by omega)
      have hwhole : t.whole.nanosecond = 1000000000 := by
        simp only [whole]
        omega
      simp [printedSecond, hleap, hsecond, hwhole]
    · have hwhole : t.whole.nanosecond = 0 := by
        simp only [whole]
        omega
      have hne : t.second ≠ 60 := by omega
      simp [printedSecond, hleap, hne, hwhole]
  · obtain ⟨hsecond, hnanosecond⟩ := asPrinted_parts h
    unfold Regular at h
    have hleap : 1000000000 ≤ t.nanosecond := by omega
    have hwhole : t.asPrinted.whole.nanosecond = 0 := by
      simp only [whole, hnanosecond]
      omega
    have hne : t.second ≠ 59 := by omega
    simp [printedSecond, hleap, hne, hsecond, hwhole]

end Time

namespace Calendar

variable {rest : List Char}

theorem readNumber?_append (width : Option Nat) {ds : List Char} {n : Nat} (h : Numeral ds n)
    (hwidth : ∀ w ∈ width, ds.length ≤ w) (hn : n < 0x8000000000000000)
    (hrest : StopsDigits rest) : readNumber? width (ds ++ rest) = some (n, rest) := by
  cases width with
  | none => simp [readNumber?, h.takeWhile hrest, h.value, h.nonempty, hn]
  | some w =>
    have htake := List.take_of_length_le (hwidth w rfl)
    simp [readNumber?, h.takeWhile hrest, htake, h.value, h.nonempty, hn]

theorem readField?_padded {most n : Nat} (hn : n ≤ most) (hmost : most < 100)
    (hrest : StopsDigits rest) :
    readField? most ((padded 2 n).toList ++ rest) = some (n, rest) := by
  have hnumeral := numeral_padded 2 n
  have hlength : (padded 2 n).toList.length = 2 := length_padded (by decide) (by omega)
  rw [readField?, hnumeral.trimStart,
    readNumber?_append _ hnumeral (by simp [hlength]) (by omega) hrest]
  simp [hn]

theorem readYear?_numeral {ds : List Char} {n : Nat} (h : Numeral ds n) (hlength : ds.length ≤ 4)
    (hn : n < 0x8000000000000000) (hrest : StopsDigits rest) :
    readYear? (ds ++ rest) = some ((n : Int), rest) := by
  have hread := readNumber?_append (some 4) h (by simpa using hlength) hn hrest
  rw [readYear?, h.trimStart]
  -- a digit is neither of the signs
  split
  · next heq => exact absurd heq (h.append_ne_cons rfl)
  · next heq => exact absurd heq (h.append_ne_cons rfl)
  · rw [hread]
    rfl

theorem readYear?_yearText {year : Int} (hyear : year.natAbs < 0x8000000000000000)
    (hrest : StopsDigits rest) :
    readYear? ((Date.yearText year).toList ++ rest) = some (year, rest) := by
  have hsigned := readNumber?_append none (numeral_padded 4 year.natAbs) (by simp)
    hyear hrest
  unfold Date.yearText
  split
  · next h =>
    have hlength : (padded 4 year.toNat).toList.length = 4 :=
      length_padded (by decide) (by omega)
    rw [readYear?_numeral (numeral_padded 4 year.toNat) (by omega) (by omega) hrest]
    rw [Int.toNat_of_nonneg h.1]
  · split
    · next h =>
      have habs : -(year.natAbs : Int) = year := by omega
      have hread (cs : List Char) : readYear? ('-' :: cs) =
          (readNumber? none cs).map fun found => (-(found.1 : Int), found.2) := rfl
      have htext : ("-" ++ padded 4 year.natAbs).toList ++ rest =
          '-' :: ((padded 4 year.natAbs).toList ++ rest) := by simp
      simp only [htext, hread, hsigned, Option.map_some, habs]
    · next h =>
      have habs : (year.natAbs : Int) = year := by omega
      have hread (cs : List Char) : readYear? ('+' :: cs) =
          (readNumber? none cs).map fun found => ((found.1 : Int), found.2) := rfl
      have htext : ("+" ++ padded 4 year.natAbs).toList ++ rest =
          '+' :: ((padded 4 year.natAbs).toList ++ rest) := by simp
      simp only [htext, hread, hsigned, Option.map_some, habs]

theorem readDatePart?_display (d : Date) (hrest : StopsDigits rest) :
    readDatePart? (d.display.toList ++ rest) = some (d, rest) := by
  have hyear := d.natAbs_year_le
  have hdash (cs : List Char) : StopsDigits ('-' :: cs) := by simp [isDigit]
  have htext : d.display.toList ++ rest = (Date.yearText d.year).toList ++
      '-' :: ((padded 2 d.month).toList ++ '-' :: ((padded 2 d.day).toList ++ rest)) := by
    simp [Date.display]
  rw [htext, readDatePart?, readYear?_yearText (by omega) (hdash _)]
  simp only [Option.bind_eq_bind, Option.bind_some, expect?, ↓reduceIte]
  rw [readField?_padded d.month_le (by decide) (hdash _)]
  simp only [Option.bind_some, ↓reduceIte]
  rw [readField?_padded d.day_le (by decide) hrest]
  simp [d.of?_parts]

theorem readFraction?_point (width : Nat) {n : Nat} (hpos : 0 < width) (hwidth : width ≤ 9)
    (hn : n < 10 ^ width) :
    readFraction? ('.' :: (padded width n).toList) = some (n * 10 ^ (9 - width), []) := by
  have hnumeral := numeral_padded width n
  have hlength := length_padded hpos hn
  have htake : (padded width n).toList.takeWhile isDigit = (padded width n).toList := by
    simpa using hnumeral.takeWhile stopsDigits_nil
  have hdrop : ((padded width n).toList ++ []).dropWhile isDigit = [] :=
    List.dropWhile_append_of_pos hnumeral.digits
  rw [List.append_nil] at hdrop
  have hfirst : (padded width n).toList.take 9 = (padded width n).toList :=
    List.take_of_length_le (by omega)
  simp [readFraction?, htake, hdrop, hfirst, hnumeral.nonempty, hnumeral.value, hlength]

theorem fractionText_cases {n : Nat} (hn : n < 1000000000) :
    (n = 0 ∧ (Time.fractionText n).toList = []) ∨ (n ≠ 0 ∧ ∃ width m, 0 < width ∧ width ≤ 9 ∧
      m < 10 ^ width ∧ m * 10 ^ (9 - width) = n ∧
      (Time.fractionText n).toList = '.' :: (padded width m).toList) := by
  unfold Time.fractionText
  split
  · next h => exact .inl ⟨h, rfl⟩
  · next h =>
    refine .inr ⟨h, ?_⟩
    split
    · exact ⟨3, n / 1000000, by decide, by decide, by omega, by omega, by simp⟩
    · split
      · exact ⟨6, n / 1000, by decide, by decide, by omega, by omega, by simp⟩
      · exact ⟨9, n, by decide, by decide, by omega, by omega, by simp⟩

theorem readFraction?_fractionText {n : Nat} (hn : n < 1000000000) :
    readFraction? (Time.fractionText n).toList = some (n, []) := by
  rcases fractionText_cases hn with ⟨rfl, htext⟩ | ⟨-, width, m, hpos, hwidth, hm, hvalue, htext⟩
  · rw [htext]
    rfl
  · rw [htext, readFraction?_point width hpos hwidth hm, hvalue]

theorem stopsDigits_fractionText {n : Nat} (hn : n < 1000000000) :
    StopsDigits (Time.fractionText n).toList := by
  rcases fractionText_cases hn with ⟨-, htext⟩ | ⟨-, _, _, -, -, -, -, htext⟩
  · simp [htext]
  · simp [htext, isDigit]

theorem solid_fractionText {n : Nat} (hn : n < 1000000000) :
    Solid (Time.fractionText n).toList := by
  rcases fractionText_cases hn with ⟨-, htext⟩ | ⟨-, width, m, -, -, -, -, htext⟩
  · simp [htext]
  · simp [htext, isBlank, (numeral_padded width m).solid]

theorem fractionText_eq_nil {n : Nat} (hn : n < 1000000000) :
    (Time.fractionText n).toList = [] ↔ n = 0 := by
  rcases fractionText_cases hn with ⟨h, htext⟩ | ⟨h, _, _, -, -, -, -, htext⟩
  · exact iff_of_true htext h
  · exact iff_of_false (by simp [htext]) h

theorem readTimePart?_toList_display (fractional : Bool) (t : Time) :
    readTimePart? fractional t.display.toList =
      (if fractional then readFraction? (Time.fractionText t.fraction).toList
        else some (0, (Time.fractionText t.fraction).toList)).bind fun (nanosecond, rest) =>
      (Time.of? t.hour t.minute t.asPrinted.second
        (t.asPrinted.whole.nanosecond + nanosecond)).map (·, rest) := by
  have hbounds := t.bounds
  have hcolon (cs : List Char) : StopsDigits (':' :: cs) := by simp [isDigit]
  rw [Time.toList_display, readTimePart?,
    readField?_padded (by omega) (by decide) (hcolon _)]
  simp only [Option.bind_eq_bind, Option.bind_some, expect?, ↓reduceIte]
  rw [readField?_padded (by omega) (by decide) (hcolon _)]
  simp only [Option.bind_some, ↓reduceIte]
  rw [readField?_padded t.printedSecond_le (by decide)
    (stopsDigits_fractionText t.fraction_lt)]
  have hclock (nanosecond : Nat) (rest : List Char) :
      (if t.printedSecond = 60 then
        (Time.of? t.hour t.minute 59 (1000000000 + nanosecond)).bind fun time => pure (time, rest)
      else
        (Time.of? t.hour t.minute t.printedSecond nanosecond).bind fun time => pure (time, rest)) =
      (Time.of? t.hour t.minute t.asPrinted.second
        (t.asPrinted.whole.nanosecond + nanosecond)).map (·, rest) := by
    rw [← t.of?_printed nanosecond, Option.map_eq_bind]
    split <;> rfl
  cases fractional with
  | false => simpa using hclock 0 _
  | true => simp only [↓reduceIte, Option.bind_some, hclock]

theorem readTimePart?_whole (t : Time) :
    readTimePart? false t.display.toList =
      some (t.asPrinted.whole, (Time.fractionText t.fraction).toList) := by
  have hwhole := Time.of?_parts t.regular_asPrinted.whole
  rw [readTimePart?_toList_display]
  simpa [Time.whole] using hwhole

theorem readTimePart?_fraction (t : Time) :
    readTimePart? true t.display.toList = some (t.asPrinted, []) := by
  have hnanosecond := t.asPrinted.whole_add_fraction
  have hparts := Time.of?_parts t.regular_asPrinted
  rw [Time.fraction_asPrinted] at hnanosecond
  rw [readTimePart?_toList_display, if_pos rfl, readFraction?_fractionText t.fraction_lt]
  simp only [Time.hour_asPrinted, Time.minute_asPrinted] at hparts
  simp [hnanosecond, hparts]

theorem solid_padded (width n : Nat) : Solid (padded width n).toList :=
  (numeral_padded width n).solid

theorem solid_display_date (d : Date) : Solid d.display.toList := by
  have hyear : Solid (Date.yearText d.year).toList := by
    unfold Date.yearText
    split
    · exact solid_padded _ _
    · split <;> simp [solid_padded, isBlank]
  simp [Date.display, hyear, solid_padded, isBlank]

theorem solid_display_time (t : Time) : Solid t.display.toList := by
  simp [Time.toList_display, solid_fractionText t.fraction_lt, solid_padded, isBlank]

theorem readDate?_display (d : Date) : readDate? d.display.toList = some d := by
  have hread := readDatePart?_display d stopsDigits_nil
  rw [List.append_nil] at hread
  rw [readDate?, hread]
  rfl

/-- A time of day is read if it has no fraction, and not at all if it has one. -/
theorem readTime?_display (t : Time) :
    readTime? t.display.toList = if t.fraction = 0 then some t.asPrinted else none := by
  have hnil := fractionText_eq_nil t.fraction_lt
  rw [readTime?, readTimePart?_whole]
  split
  · next h =>
    rw [hnil.2 h, Time.whole_of_fraction (t.fraction_asPrinted.trans h)]
    rfl
  · next h =>
    obtain ⟨c, cs, hcs⟩ := List.exists_cons_of_ne_nil (mt hnil.1 h)
    rw [hcs]
    rfl

theorem trimStart_display (t : Time) : trimStart t.display.toList = t.display.toList := by
  rw [Time.toList_display]
  exact (numeral_padded 2 t.hour).trimStart _

/-- The first form reads a time without a fraction, the last one any other. -/
theorem readDateTime?_display (t : DateTime) :
    readDateTime? t.display.toList = some ⟨t.date, t.time.asPrinted⟩ := by
  have hdate (rest : List Char) :
      readDatePart? (t.date.display.toList ++ ' ' :: rest) = some (t.date, ' ' :: rest) :=
    readDatePart?_display t.date (by simp [isDigit])
  have htext : t.display.toList = t.date.display.toList ++ ' ' :: t.time.display.toList := by
    simp [DateTime.display]
  have hblank (cs : List Char) : trimStart (' ' :: cs) = trimStart cs := rfl
  have htrim := trimStart_display t.time
  have hwhole := readTime?_display t.time
  have hfull := readTimePart?_fraction t.time
  rw [readTime?] at hwhole
  rw [htext, readDateTime?]
  simp only [readDateTimeWith?, hdate, Option.bind_eq_bind, Option.bind_some, hblank, htrim, hwhole,
    hfull]
  by_cases h : t.time.fraction = 0
  · simp [h]
  · simp [h, expect?, atEnd?]

end Calendar

end QueryEngine
