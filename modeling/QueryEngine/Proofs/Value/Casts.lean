import QueryEngine.Operation.Cast
import QueryEngine.Proofs.Calendar.Reading
import QueryEngine.Proofs.Value.Numbers

namespace QueryEngine.Operation

open Text Calendar

/-- Cast to STRING and then to its own type again, the value is what it was. -/
def SurvivesText (v : Value) : Prop :=
  ∃ s, cast v .string = .ok (.string s) ∧ cast (.string s) v.type = .ok v

theorem splitSign_numeral {ds : List Char} {n : Nat} (h : Numeral ds n) :
    Binary64.splitSign ds = (false, ds) := by
  -- a digit is neither of the signs
  rw [Binary64.splitSign.eq_def]
  split
  · exact absurd (h.digits '-' List.mem_cons_self) (by decide)
  · exact absurd (h.digits '+' List.mem_cons_self) (by decide)
  · rfl

theorem checked?_toInt (i : Int64) : checked? i.toInt = some i := by
  have hrange : Number.inInt64 i.toInt = true := Number.inInt64_iff.2 ⟨i, rfl⟩
  simp [checked?, hrange]

theorem toList_toString_int (n : Int) :
    (toString n).toList =
      if 0 ≤ n then (toString n.toNat).toList else '-' :: (toString (-n).toNat).toList := by
  rw [Int.toString_eq_repr, Int.repr_eq_if]
  split <;> simp [Nat.toString_eq_repr]

theorem solid_toString_int (n : Int) : Solid (toString n).toList := by
  rw [toList_toString_int]
  split
  · exact (numeral_toString _).solid
  · exact solid_cons.2 ⟨rfl, (numeral_toString _).solid⟩

theorem readInteger?_numeral {ds : List Char} {n : Nat} {i : Int64} (h : Numeral ds n)
    (hi : (n : Int) = i.toInt) : readInteger? ds = some i := by
  have hall := List.all_eq_true.2 h.digits
  simp [readInteger?, splitSign_numeral h, h.nonempty, hall, h.value, hi, checked?_toInt]

theorem readInteger?_minus {ds : List Char} {n : Nat} {i : Int64} (h : Numeral ds n)
    (hi : -(n : Int) = i.toInt) : readInteger? ('-' :: ds) = some i := by
  have hall := List.all_eq_true.2 h.digits
  simp [readInteger?, Binary64.splitSign, h.nonempty, hall, h.value, hi, checked?_toInt]

/-- The least integer is no exception: its sign counts before its range is checked. -/
theorem readInteger?_toString (i : Int64) :
    readInteger? (toString i.toInt).toList = some i := by
  rw [toList_toString_int]
  split
  · next h => exact readInteger?_numeral (numeral_toString _) (Int.toNat_of_nonneg h)
  · next h => exact readInteger?_minus (numeral_toString _) (by omega)

theorem survivesText_of_convert {v : Value} (htype : v.type ≠ .null)
    (htext : toText? v = some (.string v.display))
    (hback : convert? v.type (.string v.display) = some v) : SurvivesText v := by
  have hnull : v.isNull = false := by
    cases v <;> simp_all [Value.isNull, Value.type]
  refine ⟨v.display, ?_, ?_⟩
  · simp [cast, hnull, convert?, htext]
  · simp [cast, Value.isNull, htype, hback]

theorem readBoolean?_toString (b : Bool) : readBoolean? (trim (toString b)) = some b := by
  cases b <;> decide

theorem survivesText_boolean (b : Bool) : SurvivesText (.boolean b) := by
  refine survivesText_of_convert (by simp [Value.type]) rfl ?_
  simp only [Value.type, Value.display, convert?, toBoolean?, readBoolean?_toString,
    Option.map_some]

theorem survivesText_integer (i : Int64) : SurvivesText (.integer i) := by
  refine survivesText_of_convert (by simp [Value.type]) rfl ?_
  have htrim : trim (toString i) = (toString i.toInt).toList :=
    trim_of_tight (solid_toString_int i.toInt).tight
  simp only [Value.type, Value.display, convert?, toInteger?, htrim, readInteger?_toString,
    Option.map_some]

theorem survivesText_date (d : Date) : SurvivesText (.date d) := by
  refine survivesText_of_convert (by simp [Value.type]) rfl ?_
  have htrim := trim_of_tight (solid_display_date d).tight
  simp [Value.type, Value.display, convert?, toDate?, htrim, readDate?_display]

theorem tight_display (t : DateTime) : Tight t.display.toList := by
  have htext : t.display.toList = t.date.display.toList ++ [' '] ++ t.time.display.toList := by
    simp [DateTime.display]
  have hdate : t.date.display.toList ≠ [] := by simp [Date.display]
  have htime : t.time.display.toList ≠ [] := by simp [Time.toList_display]
  rw [htext]
  exact (solid_display_date t.date).tight.append _ (solid_display_time t.time).tight hdate htime

theorem cast_datetime_string (t : DateTime) :
    cast (.datetime t) .string = .ok (.string t.display) := by
  rfl

theorem cast_display_datetime (t : DateTime) :
    cast (.string t.display) .datetime = .ok (.datetime ⟨t.date, t.time.asPrinted⟩) := by
  have htrim := trim_of_tight (tight_display t)
  simp [cast, Value.isNull, convert?, toDateTime?, htrim, readDateTime?_display]

theorem survivesText_iff {v : Value} {s : String} {back : Except Error Value}
    (htext : cast v .string = .ok (.string s)) (hback : cast (.string s) v.type = back) :
    SurvivesText v ↔ back = .ok v := by
  constructor
  · rintro ⟨s', hs', hv⟩
    obtain rfl : s = s' := by simpa using htext.symm.trans hs'
    exact hback.symm.trans hv
  · rintro rfl
    exact ⟨s, htext, hback⟩

theorem survivesText_datetime (t : DateTime) : SurvivesText (.datetime t) ↔ t.time.Regular := by
  rw [survivesText_iff (cast_datetime_string t) (cast_display_datetime t),
    ← Time.asPrinted_eq_self_iff]
  obtain ⟨date, time⟩ := t
  simp

theorem cast_time_string (t : Time) :
    cast (.time t) .string = .ok (.string t.display) := by
  rfl

/-- A fraction of a second is printed, but what reads a time of day has no place for it. -/
theorem cast_display_time (t : Time) :
    cast (.string t.display) .time =
      if t.fraction = 0 then .ok (.time t.asPrinted)
      else .error (.execution (.cannotCast (.string t.display) .time)) := by
  have htrim := trim_of_tight (solid_display_time t).tight
  simp only [cast, Value.isNull, Bool.false_or, convert?, toTime?, htrim, readTime?_display]
  by_cases h : t.fraction = 0 <;> simp [h]

theorem survivesText_time (t : Time) :
    SurvivesText (.time t) ↔ t.fraction = 0 ∧ t.Regular := by
  rw [survivesText_iff (cast_time_string t) (cast_display_time t), ← Time.asPrinted_eq_self_iff]
  by_cases h : t.fraction = 0 <;> simp [h]

/-- A cast to STRING keeps all of a boolean, an integer and a date. With a time of day it succeeds as
well, and the way back gives what was printed, which is another time if there is a leap second that
does not follow second 59. Without a date, the way back fails if there is a fraction of a second. -/
theorem survivesText_scalar (b : Bool) (i : Int64) (d : Date) (t : DateTime) (clock : Time) :
    SurvivesText (.boolean b) ∧ SurvivesText (.integer i) ∧ SurvivesText (.date d) ∧
      (SurvivesText (.datetime t) ↔ t.time.nanosecond < 1000000000 ∨ t.time.second = 59) ∧
      (∃ s, cast (.datetime t) .string = .ok (.string s) ∧
        cast (.string s) .datetime = .ok (.datetime ⟨t.date, t.time.asPrinted⟩)) ∧
      (SurvivesText (.time clock) ↔ clock.nanosecond % 1000000000 = 0 ∧
        (clock.nanosecond < 1000000000 ∨ clock.second = 59)) ∧
      ∃ s, cast (.time clock) .string = .ok (.string s) ∧
        cast (.string s) .time =
          if clock.nanosecond % 1000000000 = 0 then .ok (.time clock.asPrinted)
          else .error (.execution (.cannotCast (.string s) .time)) :=
  ⟨survivesText_boolean b, survivesText_integer i, survivesText_date d, survivesText_datetime t,
    ⟨t.display, cast_datetime_string t, cast_display_datetime t⟩, survivesText_time clock,
    clock.display, cast_time_string clock, cast_display_time clock⟩

/-- Half a second is enough. A leap second in the middle of a minute comes back as the second that it
is printed as, also with a date. -/
theorem not_survivesText_seconds :
    let half : Time := ⟨12, 30, 15, 500000000, by decide⟩
    let leap : DateTime := ⟨⟨2015, 9, 8, by decide⟩, ⟨23, 56, 4, 1333333333, by decide⟩⟩
    cast (.time half) .string = .ok (.string "12:30:15.500") ∧
      cast (.string "12:30:15.500") .time =
        .error (.execution (.cannotCast (.string "12:30:15.500") .time)) ∧
      ¬ SurvivesText (.time half) ∧
      cast (.datetime leap) .string = .ok (.string "2015-09-08 23:56:05.333333333") ∧
      ¬ SurvivesText (.datetime leap) := by
  intro half leap
  have hhalf : half.display = "12:30:15.500" := by cbv
  have hleap : leap.display = "2015-09-08 23:56:05.333333333" := by cbv
  have hback := cast_display_time half
  rw [hhalf, if_neg (by decide)] at hback
  exact ⟨hhalf ▸ cast_time_string half, hback, mt (survivesText_time half).1 (by decide),
    hleap ▸ cast_datetime_string leap, mt (survivesText_datetime leap).1 (by decide)⟩

end QueryEngine.Operation
