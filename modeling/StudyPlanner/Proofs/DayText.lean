import StudyPlanner.Proofs.CivilDays
import StudyPlanner.Proofs.Decimal
import StudyPlanner.Calendar.Text
import StudyPlanner.Form.Check
/-!
# Days shown on a page read back as typed days

A page shows a day as `YYYY-MM-DD`, the year signed when it is outside `0..9999`, and reads a
typed day with the same pattern, as midnight UTC. The two agree on every day of the calendar:

* the text of a valid date in the calendar's years reads back as that date's midnight
  (`readDayInput_text`): the year, month and day are written with their digits padded by
  zeros, and each is read back up to the `-` after it (`readCivil_text`);
* so a wire number of seconds in the calendar's range, shown as its day, reads back as the
  midnight that starts the day (`dateInput_showDay_ofEpochSeconds`);
* and a typed day is a midnight whose text reads back as itself
  (`dateInput_showDay_of_dateInput`).

That the shown day and the typed day name the same day of the calendar is the
correspondence of `civilFromDays` and `daysFromCivil` (`civilFromDays_eq_iff`).
-/

namespace StudyPlanner.Calendar

open Text

/-! ### Numbers padded with zeros -/

/-- A number padded with zeros: the zeros, then its digits. -/
theorem padded_toList (width n : Nat) :
    (padded width n).toList =
      List.replicate (width - (Nat.toDigits 10 n).length) '0' ++ Nat.toDigits 10 n := by
  simp [padded, Nat.toString_eq_repr, Nat.toList_repr, ← String.length_toList]

theorem isDigit_of_mem_padded {width n : Nat} {c : Char} (h : c ∈ (padded width n).toList) :
    c.isDigit = true := by
  rw [padded_toList, List.mem_append, List.mem_replicate] at h
  rcases h with ⟨-, rfl⟩ | h
  · rfl
  · exact Nat.isDigit_of_mem_toDigits (by decide) (by decide) h

theorem padded_ne_nil (width n : Nat) : (padded width n).toList ≠ [] := by
  simp [padded_toList, Nat.toDigits_ne_nil]

/-- The zeros in front do not change the value. -/
theorem ofDigitChars_padded (width n : Nat) : Nat.ofDigitChars 10 (padded width n).toList 0 = n := by
  rw [padded_toList, Nat.ofDigitChars_append, Nat.ofDigitChars_replicate_zero, Nat.mul_zero,
    Nat.ofDigitChars_ten_toDigits]

/-- A number below `10 ^ width` takes `width` characters. -/
theorem length_padded {width n : Nat} (hw : 0 < width) (hn : n < 10 ^ width) :
    (padded width n).toList.length = width := by
  have hlen := (Nat.length_toDigits_le_iff (by decide) hw).mpr hn
  rw [padded_toList, List.length_append, List.length_replicate]
  omega

/-! ### Reading numbers -/

/-- A list that does not go on with a digit. -/
def StopsDigits (cs : List Char) : Prop := cs.takeWhile Char.isDigit = []

theorem stopsDigits_nil : StopsDigits [] := rfl

theorem stopsDigits_dash (cs : List Char) : StopsDigits ('-' :: cs) := rfl

/-- Digits followed by something else: all the digits are taken, if there are few enough. -/
theorem takeDigits_digits_append {ds rest : List Char} {max : Nat}
    (hd : ∀ c ∈ ds, c.isDigit = true) (hlen : ds.length ≤ max) (hrest : StopsDigits rest) :
    takeDigits max (ds ++ rest) = (ds, rest) := by
  simp only [StopsDigits] at hrest
  simp only [takeDigits, List.takeWhile_append_of_pos hd, hrest, List.append_nil,
    List.take_of_length_le hlen, List.drop_left]

/-- A list that starts with a digit is its own front trimming. -/
theorem trimFront_of_digit {c : Char} {cs : List Char} (hc : c.isDigit = true) :
    trimFront (c :: cs) = c :: cs := by
  rw [trimFront_cons, if_neg (by simp [isBlank_of_isDigit hc])]

theorem readNumber_digits_append {ds rest : List Char} {max : Nat} (hne : ds ≠ [])
    (hd : ∀ c ∈ ds, c.isDigit = true) (hlen : ds.length ≤ max) (hrest : StopsDigits rest) :
    readNumber max (ds ++ rest) = some (Nat.ofDigitChars 10 ds 0, rest) := by
  obtain ⟨c, cs, rfl⟩ := List.exists_cons_of_ne_nil hne
  simp only [readNumber]
  rw [List.cons_append, trimFront_of_digit (hd c List.mem_cons_self), ← List.cons_append,
    takeDigits_digits_append hd hlen hrest]
  simp only [Decimal.readDigits?_of_digits hne hd, Option.map_some]

theorem readSignedDigits_digits_append {ds rest : List Char} (hne : ds ≠ [])
    (hd : ∀ c ∈ ds, c.isDigit = true) (hrest : StopsDigits rest) :
    readSignedDigits (ds ++ rest) = some (Nat.ofDigitChars 10 ds 0, rest) := by
  simp only [readSignedDigits]
  rw [@takeDigits_digits_append ds rest (ds ++ rest).length hd (by simp) hrest]
  simp only [Decimal.readDigits?_of_digits hne hd, Option.map_some]

/-! ### Reading a day's text -/

/-- The year is read up to the `-` after it, with or without a sign. -/
theorem readYear_yearText (y : Int) (rest : List Char) :
    readYear ((yearText y).toList ++ '-' :: rest) = some (y, '-' :: rest) := by
  unfold yearText
  by_cases hy : 0 ≤ y ∧ y ≤ 9999
  · rw [if_pos hy]
    -- four digits, the first neither blank nor a sign
    have hlen : (padded 4 y.toNat).toList.length = 4 := length_padded (by decide) (by omega)
    obtain ⟨c, cs, hcs⟩ := List.exists_cons_of_ne_nil (padded_ne_nil 4 y.toNat)
    have hc : c.isDigit = true := isDigit_of_mem_padded (hcs ▸ List.mem_cons_self)
    have hnum := readNumber_digits_append (padded_ne_nil 4 y.toNat)
      (fun _ h => isDigit_of_mem_padded h) (le_of_eq hlen) (stopsDigits_dash rest)
    rw [ofDigitChars_padded] at hnum
    rw [readYear, hcs, List.cons_append, trimFront_of_digit hc]
    split
    · next heq => simp only [List.cons.injEq] at heq; rw [heq.1] at hc; cases hc
    · next heq => simp only [List.cons.injEq] at heq; rw [heq.1] at hc; cases hc
    · rw [← List.cons_append, ← hcs, hnum]
      simp only [Option.map_some]
      rw [Int.toNat_of_nonneg hy.1]
  · rw [if_neg hy]
    have hsigned := readSignedDigits_digits_append (padded_ne_nil 4 y.natAbs)
      (fun _ h => isDigit_of_mem_padded h) (stopsDigits_dash rest)
    rw [ofDigitChars_padded] at hsigned
    by_cases hneg : y < 0
    · rw [if_pos hneg]
      simp only [readYear, String.toList_append, show "-".toList = ['-'] from rfl, List.cons_append,
        List.nil_append, trimFront_cons, show isBlank '-' = false from rfl, Bool.false_eq_true,
        if_false, hsigned, Option.map_some]
      rw [show -(y.natAbs : Int) = y by omega]
    · rw [if_neg hneg]
      simp only [readYear, String.toList_append, show "+".toList = ['+'] from rfl, List.cons_append,
        List.nil_append, trimFront_cons, show isBlank '+' = false from rfl, Bool.false_eq_true,
        if_false, hsigned, Option.map_some]
      rw [show (y.natAbs : Int) = y by omega]

/-- The characters of a date's text: the year, a dash, the month, a dash and the day. -/
theorem text_toList (c : CivilDate) :
    c.text.toList = (yearText c.year).toList ++ '-' :: ((padded 2 c.month).toList ++
      '-' :: (padded 2 c.day).toList) := by
  simp [CivilDate.text, String.toList_append]

/-- A date whose month and day take at most two digits reads back from its text. -/
theorem readCivil_text {c : CivilDate} (hm : c.month < 100) (hd : c.day < 100) :
    readCivil c.text.toList = some c := by
  have hmonth := readNumber_digits_append (padded_ne_nil 2 c.month)
    (fun _ h => isDigit_of_mem_padded h) (le_of_eq (length_padded (by decide) hm))
    (stopsDigits_dash (padded 2 c.day).toList)
  have hday := readNumber_digits_append (padded_ne_nil 2 c.day)
    (fun _ h => isDigit_of_mem_padded h) (le_of_eq (length_padded (by decide) hd)) stopsDigits_nil
  rw [List.append_nil, ofDigitChars_padded] at hday
  rw [ofDigitChars_padded] at hmonth
  simp only [readCivil, text_toList, readYear_yearText, hmonth, hday, Option.bind_some,
    bind, List.isEmpty_nil, if_true]

/-- No character of a date's text is blank. -/
theorem text_not_blank (c : CivilDate) : ∀ ch ∈ c.text.toList, isBlank ch = false := by
  intro ch hch
  have hpadded : ∀ w n, ∀ ch ∈ (padded w n).toList, isBlank ch = false :=
    fun _ _ _ h => isBlank_of_isDigit (isDigit_of_mem_padded h)
  rw [text_toList] at hch
  simp only [List.mem_append, List.mem_cons] at hch
  rcases hch with hy | rfl | hm | rfl | hd
  · unfold yearText at hy
    split at hy
    · exact hpadded _ _ _ hy
    · rw [String.toList_append, List.mem_append] at hy
      rcases hy with hsign | hy
      · have hsign' : ch = '-' ∨ ch = '+' := by split at hsign <;> simp_all
        rcases hsign' with rfl | rfl <;> rfl
      · exact hpadded _ _ _ hy
  · rfl
  · exact hpadded _ _ _ hm
  · rfl
  · exact hpadded _ _ _ hd

/-- The text of a valid date in the calendar's years reads back as its midnight. -/
theorem readDayInput_text {c : CivilDate} (hc : c.isValid = true) (hlo : -262143 ≤ c.year)
    (hhi : c.year ≤ 262142) :
    readDayInput c.text = some (some (Moment.ofDate c)) := by
  have hvalid := (CivilDate.isValid_iff c).mp hc
  have hdays := daysInMonth_le c.year c.month
  have hread := readCivil_text (c := c) (by omega) (by omega)
  have hne : c.text.toList ≠ [] := by simp [text_toList]
  simp only [readDayInput, trimList_of_forall_not_blank (text_not_blank c), List.isEmpty_iff, hne,
    if_false, hread, hc, decide_eq_true hlo, decide_eq_true hhi, Bool.and_self, if_true]

/-- A typed day is the midnight of a valid date in the calendar's years. -/
theorem readDayInput_eq_some_some {v : String} {d : Moment} (h : readDayInput v = some (some d)) :
    ∃ c : CivilDate, c.isValid = true ∧ -262143 ≤ c.year ∧ c.year ≤ 262142 ∧
      d = Moment.ofDate c := by
  simp only [readDayInput] at h
  split at h
  · cases h
  · split at h
    · cases h
    · next c _ =>
      split at h
      · next hc =>
        simp only [Bool.and_eq_true, decide_eq_true_eq] at hc
        simp only [Option.some.injEq] at h
        exact ⟨c, hc.1.1, hc.1.2, hc.2, h.symm⟩
      · cases h

/-! ### Shown days and typed days -/

/-- A typed day is read as the page reads it: a day, none for a blank field, or the error. -/
theorem dateInput_eq_ok {v : String} {d : Option Moment} (h : readDayInput v = some d) :
    Form.dateInput v = .ok d := by
  simp only [Form.dateInput, h]

/-- What the page takes from a typed day is what `readDayInput` reads of it. -/
theorem readDayInput_of_dateInput {v : String} {d : Option Moment}
    (h : Form.dateInput v = .ok d) : readDayInput v = some d := by
  unfold Form.dateInput at h
  split at h
  · next hr => cases h; exact hr
  · cases h

/-- The day shown for a wire number of seconds in the calendar's range is read back as the
midnight that starts it. -/
theorem dateInput_showDay_ofEpochSeconds {s : Int} (h0 : s ≠ 0) (hlo : minSeconds ≤ s)
    (hhi : s ≤ maxSeconds) :
    Form.dateInput (showDay (ofEpochSeconds s)) = .ok (some { seconds := s - s % 86400 }) := by
  have hof : ofEpochSeconds s = some { seconds := s } := by
    simp only [ofEpochSeconds, Moment.ofTimestamp?, h0, if_false]
    rw [if_neg (by omega), if_neg (by decide), if_neg (by omega)]
  have hvalid := civilFromDays_isValid (s / 86400)
  have hdays := daysFromCivil_civilFromDays (s / 86400)
  -- the day of a second in the range is a day of the calendar's years
  have hyears := (year_mem_range_iff hvalid).mpr (by
    rw [hdays]
    simp only [minSeconds, maxSeconds] at hlo hhi ⊢
    omega)
  rw [hof, showDay, Moment.dayText, Moment.date]
  rw [dateInput_eq_ok (readDayInput_text hvalid hyears.1 hyears.2), Moment.ofDate, hdays]
  congr
  omega

/-- A typed day is a midnight, and the day shown for it is read back as it. -/
theorem dateInput_showDay_of_dateInput {v : String} {d : Moment}
    (h : Form.dateInput v = .ok (some d)) :
    d.secondOfDay = 0 ∧ d.nanos = 0 ∧ Form.dateInput (showDay (some d)) = .ok (some d) := by
  obtain ⟨c, hc, hlo, hhi, rfl⟩ := readDayInput_eq_some_some (readDayInput_of_dateInput h)
  have hday : (Moment.ofDate c).seconds / 86400 = daysFromCivil c := by
    simp only [Moment.ofDate]
    omega
  refine ⟨by simp [Moment.secondOfDay, Moment.ofDate], rfl, ?_⟩
  rw [showDay, Moment.dayText, Moment.date, hday, civilFromDays_daysFromCivil hc]
  exact dateInput_eq_ok (readDayInput_text hc hlo hhi)

/-- Displayed dates re-parse to their day: a wire number of seconds in the calendar's range
other than zero, shown as its day, is read back as the midnight UTC that starts the day; and a
typed day is a midnight UTC whose shown day is read back as itself. -/
theorem displayed_day_reads_back :
    (∀ s : Int, s ≠ 0 → minSeconds ≤ s → s ≤ maxSeconds →
      Form.dateInput (showDay (ofEpochSeconds s)) = .ok (some { seconds := s - s % 86400 })) ∧
    (∀ (v : String) (d : Moment), Form.dateInput v = .ok (some d) →
      d.secondOfDay = 0 ∧ d.nanos = 0 ∧ Form.dateInput (showDay (some d)) = .ok (some d)) :=
  ⟨fun _ h0 hlo hhi => dateInput_showDay_ofEpochSeconds h0 hlo hhi,
    fun _ _ h => dateInput_showDay_of_dateInput h⟩

/-- The last second before the epoch shows as the 31st of December 1969, read back as its
midnight; the 1st of March 2024, typed, shows as itself. -/
theorem displayed_days_read_back_around_epoch :
    ((-1 : Int) ≠ 0 ∧ minSeconds ≤ -1 ∧ -1 ≤ maxSeconds ∧
      Form.dateInput (showDay (ofEpochSeconds (-1))) = .ok (some { seconds := -86400 })) ∧
    (Form.dateInput "2024-03-01" = .ok (some { seconds := 1709251200 }) ∧
      Form.dateInput (showDay (some { seconds := 1709251200 })) =
        .ok (some { seconds := 1709251200 })) :=
  ⟨⟨by decide, by decide, by decide,
      displayed_day_reads_back.1 (-1) (by decide) (by decide) (by decide)⟩,
    ⟨by rfl, (displayed_day_reads_back.2 "2024-03-01" _ (by rfl)).2.2⟩⟩

end StudyPlanner.Calendar
