import StudyPlanner.Proofs.DayText
import StudyPlanner.Service.Replies
/-!
# Dates on the wire

Records carry a date as its whole seconds since the epoch, and zero stands for no date. Going
to the wire and back therefore loses the sub-second part of a date, and loses the date
altogether when its whole seconds are zero:

* a number of seconds read as a date and written back is itself when it lies in the
  calendar's range, and zero otherwise (`toEpochSeconds_ofEpochSeconds`);
* a date written and read back is the date at its whole second, unless that second is the
  epoch's, which reads back as no date (`ofEpochSeconds_toEpochSeconds`);
* a typed day is a midnight within the calendar's range (`dateInput_seconds_mem_range`), so
  what a page sends of it comes back as the same day, except the 1st of January 1970, whose
  midnight is the epoch (`dateOfWire_dateToWire_of_dateInput`).
-/

namespace StudyPlanner.Calendar

/-- A wire number of seconds is a date when it is not zero and lies in the calendar's range. -/
theorem ofEpochSeconds_eq (s : Int) :
    ofEpochSeconds s =
      if s = 0 ∨ s < minSeconds ∨ maxSeconds < s then none else some { seconds := s } := by
  simp only [ofEpochSeconds, Moment.ofTimestamp?]
  by_cases h0 : s = 0
  · simp [h0]
  · by_cases hrange : s < minSeconds ∨ maxSeconds < s
    · simp [h0, hrange]
    · rw [if_neg h0, if_neg hrange, if_neg (by decide), if_neg (by omega), if_neg (by tauto)]

/-- A number of seconds read as a date and written back is itself within the calendar's range,
and zero outside it. -/
theorem toEpochSeconds_ofEpochSeconds (s : Int) :
    toEpochSeconds (ofEpochSeconds s) = if minSeconds ≤ s ∧ s ≤ maxSeconds then s else 0 := by
  rw [ofEpochSeconds_eq]
  by_cases h0 : s = 0
  · simp [h0, toEpochSeconds]
  · by_cases hrange : minSeconds ≤ s ∧ s ≤ maxSeconds
    · rw [if_neg (by omega), if_pos hrange]
      rfl
    · rw [if_pos (by omega), if_neg hrange]
      rfl

/-- A moment built from a timestamp keeps its seconds, which lie in the calendar's range. -/
theorem ofTimestamp?_eq_some {secs : Int} {nanos : Nat} {d : Moment}
    (h : Moment.ofTimestamp? secs nanos = some d) :
    d.seconds = secs ∧ minSeconds ≤ secs ∧ secs ≤ maxSeconds := by
  simp only [Moment.ofTimestamp?] at h
  split at h
  · cases h
  · split at h
    · cases h
    · split at h
      · cases h
      · next hrange _ _ =>
        simp only [Option.some.injEq] at h
        subst h
        exact ⟨rfl, by omega, by omega⟩

/-- A date written to the wire and read back is the date at its whole second, or no date when
that second is the epoch's. -/
theorem ofEpochSeconds_toEpochSeconds {secs : Int} {nanos : Nat} {d : Moment}
    (h : Moment.ofTimestamp? secs nanos = some d) :
    ofEpochSeconds (toEpochSeconds (some d)) =
      if d.seconds = 0 then none else some { d with nanos := 0 } := by
  obtain ⟨rfl, hlo, hhi⟩ := ofTimestamp?_eq_some h
  rw [toEpochSeconds, ofEpochSeconds_eq]
  by_cases h0 : d.seconds = 0
  · simp [h0]
  · rw [if_neg (by omega), if_neg h0]

/-- A typed day lies within the calendar's range. -/
theorem dateInput_seconds_mem_range {v : String} {d : Moment}
    (h : Form.dateInput v = .ok (some d)) : minSeconds ≤ d.seconds ∧ d.seconds ≤ maxSeconds := by
  obtain ⟨c, hc, hlo, hhi, rfl⟩ := readDayInput_eq_some_some (readDayInput_of_dateInput h)
  have hdays := (year_mem_range_iff hc).mp ⟨hlo, hhi⟩
  simp only [Moment.ofDate]
  simp only [minSeconds, maxSeconds] at hdays ⊢
  omega

end StudyPlanner.Calendar

namespace StudyPlanner.Service

open Calendar

/-- Within 64 bits, a date goes to the wire and back as its seconds read as a date. -/
theorem dateOfWire_dateToWire {d : Moment} (hlo : minSeconds ≤ d.seconds)
    (hhi : d.seconds ≤ maxSeconds) :
    dateOfWire (dateToWire (some d)) = ofEpochSeconds d.seconds := by
  simp only [minSeconds, maxSeconds] at hlo hhi
  rw [dateOfWire, dateToWire, toEpochSeconds, Int64.toInt_ofInt_of_le (by omega) (by omega)]

/-- What a page sends of a typed day comes back as that day, but for the 1st of January 1970,
whose midnight is the epoch and comes back as no date. -/
theorem dateOfWire_dateToWire_of_dateInput {v : String} {d : Moment}
    (h : Form.dateInput v = .ok (some d)) :
    dateOfWire (dateToWire (some d)) = if d.seconds = 0 then none else some d := by
  obtain ⟨hlo, hhi⟩ := dateInput_seconds_mem_range h
  have hnanos := (dateInput_showDay_of_dateInput h).2.1
  rw [dateOfWire_dateToWire hlo hhi, ofEpochSeconds_eq]
  by_cases h0 : d.seconds = 0
  · simp [h0]
  · rw [if_neg (by omega), if_neg h0]
    obtain ⟨seconds, nanos⟩ := d
    simp only at hnanos
    rw [hnanos]

/-- Dates survive the trip to the wire and back, but for the epoch's second. A number of
seconds read as a date and written back is itself within the calendar's range and zero outside
it; any date written and read back is the date at its whole second, or no date when that
second is the epoch's; and a day a page sends from its form comes back as the same day, or as
no date for the 1st of January 1970. -/
theorem wire_dates_round_trip_but_epoch :
    (∀ s : Int, toEpochSeconds (ofEpochSeconds s) =
        if minSeconds ≤ s ∧ s ≤ maxSeconds then s else 0) ∧
    (∀ (secs : Int) (nanos : Nat) (d : Moment), Moment.ofTimestamp? secs nanos = some d →
        ofEpochSeconds (toEpochSeconds (some d)) =
          if d.seconds = 0 then none else some { d with nanos := 0 }) ∧
    (∀ (v : String) (d : Moment), Form.dateInput v = .ok (some d) →
        dateOfWire (dateToWire (some d)) = if d.seconds = 0 then none else some d) :=
  ⟨toEpochSeconds_ofEpochSeconds, fun _ _ _ h => ofEpochSeconds_toEpochSeconds h,
    fun _ _ h => dateOfWire_dateToWire_of_dateInput h⟩

/-- Half a second after the epoch goes to the wire and back at its whole second; the 2nd of
January 1970, typed, comes back as itself. -/
theorem wire_dates_round_trip_after_epoch :
    (Moment.ofTimestamp? 1 500000000 = some { seconds := 1, nanos := 500000000 } ∧
      ofEpochSeconds (toEpochSeconds (some { seconds := 1, nanos := 500000000 })) =
        some { seconds := 1 }) ∧
    (Form.dateInput "1970-01-02" = .ok (some { seconds := 86400 }) ∧
      dateOfWire (dateToWire (some { seconds := 86400 })) = some { seconds := 86400 }) :=
  ⟨⟨rfl, wire_dates_round_trip_but_epoch.2.1 1 500000000 _ rfl⟩,
    ⟨rfl, wire_dates_round_trip_but_epoch.2.2 "1970-01-02" _ rfl⟩⟩

/-- The epoch itself does not survive: `1970-01-01T00:00:00Z`, which is also what the page
reads for the typed day `1970-01-01`, is written as zero and read back as no date. -/
theorem epoch_reads_back_as_no_date :
    Moment.ofTimestamp? 0 0 = some { seconds := 0 } ∧
      ofEpochSeconds (toEpochSeconds (some { seconds := 0 })) = none ∧
      Form.dateInput "1970-01-01" = .ok (some { seconds := 0 }) ∧
      dateOfWire (dateToWire (some { seconds := 0 })) = none :=
  ⟨rfl, rfl, rfl, rfl⟩

end StudyPlanner.Service
