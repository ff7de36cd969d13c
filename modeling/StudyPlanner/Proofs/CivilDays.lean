import StudyPlanner.Calendar.Moment
import Mathlib.Tactic.IntervalCases
/-!
# Day numbers and calendar dates are in one-to-one correspondence

`civilFromDays` and `daysFromCivil` are inverse to each other: every day number names a valid
date, and every valid date has exactly one day number (`civilFromDays_eq_iff`). On the way the
calendar's range comes out in days: a valid date lies in the years `-262143` to `262142`
exactly when its day number lies between the days of `minSeconds` and `maxSeconds`
(`year_mem_range_iff`).

Both functions count in whole eras of 400 years, each 146097 days long, and within an era from
the 1st of March, so that the leap day ends the year. The proofs rest on one way of splitting
a day of the era (`EraSplit`): `36524 a + 1461 b + 365 k + d`, with `a` whole centuries, `b`
whole four-year cycles, `k` whole years and day `d` of the year. The year of the era that
`civilFromDays` computes from a day is `100 a + 4 b + k` for any such split
(`yearOfEra_of_split`), and every day of the era has one (`eraSplit_exists`). Months are
counted from March too (`marchMonth`), and month `mp` starts on day `monthStart mp` of the
year.
-/

namespace StudyPlanner.Calendar

/-! ### Days of an era -/

/-- `(a, b, k, d)` splits a day of an era into `a` whole centuries, `b` whole four-year cycles,
`k` whole years and day `d` of the year. A year has a day `365` only when it is a leap year: the
last of its four-year cycle, unless that cycle ends a century other than the era's last. -/
def EraSplit (a b k d : Int) : Prop :=
  0 ≤ a ∧ a ≤ 3 ∧ 0 ≤ b ∧ b ≤ 24 ∧ 0 ≤ k ∧ k ≤ 3 ∧ 0 ≤ d ∧
    (d ≤ 364 ∨ d = 365 ∧ k = 3 ∧ (b ≤ 23 ∨ a = 3))

/-- The year of the era that `civilFromDays` computes is the split's. -/
theorem yearOfEra_of_split {n a b k d : Int} (h : EraSplit a b k d)
    (hn : n = 36524 * a + 1461 * b + 365 * k + d) :
    (n - n / 1460 + n / 36524 - n / 146096) / 365 = 100 * a + 4 * b + k := by
  obtain ⟨ha0, ha, hb0, hb, hk0, hk, hd0, hd⟩ := h
  -- the centuries: what is left of the day after them is less than a century, but for the
  -- era's last day, which alone reaches `146096`
  have hcent : n / 36524 - n / 146096 = a := by
    obtain ⟨r, hnr, hr0, hr⟩ :
        ∃ r, n = 36524 * a + r ∧ 0 ≤ r ∧ (r ≤ 36523 ∨ r = 36524 ∧ a = 3) :=
      ⟨1461 * b + 365 * k + d, by omega, by omega, by omega⟩
    clear hn hb0 hb hk0 hk hd0 hd
    omega
  -- the four-year cycles: `n / 1460` counts them, one more only late in a cycle's last year
  have hquad : 25 * a + b ≤ n / 1460 ∧ n / 1460 ≤ 25 * a + b + 1 ∧
      (n / 1460 = 25 * a + b + 1 → 365 * k + d ≥ 1460 - 24 * a - b) := by
    omega
  omega

/-- Every day of an era has a split. -/
theorem eraSplit_exists {n : Int} (h0 : 0 ≤ n) (h1 : n ≤ 146096) :
    ∃ a b k d, EraSplit a b k d ∧ n = 36524 * a + 1461 * b + 365 * k + d := by
  -- whole centuries (at most three), cycles, then whole years (at most three)
  let a := min (n / 36524) 3
  let r := (n - 36524 * a) % 1461
  refine ⟨a, (n - 36524 * a) / 1461, min (r / 365) 3, r - 365 * min (r / 365) 3, ?_, ?_⟩
  · unfold EraSplit
    omega
  · omega

/-- The split of a day of the era is unique. -/
theorem eraSplit_unique {a b k d a' b' k' d' : Int} (h : EraSplit a b k d)
    (h' : EraSplit a' b' k' d')
    (heq : 36524 * a + 1461 * b + 365 * k + d = 36524 * a' + 1461 * b' + 365 * k' + d') :
    a = a' ∧ b = b' ∧ k = k' ∧ d = d' := by
  have hy := yearOfEra_of_split h rfl
  rw [heq, yearOfEra_of_split h' rfl] at hy
  obtain ⟨_, _, _, _, _, _, _, _⟩ := h
  obtain ⟨_, _, _, _, _, _, _, _⟩ := h'
  omega

/-! ### Months counted from March -/

/-- The month counted from March: March is `0`, February `11`. -/
def marchMonth (m : Nat) : Int := if m > 2 then (m : Int) - 3 else (m : Int) + 9

/-- The day of the year, counted from the 1st of March, on which month `mp` starts. -/
def monthStart (mp : Int) : Int := (153 * mp + 2) / 5

/-- Every month but February lasts from its start to the next month's. -/
theorem daysInMonth_eq_monthStart (y : Int) {m : Nat} (h1 : 1 ≤ m) (h12 : m ≤ 12) (h2 : m ≠ 2) :
    (daysInMonth y m : Int) = monthStart (marchMonth m + 1) - monthStart (marchMonth m) := by
  interval_cases m <;> simp_all [daysInMonth, monthStart, marchMonth]

theorem daysInMonth_le (y : Int) (m : Nat) : daysInMonth y m ≤ 31 := by
  unfold daysInMonth
  split
  · split <;> decide
  all_goals decide

theorem daysInMonth_february (y : Int) :
    daysInMonth y 2 = if isLeapYear y then 29 else 28 := rfl

theorem isLeapYear_iff (y : Int) : isLeapYear y = true ↔ y % 4 = 0 ∧ y % 100 ≠ 0 ∨ y % 400 = 0 := by
  simp [isLeapYear]

/-- A date is valid when its month is one of the twelve and its day one of that month's. -/
theorem CivilDate.isValid_iff (c : CivilDate) :
    c.isValid = true ↔
      1 ≤ c.month ∧ c.month ≤ 12 ∧ 1 ≤ c.day ∧ c.day ≤ daysInMonth c.year c.month := by
  simp only [CivilDate.isValid, Bool.and_eq_true, decide_eq_true_eq, and_assoc]

/-- The month a day of the year falls in: the last whose start is not after it. -/
theorem monthStart_le_of_dayOfYear {d : Int} (h0 : 0 ≤ d) (h1 : d ≤ 365) :
    0 ≤ (5 * d + 2) / 153 ∧ (5 * d + 2) / 153 ≤ 11 ∧ monthStart ((5 * d + 2) / 153) ≤ d ∧
      ((5 * d + 2) / 153 ≤ 10 → d < monthStart ((5 * d + 2) / 153 + 1)) := by
  simp only [monthStart]
  omega

/-- A day of month `mp` within the month's length gives back `mp`. -/
theorem marchMonth_of_dayOfYear {mp day : Int} (h0 : 0 ≤ mp) (h11 : mp ≤ 11) (hday : 1 ≤ day)
    (hlen : mp ≤ 10 → monthStart mp + day ≤ monthStart (mp + 1)) (hfeb : mp = 11 → day ≤ 29) :
    (5 * (monthStart mp + day - 1) + 2) / 153 = mp := by
  simp only [monthStart] at hlen ⊢
  omega

/-! ### From a day number to a date -/

/-- What `civilFromDays` makes of a day: the era and the split of the day within it, the year
of the era (one more for January and February), the month counted from March and the day of
the month. -/
theorem civilFromDays_fields (z : Int) :
    ∃ era a b k d, EraSplit a b k d ∧
      z + 719468 = 146097 * era + (36524 * a + 1461 * b + 365 * k + d) ∧
      (civilFromDays z).year =
        400 * era + 100 * a + 4 * b + k + (if (5 * d + 2) / 153 < 10 then 0 else 1) ∧
      ((civilFromDays z).month : Int) =
        (if (5 * d + 2) / 153 < 10 then (5 * d + 2) / 153 + 3 else (5 * d + 2) / 153 - 9) ∧
      ((civilFromDays z).day : Int) = d - monthStart ((5 * d + 2) / 153) + 1 := by
  obtain ⟨a, b, k, d, hs, hn⟩ := eraSplit_exists (n := (z + 719468) % 146097) (by omega) (by omega)
  have hyoe := yearOfEra_of_split hs hn
  refine ⟨(z + 719468) / 146097, a, b, k, d, hs, by omega, ?_⟩
  obtain ⟨ha0, ha, hb0, hb, hk0, hk, hd0, hd⟩ := hs
  have hdoe : z + 719468 - (z + 719468) / 146097 * 146097 = (z + 719468) % 146097 := by omega
  simp only [civilFromDays, hdoe, hyoe, monthStart]
  generalize (z + 719468) % 146097 = doe at hn ⊢
  generalize (z + 719468) / 146097 = era
  have h4 : (100 * a + 4 * b + k) / 4 = 25 * a + b := by omega
  have h100 : (100 * a + 4 * b + k) / 100 = a := by omega
  have hdoy : doe - (365 * (100 * a + 4 * b + k) + (25 * a + b) - a) = d := by omega
  rw [h4, h100, hdoy]
  have hmp := monthStart_le_of_dayOfYear hd0 (by omega)
  simp only [monthStart] at hmp
  generalize (5 * d + 2) / 153 = mp at hmp ⊢
  refine ⟨?_, ?_, by omega⟩
  -- March to December are months of the year of the era, January and February of the next
  · by_cases hm : mp < 10
    · simp only [hm, if_true]
      rw [if_neg (by omega)]
      omega
    · simp only [hm, if_false]
      rw [if_pos (by omega)]
      omega
  · split <;> omega

/-- Every day number names a valid date. -/
theorem civilFromDays_isValid (z : Int) : (civilFromDays z).isValid = true := by
  obtain ⟨era, a, b, k, d, hs, -, hyear, hmonth, hday⟩ := civilFromDays_fields z
  obtain ⟨ha0, ha, hb0, hb, hk0, hk, hd0, hd⟩ := hs
  have hmp := monthStart_le_of_dayOfYear hd0 (by omega)
  generalize civilFromDays z = c at *
  obtain ⟨y, m, day⟩ := c
  generalize (5 * d + 2) / 153 = mp at hmp hyear hmonth hday
  simp only at hyear hmonth hday
  simp only [CivilDate.isValid_iff]
  have hm1 : 1 ≤ m := by split at hmonth <;> omega
  have hm12 : m ≤ 12 := by split at hmonth <;> omega
  refine ⟨hm1, hm12, by omega, ?_⟩
  by_cases hfeb : m = 2
  · -- February: its 29th is day 365 of the year, which only a leap year has
    subst hfeb
    rw [daysInMonth_february]
    have hmp11 : mp = 11 := by split at hmonth <;> omega
    subst hmp11
    simp only [monthStart] at hday
    split
    · omega
    · next hnotleap =>
      rcases hd with hd | ⟨rfl, rfl, hcycle⟩
      · omega
      · exfalso
        apply hnotleap
        rw [isLeapYear_iff]
        rw [if_neg (by omega)] at hyear
        omega
  · have hlen := daysInMonth_eq_monthStart y hm1 hm12 hfeb
    have hmarch : marchMonth m = mp := by
      simp only [marchMonth]
      split <;> split at hmonth <;> omega
    rw [hmarch] at hlen
    have hmp10 : mp ≤ 10 := by split at hmonth <;> omega
    have := hmp.2.2.2 hmp10
    omega

/-- A day number's date has that day number. -/
theorem daysFromCivil_civilFromDays (z : Int) : daysFromCivil (civilFromDays z) = z := by
  obtain ⟨era, a, b, k, d, hs, hz, hyear, hmonth, hday⟩ := civilFromDays_fields z
  obtain ⟨ha0, ha, hb0, hb, hk0, hk, hd0, hd⟩ := hs
  have hmp := monthStart_le_of_dayOfYear hd0 (by omega)
  generalize civilFromDays z = c at *
  obtain ⟨y, m, day⟩ := c
  generalize (5 * d + 2) / 153 = mp at hmp hyear hmonth hday
  simp only at hyear hmonth hday
  simp only [monthStart] at hday hmp
  simp only [daysFromCivil]
  -- the year before the one of January and February is the year of the era
  have hy : (if m ≤ 2 then y - 1 else y) = 400 * era + (100 * a + 4 * b + k) := by
    split <;> split at hyear <;> split at hmonth <;> omega
  have hmp' : (if m > 2 then (m : Int) - 3 else (m : Int) + 9) = mp := by
    split <;> split at hmonth <;> omega
  rw [hy, hmp']
  have hera : (400 * era + (100 * a + 4 * b + k)) / 400 = era := by omega
  rw [hera]
  have h4 : (100 * a + 4 * b + k) / 4 = 25 * a + b := by omega
  have h100 : (100 * a + 4 * b + k) / 100 = a := by omega
  have hyoe : 400 * era + (100 * a + 4 * b + k) - era * 400 = 100 * a + 4 * b + k := by omega
  rw [hyoe, h4, h100]
  omega

/-! ### From a date to its day number -/

/-- What `daysFromCivil` counts for a valid date: its era, and within the era the split of its
day, read off the year of the era, the month counted from March and the day of the month. -/
theorem daysFromCivil_fields {c : CivilDate} (hc : c.isValid = true) :
    ∃ era a b k, EraSplit a b k (monthStart (marchMonth c.month) + c.day - 1) ∧
      (if c.month ≤ 2 then c.year - 1 else c.year) = 400 * era + (100 * a + 4 * b + k) ∧
      daysFromCivil c + 719468 =
        146097 * era + (36524 * a + 1461 * b + 365 * k +
          (monthStart (marchMonth c.month) + c.day - 1)) := by
  obtain ⟨y, m, day⟩ := c
  simp only [CivilDate.isValid_iff] at hc
  obtain ⟨hm1, hm12, hday1, hdays⟩ := hc
  simp only [daysFromCivil]
  generalize hy' : (if m ≤ 2 then y - 1 else y) = y'
  have hmarch : (if m > 2 then (m : Int) - 3 else (m : Int) + 9) = marchMonth m := rfl
  rw [hmarch]
  -- the day of the year is at most 364, or 365 on the 29th of February of a leap year
  have hdoy : 0 ≤ monthStart (marchMonth m) + day - 1 ∧
      (monthStart (marchMonth m) + day - 1 ≤ 364 ∨
        monthStart (marchMonth m) + day - 1 = 365 ∧ isLeapYear y = true ∧ m = 2) := by
    by_cases hfeb : m = 2
    · subst hfeb
      rw [daysInMonth_february] at hdays
      have hstart : monthStart (marchMonth 2) = 337 := rfl
      rw [hstart]
      refine ⟨by omega, ?_⟩
      by_cases h28 : day ≤ 28
      · exact .inl (by omega)
      · have hleap : isLeapYear y = true := by
          by_contra hnot
          rw [if_neg hnot] at hdays
          omega
        rw [if_pos hleap] at hdays
        exact .inr ⟨by omega, hleap, rfl⟩
    · have hlen := daysInMonth_eq_monthStart y hm1 hm12 hfeb
      have hmp : 0 ≤ marchMonth m ∧ marchMonth m ≤ 10 := by
        simp only [marchMonth]
        split <;> omega
      simp only [monthStart] at hlen ⊢
      omega
  refine ⟨y' / 400, (y' % 400) / 100, (y' % 400) % 100 / 4, (y' % 400) % 4, ?_, by omega, ?_⟩
  · refine ⟨by omega, by omega, by omega, by omega, by omega, by omega, hdoy.1, ?_⟩
    rcases hdoy.2 with h364 | ⟨h365, hleap, rfl⟩
    · exact .inl h364
    · -- the leap day ends the last year of a four-year cycle, and a century's only for the era
      right
      rw [isLeapYear_iff] at hleap
      rw [if_pos (Nat.le_refl 2)] at hy'
      refine ⟨h365, by omega, by omega⟩
  · have hyoe : y' - y' / 400 * 400 = y' % 400 := by omega
    have hstart : (153 * marchMonth m + 2) / 5 = monthStart (marchMonth m) := rfl
    rw [hyoe, hstart]
    omega

/-- A valid date's day number names that date. -/
theorem civilFromDays_daysFromCivil {c : CivilDate} (hc : c.isValid = true) :
    civilFromDays (daysFromCivil c) = c := by
  obtain ⟨era, a, b, k, hs, hy', hz⟩ := daysFromCivil_fields hc
  obtain ⟨era₂, a₂, b₂, k₂, d₂, hs₂, hz₂, hyear, hmonth, hday⟩ :=
    civilFromDays_fields (daysFromCivil c)
  -- both name the same era and the same split of the day within it
  have hera : era₂ = era ∧
      36524 * a₂ + 1461 * b₂ + 365 * k₂ + d₂ =
        36524 * a + 1461 * b + 365 * k + (monthStart (marchMonth c.month) + c.day - 1) := by
    have hn₂ : 0 ≤ 36524 * a₂ + 1461 * b₂ + 365 * k₂ + d₂ ∧
        36524 * a₂ + 1461 * b₂ + 365 * k₂ + d₂ ≤ 146096 := by
      obtain ⟨_, _, _, _, _, _, _, _⟩ := hs₂
      omega
    have hn : 0 ≤ 36524 * a + 1461 * b + 365 * k + (monthStart (marchMonth c.month) + c.day - 1) ∧
        36524 * a + 1461 * b + 365 * k + (monthStart (marchMonth c.month) + c.day - 1) ≤ 146096 := by
      obtain ⟨_, _, _, _, _, _, _, _⟩ := hs
      omega
    generalize 36524 * a₂ + 1461 * b₂ + 365 * k₂ + d₂ = n₂ at hz₂ hn₂ ⊢
    generalize 36524 * a + 1461 * b + 365 * k + (monthStart (marchMonth c.month) + c.day - 1) = n
      at hz hn ⊢
    omega
  obtain ⟨rfl, hn⟩ := hera
  obtain ⟨rfl, rfl, rfl, rfl⟩ := eraSplit_unique hs₂ hs hn
  obtain ⟨y, m, day⟩ := c
  simp only [CivilDate.isValid_iff] at hc
  obtain ⟨hm1, hm12, hday1, hdays⟩ := hc
  simp only at hs hy' hyear hmonth hday
  -- the month is found again from the day of the year
  have hmp : (5 * (monthStart (marchMonth m) + day - 1) + 2) / 153 = marchMonth m := by
    apply marchMonth_of_dayOfYear
    · simp only [marchMonth]; split <;> omega
    · simp only [marchMonth]; split <;> omega
    · omega
    · intro h10
      have hfeb : m ≠ 2 := by rintro rfl; simp [marchMonth] at h10
      have := daysInMonth_eq_monthStart y hm1 hm12 hfeb
      omega
    · intro h11
      have hfeb : m = 2 := by simp only [marchMonth] at h11; split at h11 <;> omega
      subst hfeb
      rw [daysInMonth_february] at hdays
      split at hdays <;> omega
  rw [hmp] at hyear hmonth hday
  have hmonth' : (civilFromDays (daysFromCivil { year := y, month := m, day })).month = m := by
    simp only [marchMonth] at hmonth
    split at hmonth <;> split at hmonth <;> omega
  have hday' : (civilFromDays (daysFromCivil { year := y, month := m, day })).day = day := by
    omega
  have hyear' : (civilFromDays (daysFromCivil { year := y, month := m, day })).year = y := by
    simp only [marchMonth] at hyear
    split at hy' <;> split at hyear <;> omega
  generalize civilFromDays (daysFromCivil { year := y, month := m, day }) = c at *
  obtain ⟨_, _, _⟩ := c
  simp_all

/-- Day numbers and valid dates correspond one to one. -/
theorem civilFromDays_eq_iff {z : Int} {c : CivilDate} :
    civilFromDays z = c ↔ c.isValid = true ∧ daysFromCivil c = z := by
  constructor
  · rintro rfl
    exact ⟨civilFromDays_isValid z, daysFromCivil_civilFromDays z⟩
  · rintro ⟨hc, rfl⟩
    exact civilFromDays_daysFromCivil hc

/-! ### The calendar's range -/

/-- January and February, counted from March, are the months from `10` on, which start on
day `306` of the year. -/
theorem dayOfYear_lt_306_iff {m day : Nat} (hm1 : 1 ≤ m) (hm12 : m ≤ 12) (hday1 : 1 ≤ day)
    (hdays : day ≤ daysInMonth y m) :
    monthStart (marchMonth m) + day - 1 < 306 ↔ 2 < m := by
  by_cases hfeb : m = 2
  · subst hfeb
    have hstart : monthStart (marchMonth 2) = 337 := rfl
    omega
  · have hlen := daysInMonth_eq_monthStart y hm1 hm12 hfeb
    unfold marchMonth at hlen ⊢
    by_cases hm : m > 2
    · rw [if_pos hm] at hlen ⊢
      simp only [monthStart] at hlen ⊢
      omega
    · rw [if_neg hm] at hlen ⊢
      simp only [monthStart] at hlen ⊢
      omega

/-- A valid date lies within the years of the calendar exactly when its day lies between the
days of its first and its last second. -/
theorem year_mem_range_iff {c : CivilDate} (hc : c.isValid = true) :
    (-262143 ≤ c.year ∧ c.year ≤ 262142) ↔
      (minSeconds / 86400 ≤ daysFromCivil c ∧ daysFromCivil c ≤ maxSeconds / 86400) := by
  obtain ⟨era, a, b, k, hs, hy', hz⟩ := daysFromCivil_fields hc
  obtain ⟨y, m, day⟩ := c
  simp only [CivilDate.isValid_iff] at hc
  obtain ⟨hm1, hm12, hday1, hdays⟩ := hc
  have hjan := dayOfYear_lt_306_iff hm1 hm12 hday1 hdays
  simp only at hs hy' hz hjan ⊢
  obtain ⟨ha0, ha, hb0, hb, hk0, hk, hd0, hd⟩ := hs
  generalize monthStart (marchMonth m) + ↑day - 1 = doy at hz hjan hd0 hd
  -- the month and the day are left only through where the day of the year falls
  clear hm1 hm12 hday1 hdays
  -- each bound cuts one era of the calendar; the eras on either side lie wholly in or out
  have hlow : -262143 ≤ y ↔ minSeconds / 86400 ≤ daysFromCivil ⟨y, m, day⟩ := by
    have hera : era ≤ -657 ∨ era = -656 ∨ -655 ≤ era := by omega
    simp only [minSeconds]
    split at hy' <;> rcases hera with h | rfl | h <;> omega
  have hhigh : y ≤ 262142 ↔ daysFromCivil ⟨y, m, day⟩ ≤ maxSeconds / 86400 := by
    have hera : era ≤ 654 ∨ era = 655 ∨ 656 ≤ era := by omega
    simp only [maxSeconds]
    split at hy' <;> rcases hera with h | rfl | h <;> omega
  exact and_congr hlow hhigh

end StudyPlanner.Calendar
