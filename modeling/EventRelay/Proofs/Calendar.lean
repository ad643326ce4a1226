import EventRelay.Calendar

/-!
# Days and dates

The date of a day exists, and it leads back to the day.  A day of a cycle of
400 years lies in a century, in four years of it, in a year of these and on a
day of that year; only the last year of four and the last century have one day
more.
-/

namespace EventRelay.Date

/-- Where a day of a cycle lies. -/
structure Place where
  century : Int
  fourYears : Int
  year : Int
  day : Int

/-- What a place keeps to; a day beyond 365 ends a leap year. -/
structure Place.Valid (place : Place) : Prop where
  century : 0 ≤ place.century ∧ place.century ≤ 3
  fourYears : 0 ≤ place.fourYears ∧ place.fourYears ≤ 24
  year : 0 ≤ place.year ∧ place.year ≤ 3
  day : 0 ≤ place.day ∧ place.day ≤ 365
  leap :
      place.day = 365 →
        place.year = 3 ∧ (place.fourYears = 24 → place.century = 3)

/-- The days of the cycle before a place; leap days end their years. -/
def Place.dayOfCycle (place : Place) : Int :=
  36524 * place.century + 1461 * place.fourYears + 365 * place.year + place.day

/-- The years of the cycle before a place. -/
def Place.yearOfCycle (place : Place) : Int :=
  100 * place.century + 4 * place.fourYears + place.year

theorem exists_place
    {dayOfCycle : Int} (low : 0 ≤ dayOfCycle) (high : dayOfCycle < 146097) :
    ∃ place : Place, place.Valid ∧ dayOfCycle = place.dayOfCycle := by
  have century :
      ∃ century rest,
        0 ≤ century ∧ century ≤ 3 ∧ 0 ≤ rest ∧ rest ≤ 36524 ∧
          (rest = 36524 → century = 3) ∧
          dayOfCycle = 36524 * century + rest := by
    by_cases last : dayOfCycle = 146096
    · exact ⟨3, 36524, by omega⟩
    · exact ⟨dayOfCycle / 36524, dayOfCycle % 36524, by omega⟩
  obtain ⟨century, rest, centuryLow, centuryHigh, restLow, restHigh, end4,
      rfl⟩ :=
    century
  have fourYears :
      ∃ fourYears more,
        0 ≤ fourYears ∧ fourYears ≤ 24 ∧ 0 ≤ more ∧ more ≤ 1460 ∧
          (more = 1460 → fourYears = 24 → century = 3) ∧
          rest = 1461 * fourYears + more :=
    ⟨rest / 1461, rest % 1461, by omega⟩
  obtain ⟨fourYears, more, fourLow, fourHigh, moreLow, moreHigh, end24, rfl⟩ :=
    fourYears
  have year : ∃ year day, 0 ≤ year ∧ year ≤ 3 ∧ 0 ≤ day ∧ day ≤ 365 ∧
      (day = 365 → year = 3 ∧ more = 1460) ∧ more = 365 * year + day := by
    by_cases last : more = 1460
    · exact ⟨3, 365, by omega⟩
    · exact ⟨more / 365, more % 365, by omega⟩
  obtain ⟨year, day, yearLow, yearHigh, dayLow, dayHigh, end3, same⟩ := year
  refine ⟨⟨century, fourYears, year, day⟩,
    ⟨⟨centuryLow, centuryHigh⟩, ⟨fourLow, fourHigh⟩, ⟨yearLow, yearHigh⟩,
    ⟨dayLow, dayHigh⟩, ?_⟩, ?_⟩
  · intro long
    obtain ⟨third, whole⟩ := end3 long
    exact ⟨third, end24 whole⟩
  · show _ = 36524 * century + 1461 * fourYears + 365 * year + day
    omega

theorem yearOfCycle_eq {place : Place} (valid : place.Valid) :
    (place.dayOfCycle - place.dayOfCycle / 1460 + place.dayOfCycle / 36524 -
      place.dayOfCycle / 146096) / 365 = place.yearOfCycle := by
  obtain ⟨century, fourYears, year, day⟩ := place
  obtain ⟨centuryBounds, fourBounds, yearBounds, dayBounds, leap⟩ := valid
  dsimp only at centuryBounds fourBounds yearBounds dayBounds leap
  unfold Place.dayOfCycle Place.yearOfCycle
  dsimp only
  generalize spelled : 36524 * century + 1461 * fourYears + 365 * year + day =
    total
  by_cases last : total = 146096
  · omega
  · have centuries : total / 36524 = century := by omega
    have cycles : total / 146096 = 0 := by omega
    by_cases full : 1460 ≤ 24 * century + fourYears + 365 * year + day
    · have leaps : total / 1460 = 25 * century + fourYears + 1 := by omega
      rw [centuries, cycles, leaps]
      omega
    · have leaps : total / 1460 = 25 * century + fourYears := by omega
      rw [centuries, cycles, leaps]
      omega

/-- The date of a place, for which the year begins in January again. -/
def Place.date (cycle : Int) (place : Place) : Date :=
  let monthFromMarch := (5 * place.day + 2) / 153
  let day := place.day - (153 * monthFromMarch + 2) / 5 + 1
  let month :=
    if monthFromMarch < 10 then monthFromMarch + 3 else monthFromMarch - 9
  let year := place.yearOfCycle + cycle * 400 + if month ≤ 2 then 1 else 0
  ⟨year, month.toNat, day.toNat⟩

/-- The days from 1 January 1970 to a place. -/
def Place.days (cycle : Int) (place : Place) : Int :=
  cycle * 146097 + place.dayOfCycle - 719468

theorem day_eq {place : Place} (valid : place.Valid) :
    place.dayOfCycle - (365 * place.yearOfCycle + place.yearOfCycle / 4 -
      place.yearOfCycle / 100) = place.day := by
  obtain ⟨century, fourYears, year, day⟩ := place
  obtain ⟨centuryBounds, fourBounds, yearBounds, _, _⟩ := valid
  dsimp only at centuryBounds fourBounds yearBounds
  unfold Place.dayOfCycle Place.yearOfCycle
  dsimp only
  have fours :
      (100 * century + 4 * fourYears + year) / 4 =
        25 * century + fourYears := by omega
  have hundreds :
      (100 * century + 4 * fourYears + year) / 100 = century := by omega
  rw [fours, hundreds]
  omega

/--
Every day stands at a place of a cycle, and its date is the one at that place.
-/
theorem ofDays_eq (days : Int) :
    ∃ cycle, ∃ place : Place, place.Valid ∧ days = place.days cycle ∧
      ofDays days = place.date cycle := by
  have shifted : Int.fdiv (days + 719468) 146097 = (days + 719468) / 146097 :=
    Int.fdiv_eq_ediv_of_nonneg _ (by decide)
  obtain ⟨place, valid, same⟩ := exists_place
    (show 0 ≤ days + 719468 - (days + 719468) / 146097 * 146097 by omega)
    (show days + 719468 - (days + 719468) / 146097 * 146097 < 146097 by omega)
  refine ⟨(days + 719468) / 146097, place, valid, ?_, ?_⟩
  · unfold Place.days
    omega
  · unfold ofDays
    dsimp only
    rw [shifted, same, yearOfCycle_eq valid, day_eq valid]
    rfl

/--
The month that a day of a year beginning in March lies in, and the day of that
month.
-/
theorem month_bounds {day : Int} (low : 0 ≤ day) (high : day ≤ 365) :
    0 ≤ (5 * day + 2) / 153 ∧ (5 * day + 2) / 153 ≤ 11 ∧
      0 ≤ day - (153 * ((5 * day + 2) / 153) + 2) / 5 := by
  omega

theorem date_early
    {cycle : Int} {place : Place} (low : 0 ≤ place.day)
    (early : (5 * place.day + 2) / 153 < 10) :
    place.date cycle =
      ⟨place.yearOfCycle + cycle * 400, ((5 * place.day + 2) / 153 + 3).toNat,
        (place.day - (153 * ((5 * place.day + 2) / 153) + 2) / 5 +
          1).toNat⟩ := by
  have late : ¬ (5 * place.day + 2) / 153 + 3 ≤ 2 := by omega
  simp only [Place.date, if_pos early, if_neg late, Int.add_zero]

theorem date_late
    {cycle : Int} {place : Place} (high : place.day ≤ 365)
    (late : ¬ (5 * place.day + 2) / 153 < 10) :
    place.date cycle =
      ⟨place.yearOfCycle + cycle * 400 + 1,
        ((5 * place.day + 2) / 153 - 9).toNat,
        (place.day - (153 * ((5 * place.day + 2) / 153) + 2) / 5 +
          1).toNat⟩ := by
  have early : (5 * place.day + 2) / 153 - 9 ≤ 2 := by omega
  simp only [Place.date, if_neg late, if_pos early]

theorem toDays_date (cycle : Int) {place : Place} (valid : place.Valid) :
    (place.date cycle).toDays = place.days cycle := by
  obtain ⟨monthLow, monthHigh, dayLow⟩ := month_bounds valid.day.1 valid.day.2
  have placed := day_eq valid
  have range : 0 ≤ place.yearOfCycle ∧ place.yearOfCycle < 400 := by
    obtain ⟨centuryBounds, fourBounds, yearBounds, _, _⟩ := valid
    unfold Place.yearOfCycle
    omega
  have cycles : Int.fdiv (place.yearOfCycle + cycle * 400) 400 = cycle := by
    rw [Int.fdiv_eq_ediv_of_nonneg _ (by decide)]
    omega
  have day :
      ((place.day - (153 * ((5 * place.day + 2) / 153) + 2) / 5 +
          1).toNat : Int) =
        place.day - (153 * ((5 * place.day + 2) / 153) + 2) / 5 + 1 :=
    Int.toNat_of_nonneg (by omega)
  by_cases early : (5 * place.day + 2) / 153 < 10
  · have month : ((((5 * place.day + 2) / 153 + 3).toNat : Int) + 9) % 12 =
        (5 * place.day + 2) / 153 := by omega
    rw [date_early valid.day.1 early]
    unfold toDays Place.days
    dsimp only
    rw [if_neg (by omega), cycles, Int.add_sub_cancel, month, day]
    omega
  · have month : ((((5 * place.day + 2) / 153 - 9).toNat : Int) + 9) % 12 =
        (5 * place.day + 2) / 153 := by omega
    rw [date_late valid.day.2 early]
    unfold toDays Place.days
    dsimp only
    rw [if_pos (by omega), Int.add_sub_cancel, cycles, Int.add_sub_cancel,
      month, day]
    omega

theorem toDays_ofDays (days : Int) : (ofDays days).toDays = days := by
  obtain ⟨cycle, place, valid, same, date⟩ := ofDays_eq days
  rw [date, toDays_date cycle valid, same]

/-- A year that ends with a day beyond 365 has a leap day. -/
theorem isLeapYear_of_place
    (cycle : Int) {place : Place} (valid : place.Valid)
    (long : place.day = 365) :
    isLeapYear (place.yearOfCycle + cycle * 400 + 1) = true := by
  obtain ⟨third, whole⟩ := valid.leap long
  have fours := valid.fourYears
  have centuries := valid.century
  have four : (place.yearOfCycle + cycle * 400 + 1) % 4 = 0 := by
    unfold Place.yearOfCycle
    omega
  have hundred : (place.yearOfCycle + cycle * 400 + 1) % 100 = 0 →
      (place.yearOfCycle + cycle * 400 + 1) % 400 = 0 := by
    unfold Place.yearOfCycle
    omega
  unfold isLeapYear
  simp only [four, beq_self_eq_true, Bool.true_and, Bool.or_eq_true, bne_iff_ne,
    beq_iff_eq]
  by_cases whole : (place.yearOfCycle + cycle * 400 + 1) % 100 = 0
  · exact .inr (hundred whole)
  · exact .inl whole

/--
But for February, the months have the days that fall into them when a year
begins in March.
-/
theorem daysInMonth_eq
    (year : Int) {month : Nat} (low : 1 ≤ month) (high : month ≤ 12) :
    daysInMonth year month =
      if month = 2 then if isLeapYear year then 29 else 28 else
        ((153 * ((month + 9) % 12 + 1) + 2) / 5 -
        (153 * ((month + 9) % 12) + 2) / 5) := by
  have months : month = 1 ∨ month = 2 ∨ month = 3 ∨ month = 4 ∨ month = 5 ∨
      month = 6 ∨
      month = 7 ∨ month = 8 ∨ month = 9 ∨ month = 10 ∨ month = 11 ∨
        month = 12 := by omega
  rcases months
      with rfl | rfl | rfl | rfl | rfl | rfl | rfl | rfl | rfl | rfl | rfl | rfl
  all_goals rfl

theorem isValid_ofDays (days : Int) : (ofDays days).isValid = true := by
  obtain ⟨cycle, place, valid, _, date⟩ := ofDays_eq days
  obtain ⟨monthLow, monthHigh, dayLow⟩ := month_bounds valid.day.1 valid.day.2
  rw [date]
  by_cases early : (5 * place.day + 2) / 153 < 10
  · rw [date_early valid.day.1 early]
    obtain ⟨month, same⟩ := Int.eq_ofNat_of_zero_le monthLow
    have number : ((month : Int) + 3).toNat = month + 3 := by omega
    have fromMarch : (month + 3 + 9) % 12 = month := by omega
    unfold isValid
    dsimp only
    have months : month = 0 ∨ month = 1 ∨ month = 2 ∨ month = 3 ∨ month = 4 ∨
        month = 5 ∨
        month = 6 ∨ month = 7 ∨ month = 8 ∨ month = 9 := by omega
    rw [same, number, daysInMonth_eq _ (by omega) (by omega), if_neg (by omega),
      fromMarch]
    simp only [Bool.and_eq_true, decide_eq_true_eq]
    rcases months with rfl | rfl | rfl | rfl | rfl | rfl | rfl | rfl | rfl | rfl
    all_goals omega
  · have leap := isLeapYear_of_place cycle valid
    rw [date_late valid.day.2 early]
    unfold isValid
    dsimp only
    rw [daysInMonth_eq _ (by omega) (by omega)]
    simp only [Bool.and_eq_true, decide_eq_true_eq]
    have bound := valid.day.2
    split
    · split
      · omega
      · next common =>
          have short : place.day ≠ 365 := fun long => common (leap long)
          omega
    · omega

/-- The years of the days that timestamps reach. -/
theorem year_bounds
    {days : Int} (low : -96465292 ≤ days) (high : days ≤ 95026236) :
    -262143 ≤ (ofDays days).year ∧ (ofDays days).year ≤ 262142 := by
  obtain ⟨cycle, place, valid, same, date⟩ := ofDays_eq days
  rw [date]
  obtain ⟨century, fourYears, year, day⟩ := place
  obtain ⟨centuryBounds, fourBounds, yearBounds, dayBounds, leap⟩ := valid
  dsimp only at centuryBounds fourBounds yearBounds dayBounds leap
  unfold Place.days Place.dayOfCycle at same
  dsimp only at same
  by_cases early : (5 * day + 2) / 153 < 10
  · rw [@date_early cycle ⟨century, fourYears, year, day⟩ dayBounds.1 early]
    unfold Place.yearOfCycle
    dsimp only
    omega
  · rw [@date_late cycle ⟨century, fourYears, year, day⟩ dayBounds.2 early]
    unfold Place.yearOfCycle
    dsimp only
    -- The last day is the last of a year that ends in the first century of
    -- cycle 655.
    have winter : 306 ≤ day := by omega
    rcases (by omega : cycle ≤ 654 ∨ cycle = 655) with before | rfl
    · omega
    · rcases (by omega : century = 0 ∨ century = 1) with rfl | rfl
      · omega
      · omega

end EventRelay.Date
