import Mathlib
import Reminders.Time.Date

/-!
# Day numbers and calendar dates

Every day number belongs to exactly one date of the calendar, which
`CalendarDate.ofDayNumber` finds (`dayNumber_ofDayNumber`, `isValid_ofDayNumber`).  A
cycle of 400 years falls into centuries of 36524 days, these into spans of four years
with 1461 days, and these into years of 365 days.  The last century of a cycle, and the
last year of most spans, have one day more.

*Months* are counted through the years by `CalendarDate.monthIndex`.  Each month begins
behind the last day of the one before (`monthStart_succ`), so a day number tells in which
month it lies, and days in a later month have greater numbers (`monthStart_lt`).
-/

namespace Reminders

/-! ## The years of a cycle -/

/-- The days of a cycle before one of its years, where years start in March. -/
def yearStart (year : Nat) : Nat := 365 * year + year / 4 - year / 100 + year / 400

/-- The year to which a day of a cycle belongs. -/
def yearOfCycle (day : Nat) : Nat := (day - day / 1460 + day / 36524 - day / 146096) / 365

/-- A day of a cycle by century, span of four years, year and day. -/
theorem exists_parts {day : Nat} (h : day < 146097) :
    ∃ c q r s, c ≤ 3 ∧ q ≤ 24 ∧ r ≤ 3 ∧ s ≤ 365 ∧ (s = 365 → r = 3 ∧ (q < 24 ∨ c = 3)) ∧
      day = 36524 * c + 1461 * q + 365 * r + s := by
  obtain ⟨c, d, hc, hd, hlast, rfl⟩ : ∃ c d, c ≤ 3 ∧ d ≤ 36524 ∧ (d = 36524 → c = 3) ∧
      day = 36524 * c + d :=
    ⟨min 3 (day / 36524), day - 36524 * min 3 (day / 36524),
      by omega, by omega, by omega, by omega⟩
  obtain ⟨q, p, hq, hp, hlast', rfl⟩ : ∃ q p, q ≤ 24 ∧ p ≤ 1460 ∧ (p = 1460 → q < 24 ∨ c = 3) ∧
      d = 1461 * q + p :=
    ⟨d / 1461, d % 1461, by omega, by omega, by omega, by omega⟩
  obtain ⟨r, s, hr, hs, hleap, rfl⟩ : ∃ r s, r ≤ 3 ∧ s ≤ 365 ∧ (s = 365 → r = 3 ∧ p = 1460) ∧
      p = 365 * r + s :=
    ⟨min 3 (p / 365), p - 365 * min 3 (p / 365), by omega, by omega, by omega, by omega⟩
  exact ⟨c, q, r, s, hc, hq, hr, hs, fun h => ⟨(hleap h).1, hlast' (hleap h).2⟩, by omega⟩

section

variable {c q r s : Nat}

/-- The days before a year of the cycle, by its centuries, groups of four years, and years. -/
theorem yearStart_parts (hc : c ≤ 3) (hq : q ≤ 24) (hr : r ≤ 3) :
    yearStart (100 * c + 4 * q + r) = 36524 * c + 1461 * q + 365 * r := by
  have hfour : (100 * c + 4 * q + r) / 4 = 25 * c + q := by omega
  have hcentury : (100 * c + 4 * q + r) / 100 = c := by omega
  have hcycle : (100 * c + 4 * q + r) / 400 = 0 := by omega
  rw [yearStart, hfour, hcentury, hcycle]
  omega

/-- The last day of a cycle counts as one of a fifth century, which is taken back. -/
theorem century_parts (hc : c ≤ 3) (hq : q ≤ 24) (hr : r ≤ 3) (hs : s ≤ 365)
    (hleap : s = 365 → r = 3 ∧ (q < 24 ∨ c = 3)) :
    (36524 * c + 1461 * q + 365 * r + s) / 36524 =
      c + (36524 * c + 1461 * q + 365 * r + s) / 146096 := by
  by_cases hlast : s = 365 ∧ q = 24
  · obtain ⟨rfl, rfl⟩ := hlast
    obtain ⟨rfl, hthree⟩ := hleap rfl
    obtain rfl : c = 3 := by omega
    rfl
  · have hcentury : (36524 * c + 1461 * q + 365 * r + s) / 36524 = c := by omega
    have hnone : (36524 * c + 1461 * q + 365 * r + s) / 146096 = 0 := by omega
    omega

/-- The days that leap years put in front, up to the one of the year itself. -/
theorem exists_leap_parts (hc : c ≤ 3) (hq : q ≤ 24) (hr : r ≤ 3) (hs : s ≤ 365)
    (hleap : s = 365 → r = 3 ∧ (q < 24 ∨ c = 3)) :
    ∃ b, b ≤ s ∧ s ≤ 364 + b ∧
      (36524 * c + 1461 * q + 365 * r + s) / 1460 = 25 * c + q + b := by
  by_cases hmany : 1460 ≤ 24 * c + q + 365 * r + s
  · refine ⟨1, by omega, by omega, ?_⟩
    omega
  · refine ⟨0, by omega, by omega, ?_⟩
    omega

/-- A day of the cycle is in the year that its parts say. -/
theorem yearOfCycle_parts (hc : c ≤ 3) (hq : q ≤ 24) (hr : r ≤ 3) (hs : s ≤ 365)
    (hleap : s = 365 → r = 3 ∧ (q < 24 ∨ c = 3)) :
    yearOfCycle (36524 * c + 1461 * q + 365 * r + s) = 100 * c + 4 * q + r := by
  obtain ⟨b, hbs, hsb, hspan⟩ := exists_leap_parts hc hq hr hs hleap
  have hyears : 36524 * c + 1461 * q + 365 * r + s - (25 * c + q + b) + c =
      (s - b) + 365 * (100 * c + 4 * q + r) := by omega
  rw [yearOfCycle, hspan, century_parts hc hq hr hs hleap, ← Nat.add_assoc,
    Nat.add_sub_cancel, hyears, Nat.add_mul_div_left _ _ (by decide), Nat.div_eq_of_lt (by omega),
    Nat.zero_add]

theorem lt_yearStart_parts (hc : c ≤ 3) (hq : q ≤ 24) (hr : r ≤ 3) (hs : s ≤ 365)
    (hleap : s = 365 → r = 3 ∧ (q < 24 ∨ c = 3)) :
    36524 * c + 1461 * q + 365 * r + s < yearStart (100 * c + 4 * q + r + 1) := by
  by_cases hlastYear : r = 3
  case neg =>
    have hnext := yearStart_parts hc hq (show r + 1 ≤ 3 by omega)
    rw [← Nat.add_assoc] at hnext
    rw [hnext]
    omega
  case pos =>
    subst hlastYear
    by_cases hlastSpan : q = 24
    case neg =>
      have hnext := yearStart_parts hc (show q + 1 ≤ 24 by omega) (Nat.zero_le 3)
      have hyear : 100 * c + 4 * q + 3 + 1 = 100 * c + 4 * (q + 1) + 0 := by omega
      rw [hyear, hnext]
      omega
    case pos =>
      subst hlastSpan
      by_cases hlastCentury : c = 3
      case neg =>
        have hnext := yearStart_parts (show c + 1 ≤ 3 by omega) (Nat.zero_le 24) (Nat.zero_le 3)
        have hyear : 100 * c + 4 * 24 + 3 + 1 = 100 * (c + 1) + 4 * 0 + 0 := by omega
        rw [hyear, hnext]
        omega
      case pos =>
        subst hlastCentury
        have hcycle : yearStart (100 * 3 + 4 * 24 + 3 + 1) = 146097 := by decide
        omega

end

/-- A day of a cycle lies within the year to which it belongs. -/
theorem yearStart_yearOfCycle {day : Nat} (h : day < 146097) :
    yearStart (yearOfCycle day) ≤ day ∧ day < yearStart (yearOfCycle day + 1) ∧
      yearOfCycle day < 400 := by
  obtain ⟨c, q, r, s, hc, hq, hr, hs, hleap, rfl⟩ := exists_parts h
  rw [yearOfCycle_parts hc hq hr hs hleap]
  refine ⟨?_, lt_yearStart_parts hc hq hr hs hleap, by omega⟩
  rw [yearStart_parts hc hq hr]
  omega

/-! ## The date of a day number -/

namespace CalendarDate

/-- The days of all years before one that starts in March. -/
def daysBefore (year : Int) : Int := 365 * year + year / 4 - year / 100 + year / 400

/-- Every cycle of four hundred years has as many days. -/
theorem daysBefore_cycle (year : Nat) (cycle : Int) :
    daysBefore (Int.ofNat year + cycle * 400) = yearStart year + 146097 * cycle := by
  simp only [daysBefore, yearStart, Int.ofNat_eq_natCast]
  omega

/-- A year that starts in March is longer by a day if the next one is a leap year. -/
theorem daysBefore_succ (year : Int) :
    daysBefore (year + 1) = daysBefore year + 365 + if isLeapYear (year + 1) then 1 else 0 := by
  simp only [daysBefore, isLeapYear, Bool.and_eq_true, Bool.or_eq_true, decide_eq_true_eq]
  split <;> omega

/-- The date with a day of a year that starts in March. -/
def ofMarch (year : Int) (day : Nat) : CalendarDate :=
  let marchMonth := (5 * day + 2) / 153
  let month := if marchMonth < 10 then marchMonth + 3 else marchMonth - 9
  { year := if month ≤ 2 then year + 1 else year
    month := month
    day := day - (153 * marchMonth + 2) / 5 + 1 }

/-- The number of a day counted from March. -/
theorem dayNumber_ofMarch (year : Int) {day : Nat} (h : day ≤ 365) :
    (ofMarch year day).dayNumber = daysBefore year + day - 719468 := by
  have hmonth : (5 * day + 2) / 153 ≤ 11 := by omega
  have hday : (153 * ((5 * day + 2) / 153) + 2) / 5 ≤ day := by omega
  simp only [dayNumber, marchYear, marchMonth, ofMarch, daysBefore, Int.ofNat_eq_natCast]
  by_cases hlate : (5 * day + 2) / 153 < 10
  case pos =>
    have hshift : ((5 * day + 2) / 153 + 3 + 9) % 12 = (5 * day + 2) / 153 := by omega
    simp only [if_pos hlate, hshift, if_neg (show ¬ (5 * day + 2) / 153 + 3 ≤ 2 by omega)]
    omega
  case neg =>
    have hshift : ((5 * day + 2) / 153 - 9 + 9) % 12 = (5 * day + 2) / 153 := by omega
    simp only [if_neg hlate, hshift, if_pos (show (5 * day + 2) / 153 - 9 ≤ 2 by omega)]
    omega

theorem isValid_ofMarch {year : Int} {day : Nat}
    (h : day < 365 + if isLeapYear (year + 1) then 1 else 0) : (ofMarch year day).isValid := by
  obtain ⟨m, hm⟩ : ∃ m, m = (5 * day + 2) / 153 := ⟨_, rfl⟩
  have hday : day ≤ 365 := by
    split at h <;> omega
  simp only [isValid, ofMarch, ← hm]
  by_cases hlast : m = 11
  case pos =>
    -- February ends the year, and only there the leap day counts.
    subst hlast
    cases hleap : isLeapYear (year + 1) with
    | false =>
      rw [hleap, if_neg Bool.false_ne_true] at h
      simp [daysInMonth, hleap]
      omega
    | true =>
      simp [daysInMonth, hleap]
      omega
  case neg =>
    have hle : m ≤ 10 := by omega
    interval_cases m
    all_goals simp [daysInMonth]
    all_goals omega

theorem ofDayNumber_eq (n : Int) :
    ofDayNumber n =
      ofMarch (Int.ofNat (yearOfCycle ((n + 719468) % 146097).toNat) +
          (n + 719468) / 146097 * 400)
        (((n + 719468) % 146097).toNat - (365 * yearOfCycle ((n + 719468) % 146097).toNat +
          yearOfCycle ((n + 719468) % 146097).toNat / 4 -
            yearOfCycle ((n + 719468) % 146097).toNat / 100)) := rfl

/-- The year that starts in March to which a day number belongs, and the day of it. -/
theorem exists_ofMarch (n : Int) :
    ∃ year day, ofDayNumber n = ofMarch year day ∧ daysBefore year + day - 719468 = n ∧
      day < 365 + if isLeapYear (year + 1) then 1 else 0 := by
  obtain ⟨d, hd⟩ : ∃ d, d = ((n + 719468) % 146097).toNat := ⟨_, rfl⟩
  obtain ⟨hfrom, hto, hyear⟩ := yearStart_yearOfCycle (show d < 146097 by omega)
  have heq := ofDayNumber_eq n
  rw [← hd] at heq
  have hstart : 365 * yearOfCycle d + yearOfCycle d / 4 - yearOfCycle d / 100 =
      yearStart (yearOfCycle d) := by
    rw [yearStart]
    omega
  rw [hstart] at heq
  have hcycle := daysBefore_cycle (yearOfCycle d) ((n + 719468) / 146097)
  refine ⟨_, _, heq, ?_, ?_⟩
  · rw [hcycle]
    omega
  · have hnext := daysBefore_cycle (yearOfCycle d + 1) ((n + 719468) / 146097)
    have hsucc := daysBefore_succ (Int.ofNat (yearOfCycle d) + (n + 719468) / 146097 * 400)
    have hshift : Int.ofNat (yearOfCycle d + 1) + (n + 719468) / 146097 * 400 =
        Int.ofNat (yearOfCycle d) + (n + 719468) / 146097 * 400 + 1 := by
      simp only [Int.ofNat_eq_natCast]
      omega
    rw [hshift, hsucc, hcycle] at hnext
    split at hnext
    case isTrue hleap =>
      rw [if_pos hleap]
      omega
    case isFalse hleap =>
      rw [if_neg hleap]
      omega

/-- The date of a day number has that day number. -/
theorem dayNumber_ofDayNumber (n : Int) : (ofDayNumber n).dayNumber = n := by
  obtain ⟨year, day, heq, hn, hday⟩ := exists_ofMarch n
  have hle : day ≤ 365 := by
    split at hday <;> omega
  rw [heq, dayNumber_ofMarch year hle, hn]

/-- Every number is that of a day of the calendar. -/
theorem isValid_ofDayNumber (n : Int) : (ofDayNumber n).isValid := by
  obtain ⟨year, day, heq, -, hday⟩ := exists_ofMarch n
  rw [heq]
  exact isValid_ofMarch hday

/-! ## Months -/

theorem daysInMonth_le (year : Int) (month : Nat) : daysInMonth year month ≤ 31 := by
  rw [daysInMonth.eq_def]
  split
  · split <;> decide
  all_goals decide

/-- The number of a month, counted through the years. -/
def monthIndex (c : CalendarDate) : Int := 12 * c.year + c.month - 1

/-- The number of the first day of a month. -/
def monthStart (index : Int) : Int := dayNumber ⟨index / 12, (index % 12).toNat + 1, 1⟩

theorem dayNumber_eq (c : CalendarDate) :
    c.dayNumber =
      daysBefore c.marchYear + Int.ofNat ((153 * c.marchMonth + 2) / 5 + c.day) - 719469 := rfl

/-- A month begins behind the last day of the one before. -/
theorem monthStart_succ (index : Int) :
    monthStart (index + 1) =
      monthStart index + daysInMonth (index / 12) ((index % 12).toNat + 1) := by
  obtain ⟨year, month, hmonth, rfl⟩ : ∃ (year : Int) (month : Nat), month < 12 ∧
      index = 12 * year + month := ⟨index / 12, (index % 12).toNat, by omega, by omega⟩
  have hyear : (12 * year + (month : Int)) / 12 = year := by omega
  have hrest : ((12 * year + (month : Int)) % 12).toNat = month := by omega
  rw [monthStart, monthStart, hyear, hrest]
  by_cases hlast : month = 11
  case pos =>
    subst hlast
    have hnext : (12 * year + ((11 : Nat) : Int) + 1) / 12 = year + 1 := by omega
    have hzero : ((12 * year + ((11 : Nat) : Int) + 1) % 12).toNat = 0 := by omega
    rw [hnext, hzero]
    simp [dayNumber_eq, marchYear, marchMonth, daysInMonth]
    omega
  case neg =>
    have hnext : (12 * year + (month : Int) + 1) / 12 = year := by omega
    have hsucc : ((12 * year + (month : Int) + 1) % 12).toNat = month + 1 := by omega
    rw [hnext, hsucc]
    by_cases hfebruary : month = 1
    case pos =>
      -- The leap day is the last one before the year that starts in March.
      subst hfebruary
      have hleap := daysBefore_succ (year - 1)
      rw [sub_add_cancel] at hleap
      simp [dayNumber_eq, marchYear, marchMonth, daysInMonth]
      split at hleap
      case isTrue htrue =>
        rw [if_pos htrue]
        omega
      case isFalse hfalse =>
        rw [if_neg hfalse]
        omega
    case neg =>
      have hle : month ≤ 10 := by omega
      interval_cases month
      all_goals simp [dayNumber_eq, marchYear, marchMonth, daysInMonth] at hfebruary ⊢
      all_goals omega

theorem monthStart_mono {index index' : Int} (h : index ≤ index') :
    monthStart index ≤ monthStart index' := by
  refine monotone_int_of_le_succ (fun n => ?_) h
  rw [monthStart_succ]
  omega

/-- A day is counted from the start of its month, and comes before the next one. -/
theorem dayNumber_eq_monthStart {c : CalendarDate} (h : c.isValid) :
    c.dayNumber = monthStart c.monthIndex + c.day - 1 ∧
      c.dayNumber < monthStart (c.monthIndex + 1) := by
  simp only [isValid, Bool.and_eq_true, decide_eq_true_eq] at h
  obtain ⟨⟨⟨hfirst, hlast⟩, hday⟩, hdays⟩ := h
  have hyear : c.monthIndex / 12 = c.year := by
    simp only [monthIndex]
    omega
  have hmonth : (c.monthIndex % 12).toNat + 1 = c.month := by
    simp only [monthIndex]
    omega
  have heq : c.dayNumber = monthStart c.monthIndex + c.day - 1 := by
    rw [monthStart, hyear, hmonth]
    simp only [dayNumber_eq, marchYear, marchMonth, Int.ofNat_eq_natCast]
    omega
  refine ⟨heq, ?_⟩
  rw [monthStart_succ, hyear, hmonth]
  omega

/-- Days of a later month have greater numbers. -/
theorem dayNumber_lt_of_monthIndex_lt {c c' : CalendarDate} (h : c.isValid) (h' : c'.isValid)
    (hlt : c.monthIndex < c'.monthIndex) : c.dayNumber < c'.dayNumber := by
  have hnext := (dayNumber_eq_monthStart h).2
  have hstart := (dayNumber_eq_monthStart h').1
  have hmono := monthStart_mono (show c.monthIndex + 1 ≤ c'.monthIndex by omega)
  simp only [isValid, Bool.and_eq_true, decide_eq_true_eq] at h'
  omega

/-- A day number tells the date. -/
theorem eq_of_dayNumber_eq {c c' : CalendarDate} (h : c.isValid) (h' : c'.isValid)
    (heq : c.dayNumber = c'.dayNumber) : c = c' := by
  have hindex : c.monthIndex = c'.monthIndex := by
    by_contra hne
    rcases Int.lt_or_gt_of_ne hne with hlt | hlt
    · exact absurd heq (ne_of_lt (dayNumber_lt_of_monthIndex_lt h h' hlt))
    · exact absurd heq.symm (ne_of_lt (dayNumber_lt_of_monthIndex_lt h' h hlt))
  have hday := (dayNumber_eq_monthStart h).1
  have hday' := (dayNumber_eq_monthStart h').1
  rw [hindex] at hday
  simp only [isValid, Bool.and_eq_true, decide_eq_true_eq] at h h'
  simp only [monthIndex] at hindex
  obtain ⟨year, month, day⟩ := c
  obtain ⟨year', month', day'⟩ := c'
  simp only [mk.injEq] at *
  omega

end CalendarDate

/-! ## Dates -/

namespace Date

theorem number_inj {d d' : Date} : d.number = d'.number ↔ d = d' := by
  obtain ⟨number, _, _⟩ := d
  obtain ⟨number', _, _⟩ := d'
  rw [mk.injEq]

theorem dayNumber_calendar (d : Date) : d.calendar.dayNumber = d.number :=
  CalendarDate.dayNumber_ofDayNumber d.number

theorem isValid_calendar (d : Date) : d.calendar.isValid :=
  CalendarDate.isValid_ofDayNumber d.number

/-- A date is the one of its year, month and day of the month. -/
theorem ofCalendar?_calendar (d : Date) : ofCalendar? d.calendar = some d := by
  rw [ofCalendar?, if_pos d.isValid_calendar, dayNumber_calendar, ofNumber?_number]

theorem calendar_of_ofCalendar? {c : CalendarDate} {d : Date} (h : ofCalendar? c = some d) :
    d.calendar = c := by
  rw [ofCalendar?] at h
  split at h
  case isTrue hvalid =>
    refine CalendarDate.eq_of_dayNumber_eq d.isValid_calendar hvalid ?_
    rw [dayNumber_calendar, ofNumber?_eq_some h]
  case isFalse => cases h

/-- Dates in later months are later. -/
theorem number_lt_of_monthIndex_lt {d d' : Date}
    (h : d.calendar.monthIndex < d'.calendar.monthIndex) : d.number < d'.number := by
  rw [← d.dayNumber_calendar, ← d'.dayNumber_calendar]
  exact CalendarDate.dayNumber_lt_of_monthIndex_lt d.isValid_calendar d'.isValid_calendar h

theorem monthIndex_le {d d' : Date} (h : d.number ≤ d'.number) :
    d.calendar.monthIndex ≤ d'.calendar.monthIndex :=
  not_lt.1 fun hlt => absurd (number_lt_of_monthIndex_lt hlt) (not_lt.2 h)

end Date

end Reminders
