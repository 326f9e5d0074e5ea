import Mathlib
import Reminders.Quiet
import Reminders.Proofs.Occurrence

/-!
# When it is quiet

Quiet hours that occur once are to last from their beginning to the first moment behind it at
the time of day of their end.  Those that occur daily are to be the union of such windows, one
for each day.  Both hold (`QuietHours.isActive_iff_window`), but for one case.

The end is looked for on the day of the beginning, and a day later if it is over by then.  A day
later a leap second is lost.  So a window that ends in a leap second of the next day ends a
second early, and `QuietHours.EndsEarly` is the second that it lacks.  Daily quiet hours only
compare times of day and do not lack it.
-/

namespace Reminders

/-! ## Times of day -/

namespace TimeOfDay

theorem withoutLeap_le (t : TimeOfDay) : t.withoutLeap ≤ t := by
  simp only [le_def, instant, withoutLeap]
  omega

theorem instant_lt (t : TimeOfDay) : t.instant < 172800000000000 := by
  have hsecond := t.second_lt
  have hnano := t.nano_lt
  rw [instant]
  omega

end TimeOfDay

/-! ## Date times -/

namespace DateTime

variable {t u : DateTime}

/-- Date times are compared by their dates, and on one day by their times of day. -/
theorem lt_iff_lex :
    t < u ↔ t.date.number < u.date.number ∨
      t.date.number = u.date.number ∧ t.time < u.time := by
  have ht := t.time.instant_lt
  have hu := u.time.instant_lt
  simp only [lt_def, TimeOfDay.lt_def, instant, Int.ofNat_eq_natCast]
  omega

/-- Moments are ordered by day, and then by time of day. -/
theorem le_iff_lex :
    t ≤ u ↔ t.date.number < u.date.number ∨
      t.date.number = u.date.number ∧ t.time ≤ u.time := by
  have ht := t.time.instant_lt
  have hu := u.time.instant_lt
  simp only [le_def, TimeOfDay.le_def, instant, Int.ofNat_eq_natCast]
  omega

/-- The first moment behind another one at a time of day is on the same day or on the next. -/
theorem isLeast_at_time {start e : DateTime} {time : TimeOfDay} (htime : e.time = time)
    (hdate : e.date.number = start.date.number + Recurrence.soonest time start) :
    IsLeast {t | start < t ∧ t.time = time} e := by
  refine ⟨⟨(Recurrence.lt_iff_soonest_le htime hdate).2 (le_refl _), htime⟩, fun t ht => ?_⟩
  obtain ⟨hlt, hsame⟩ := ht
  obtain ⟨days, hdays⟩ := Int.le.dest (date_le_of_lt hlt)
  have hsoon := (Recurrence.lt_iff_soonest_le hsame hdays.symm).1 hlt
  rw [le_iff_of_time_eq (htime.trans hsame.symm)]
  omega

end DateTime

namespace QuietHours

/-! ## The end of a window -/

/-- Whether the end is on the day behind the one of the beginning. -/
def Wraps (q : QuietHours) : Prop := q.stop.time ≤ q.start.time

instance (q : QuietHours) : Decidable q.Wraps :=
  inferInstanceAs (Decidable (q.stop.time ≤ q.start.time))

/-- Whether a time of day is in the second by which the quiet hours end too early. -/
def EndsEarly (q : QuietHours) (time : TimeOfDay) : Prop :=
  q.Wraps ∧ q.stop.time.withoutLeap ≤ time ∧ time < q.stop.time

variable {q : QuietHours} {now : DateTime}

/-- Only quiet hours that end in a leap second may end early. -/
theorem not_endsEarly (h : q.stop.time.nano < 1000000000) (time : TimeOfDay) :
    ¬ q.EndsEarly time := by
  rw [EndsEarly, TimeOfDay.withoutLeap_eq_self h, TimeOfDay.le_def, TimeOfDay.lt_def]
  omega

/-- The hours wrap if they would end on the day of their start before it. -/
theorem wraps_iff : q.Wraps ↔ ⟨q.start.date, q.stop.time⟩ ≤ q.start := by
  rw [Wraps, DateTime.le_iff_lex]
  simp

theorem onceStop_of_not_wraps (h : ¬ q.Wraps) : q.onceStop = .ok ⟨q.start.date, q.stop.time⟩ := by
  rw [wraps_iff] at h
  exact if_neg h

/-- Hours that wrap end on the day behind, without the leap second. -/
theorem onceStop_of_wraps (h : q.Wraps) {stop : DateTime} :
    q.onceStop = .ok stop ↔
      stop.time = q.stop.time.withoutLeap ∧ stop.date.number = q.start.date.number + 1 := by
  rw [onceStop, if_pos (wraps_iff.1 h)]
  exact DateTime.daysLater_eq_ok_iff_withoutLeap Nat.one_pos

/-- The stop is ahead of the start by a day if and only if the hours wrap. -/
theorem soonest_stop (q : QuietHours) :
    Recurrence.soonest q.stop.time q.start = if q.Wraps then 1 else 0 := by
  simp only [Recurrence.soonest, wraps_iff]

/-- Hours for once are active from their start until their stop. -/
theorem isActive_of_once (hkind : q.kind = .once) {stop : DateTime} (hstop : q.onceStop = .ok stop)
    (now : DateTime) : q.isActive now = .ok (q.start ≤ now && now < stop) := by
  rw [isActive, hkind, hstop]
  rfl

/-- There is a stop, unless the calendar ends. -/
theorem exists_stop (h : q.start.date.number < lastDay) :
    ∃ stop : DateTime, stop.time = q.stop.time ∧
      stop.date.number = q.start.date.number + if q.Wraps then 1 else 0 := by
  have hfirst := q.start.date.first_le
  refine ⟨⟨⟨q.start.date.number + if q.Wraps then 1 else 0, ?_, ?_⟩, q.stop.time⟩, rfl, rfl⟩
  · split <;> omega
  · split <;> omega

/-! ## One window -/

/-- Quiet hours that occur once are on one day, or on two. -/
theorem isActive_once (hkind : q.kind = .once) (h : q.start.date.number < lastDay)
    (now : DateTime) :
    ∃ active, q.isActive now = .ok active ∧ (active = true ↔
      now.date.number = q.start.date.number ∧ q.start.time ≤ now.time ∧
          (q.Wraps ∨ now.time < q.stop.time) ∨
        now.date.number = q.start.date.number + 1 ∧ q.Wraps ∧
          now.time < q.stop.time.withoutLeap) := by
  by_cases hwraps : q.Wraps
  case neg =>
    refine ⟨_, isActive_of_once hkind (onceStop_of_not_wraps hwraps) now, ?_⟩
    simp only [Bool.and_eq_true, decide_eq_true_eq, DateTime.le_iff_lex, DateTime.lt_iff_lex,
      TimeOfDay.le_def, TimeOfDay.lt_def, hwraps, false_or, false_and, and_false, or_false]
    omega
  case pos =>
    have hfirst := q.start.date.first_le
    have hstop : q.onceStop =
        .ok ⟨⟨q.start.date.number + 1, by omega, by omega⟩, q.stop.time.withoutLeap⟩ :=
      (onceStop_of_wraps hwraps).2 ⟨rfl, rfl⟩
    refine ⟨_, isActive_of_once hkind hstop now, ?_⟩
    simp only [Bool.and_eq_true, decide_eq_true_eq, DateTime.le_iff_lex, DateTime.lt_iff_lex,
      TimeOfDay.le_def, TimeOfDay.lt_def, hwraps, true_or, true_and, and_true]
    omega

/-- Between the beginning and the first moment behind it at the time of the end. -/
theorem within_iff {stop : DateTime} (htime : stop.time = q.stop.time)
    (hdate : stop.date.number = q.start.date.number + if q.Wraps then 1 else 0) (now : DateTime) :
    q.start ≤ now ∧ now < stop ↔
      now.date.number = q.start.date.number ∧ q.start.time ≤ now.time ∧
          (q.Wraps ∨ now.time < q.stop.time) ∨
        now.date.number = q.start.date.number + 1 ∧ q.Wraps ∧ now.time < q.stop.time := by
  rw [DateTime.le_iff_lex, DateTime.lt_iff_lex, htime, hdate]
  by_cases hwraps : q.Wraps
  case pos =>
    simp only [TimeOfDay.le_def, TimeOfDay.lt_def, hwraps, if_true, true_or, true_and, and_true]
    omega
  case neg =>
    simp only [TimeOfDay.le_def, TimeOfDay.lt_def, hwraps, if_false, false_or, false_and,
      and_false, or_false]
    omega

/-! ## A window for each day -/

/-- The window that begins on a day. -/
def onDay (q : QuietHours) (day : Date) : QuietHours :=
  { q with kind := .once, start := ⟨day, q.start.time⟩ }

/-- Only a window that begins today or yesterday may be there now. -/
theorem exists_onDay_iff (hfirst : firstDay < now.date.number) (hlast : now.date.number < lastDay) :
    (∃ day : Date, day.number ≤ now.date.number ∧ (q.onDay day).isActive now = .ok true) ↔
      q.start.time ≤ now.time ∧ (q.Wraps ∨ now.time < q.stop.time) ∨
        q.Wraps ∧ now.time < q.stop.time.withoutLeap := by
  have hday : ∀ day : Date, day.number ≤ now.date.number →
      ((q.onDay day).isActive now = .ok true ↔
        now.date.number = day.number ∧ q.start.time ≤ now.time ∧
            (q.Wraps ∨ now.time < q.stop.time) ∨
          now.date.number = day.number + 1 ∧ q.Wraps ∧ now.time < q.stop.time.withoutLeap) := by
    intro day hle
    obtain ⟨active, hactive, hiff⟩ :=
      isActive_once (q := q.onDay day) rfl (show day.number < lastDay by omega) now
    rw [hactive, Except.ok.injEq]
    exact hiff
  constructor
  · rintro ⟨day, hle, hactive⟩
    obtain ⟨-, htoday⟩ | ⟨-, hyesterday⟩ := (hday day hle).1 hactive
    · exact .inl htoday
    · exact .inr hyesterday
  · rintro (htoday | hyesterday)
    · exact ⟨now.date, le_refl _, (hday now.date (le_refl _)).2 (.inl ⟨rfl, htoday⟩)⟩
    · have hle : now.date.number - 1 ≤ now.date.number := by omega
      refine ⟨⟨now.date.number - 1, by omega, by omega⟩, hle, (hday _ hle).2 (.inr ⟨?_, hyesterday⟩)⟩
      exact (Int.sub_add_cancel _ _).symm

/-- Daily hours are active from one time of day to another, past midnight if they wrap. -/
theorem isActive_daily (hkind : q.kind = .daily) (now : DateTime) :
    ∃ active, q.isActive now = .ok active ∧ (active = true ↔
      q.start.time ≤ now.time ∧ (q.Wraps ∨ now.time < q.stop.time) ∨
        q.Wraps ∧ now.time < q.stop.time) := by
  rw [isActive, hkind]
  by_cases hwraps : q.Wraps
  case pos =>
    refine ⟨_, if_neg (Nat.not_lt.2 hwraps), ?_⟩
    simp [hwraps, TimeOfDay.le_def, TimeOfDay.lt_def]
  case neg =>
    refine ⟨_, if_pos (Nat.not_le.1 hwraps), ?_⟩
    simp [hwraps, TimeOfDay.le_def, TimeOfDay.lt_def]

/-- Quiet hours that occur once last from their beginning to the first moment behind it at the
time of day of their end, and those that occur daily are the union of such windows, but for the
second by which a window may end early. -/
theorem isActive_iff_window {q : QuietHours} {now : DateTime}
    (hstart : q.start.date.number < lastDay) (hfirst : firstDay < now.date.number)
    (hlast : now.date.number < lastDay) :
    (q.kind = .once → ∃ stop active, IsLeast {t | q.start < t ∧ t.time = q.stop.time} stop ∧
        q.isActive now = .ok active ∧
        ((active = true ↔ q.start ≤ now ∧ now < stop) ↔
          ¬ (now.date.number = q.start.date.number + 1 ∧ q.EndsEarly now.time))) ∧
      (q.kind = .daily → ∃ active, q.isActive now = .ok active ∧
        ((active = true ↔ ∃ day : Date, day.number ≤ now.date.number ∧
            (q.onDay day).isActive now = .ok true) ↔ ¬ q.EndsEarly now.time) ∧
        (q.start.time = q.stop.time → active = true)) := by
  have hearly := TimeOfDay.le_def.1 q.stop.time.withoutLeap_le
  constructor
  · intro hkind
    obtain ⟨active, hactive, hiff⟩ := isActive_once hkind hstart now
    obtain ⟨stop, htime, hdate⟩ := exists_stop hstart
    refine ⟨stop, active, DateTime.isLeast_at_time htime ?_, hactive, ?_⟩
    · rw [hdate, soonest_stop, Nat.cast_ite, Nat.cast_one, Nat.cast_zero]
    · rw [hiff, within_iff htime hdate, EndsEarly]
      by_cases hwraps : q.Wraps
      case pos =>
        simp only [TimeOfDay.le_def, TimeOfDay.lt_def, hwraps, true_or, true_and, and_true]
        omega
      case neg => simp [hwraps]
  · intro hkind
    obtain ⟨active, hactive, hiff⟩ := isActive_daily hkind now
    refine ⟨active, hactive, ?_, fun hsame => hiff.2 ?_⟩
    · rw [hiff, exists_onDay_iff hfirst hlast, EndsEarly]
      by_cases hwraps : q.Wraps
      case pos =>
        -- In the second that is lost the window of today has not begun yet.
        have hle := hwraps
        rw [Wraps, TimeOfDay.le_def] at hle
        simp only [TimeOfDay.le_def, TimeOfDay.lt_def, hwraps, true_or, true_and, and_true]
        omega
      case neg => simp [hwraps]
    · rw [Wraps, hsame]
      simp only [TimeOfDay.le_def, TimeOfDay.lt_def]
      omega

/-! ## Nights in March -/

end QuietHours

/-- A moment of March 2025. -/
def DateTime.inMarch (day hour minute second nano : Nat) : DateTime where
  date := (Date.ofNumber? (20147 + Int.ofNat day)).getD .first
  time := (TimeOfDay.ofSecond? (hour * 3600 + minute * 60 + second) nano).getD .midnight

namespace QuietHours

/-- From ten in the evening to seven in the morning. -/
def night (kind : QuietKind) : QuietHours where
  kind := kind
  start := .inMarch 3 22 0 0 0
  stop := .inMarch 1 7 0 0 0

/-- From ten in the evening to half of a leap second before seven. -/
def leapNight (kind : QuietKind) : QuietHours where
  kind := kind
  start := .inMarch 3 22 0 0 0
  stop := .inMarch 1 6 59 59 1500000000

/-- It is quiet before midnight, both if it is so once and if it is so on every night. -/
theorem isActive_night :
    (∃ stop, IsLeast {t | (night .once).start < t ∧ t.time = (night .once).stop.time} stop ∧
        (night .once).start ≤ .inMarch 3 23 30 0 0 ∧ .inMarch 3 23 30 0 0 < stop) ∧
      (night .once).isActive (.inMarch 3 23 30 0 0) = .ok true ∧
      ∃ day : Date, ((night .daily).onDay day).isActive (.inMarch 3 23 30 0 0) = .ok true := by
  have honce : (night .once).isActive (.inMarch 3 23 30 0 0) = .ok true := by decide
  have hdaily : (night .daily).isActive (.inMarch 3 23 30 0 0) = .ok true := by decide
  obtain ⟨hwindow, -⟩ := @isActive_iff_window (night .once) (.inMarch 3 23 30 0 0)
    (by decide) (by decide) (by decide)
  obtain ⟨-, hdays⟩ := @isActive_iff_window (night .daily) (.inMarch 3 23 30 0 0)
    (by decide) (by decide) (by decide)
  obtain ⟨stop, active, hstop, hactive, hiff⟩ := hwindow rfl
  obtain ⟨active', hactive', hiff', -⟩ := hdays rfl
  cases honce.symm.trans hactive
  cases hdaily.symm.trans hactive'
  obtain ⟨day, -, hday⟩ := (hiff'.2 (not_endsEarly (by decide) _)).1 rfl
  have hwithin := (hiff.2 fun h => not_endsEarly (by decide) _ h.2).1 rfl
  exact ⟨⟨stop, hstop, hwithin⟩, honce, day, hday⟩

/-- Quiet hours may end before the first moment at the time of their end, and the daily ones
are not the union of such windows then. -/
theorem not_isActive_window :
    (¬ ∀ (q : QuietHours) (now : DateTime), q.kind = .once →
        firstDay < q.start.date.number → q.start.date.number < lastDay →
        firstDay < now.date.number → now.date.number < lastDay →
        ∀ stop, IsLeast {t | q.start < t ∧ t.time = q.stop.time} stop →
        (q.isActive now = .ok true ↔ q.start ≤ now ∧ now < stop)) ∧
      ¬ ∀ (q : QuietHours) (now : DateTime), q.kind = .daily →
        firstDay < q.start.date.number → q.start.date.number < lastDay →
        firstDay < now.date.number → now.date.number < lastDay →
        (q.isActive now = .ok true ↔ ∃ day : Date, day.number ≤ now.date.number ∧
          (q.onDay day).isActive now = .ok true) := by
  constructor
  · intro h
    have hstop : IsLeast {t | (leapNight .once).start < t ∧ t.time = (leapNight .once).stop.time}
        (.inMarch 4 6 59 59 1500000000) :=
      DateTime.isLeast_at_time rfl (by decide)
    have hactive := (h (leapNight .once) (.inMarch 4 6 59 59 750000000) rfl (by decide) (by decide)
      (by decide) (by decide) _ hstop).2 (by decide)
    cases hactive
  · intro h
    have hdays := (h (leapNight .daily) (.inMarch 4 6 59 59 750000000) rfl (by decide) (by decide)
      (by decide) (by decide)).1 (by decide)
    rw [exists_onDay_iff (by decide) (by decide)] at hdays
    revert hdays
    decide

end QuietHours

end Reminders
