import Mathlib
import Reminders.Proofs.QuietWindow

/-!
# Quiet hours to the minute

Quiet hours are meant to be given to the minute, but their seconds are compared as well.
Two quiet hours that are alike to the minute are apart while just one of them has begun or
ended (`QuietHours.isActive_eq_iff`).  That is so only in the minutes in which they begin and
end, as long as they begin and end in different ones.  Where they do not, the seconds decide
whether they last for some seconds or until the next day.
-/

namespace Reminders

namespace TimeOfDay

variable {t u v : TimeOfDay}

theorem startOfMinute_eq_iff : t.startOfMinute = u.startOfMinute ↔ t.second / 60 = u.second / 60 := by
  rw [← instant_inj]
  simp only [instant, startOfMinute]
  omega

/-- Times of day in different minutes are ordered by them. -/
theorem le_iff_of_startOfMinute_ne (h : t.startOfMinute ≠ u.startOfMinute) :
    t ≤ u ↔ t.second / 60 < u.second / 60 := by
  have ht := t.nano_lt
  have hu := u.nano_lt
  rw [Ne, startOfMinute_eq_iff] at h
  simp only [le_def, instant]
  omega

/-- Outside of a minute, all times in it are compared alike. -/
theorem le_iff_of_startOfMinute_eq (h : t.startOfMinute = u.startOfMinute)
    (hv : v.startOfMinute ≠ t.startOfMinute) : t ≤ v ↔ u ≤ v := by
  rw [le_iff_of_startOfMinute_ne hv.symm, le_iff_of_startOfMinute_ne (h ▸ hv.symm),
    startOfMinute_eq_iff.1 h]

end TimeOfDay

namespace QuietHours

/-- Two quiet hours that begin on the same date, and in the same minutes begin and end. -/
structure AlikeToTheMinute (p q : QuietHours) : Prop where
  kind_eq : p.kind = q.kind
  date_eq : p.start.date = q.start.date
  start_eq : p.start.time.startOfMinute = q.start.time.startOfMinute
  stop_eq : p.stop.time.startOfMinute = q.stop.time.startOfMinute

variable {p q : QuietHours} {now e f : DateTime} {a b : Bool}

/-! ## The end of a window -/

/-- The stop has the time of day of the end, on the day of the start or the one behind. -/
theorem onceStop_eq_ok (h : q.onceStop = .ok e) :
    e.time = (if q.Wraps then q.stop.time.withoutLeap else q.stop.time) ∧
      e.date.number = q.start.date.number + if q.Wraps then 1 else 0 := by
  by_cases hwraps : q.Wraps
  case pos =>
    rw [if_pos hwraps, if_pos hwraps]
    exact (onceStop_of_wraps hwraps).1 h
  case neg =>
    rw [onceStop_of_not_wraps hwraps] at h
    cases h
    rw [if_neg hwraps, if_neg hwraps]
    exact ⟨rfl, (Int.add_zero _).symm⟩

theorem startOfMinute_onceStop (h : q.onceStop = .ok e) :
    e.time.startOfMinute = q.stop.time.startOfMinute := by
  rw [(onceStop_eq_ok h).1]
  split
  · rfl
  · rfl

theorem start_lt_onceStop (h : q.onceStop = .ok e) : q.start < e := by
  obtain ⟨htime, hdate⟩ := onceStop_eq_ok h
  by_cases hwraps : q.Wraps
  case pos =>
    rw [if_pos hwraps] at hdate
    exact DateTime.lt_of_date_lt (by omega)
  case neg =>
    rw [if_neg hwraps] at htime hdate
    rw [Wraps, TimeOfDay.le_def] at hwraps
    rw [DateTime.lt_iff_lex, htime, TimeOfDay.lt_def]
    omega

/-- Quiet hours that have begun last until they end. -/
theorem isActive_eq_ok_of_once (hkind : q.kind = .once) (h : q.isActive now = .ok a) :
    ∃ e, q.onceStop = .ok e ∧ q.start < e ∧ (a = true ↔ q.start ≤ now ∧ ¬ e ≤ now) := by
  cases hstop : q.onceStop with
  | error =>
    rw [isActive, hkind, hstop] at h
    cases h
  | ok e =>
    rw [isActive_of_once hkind hstop] at h
    cases h
    exact ⟨e, rfl, start_lt_onceStop hstop, by simp⟩

/-! ## Two windows -/

/-- Of two things that have begun if they have ended, one is going on if and only if the other
is, as long as none or both of beginning and end tell them apart. -/
theorem during_iff_during {begun ended begun' ended' : Prop} (h : ended → begun)
    (h' : ended' → begun') :
    (begun ∧ ¬ ended ↔ begun' ∧ ¬ ended') ↔ ((begun ↔ begun') ↔ (ended ↔ ended')) := by
  tauto

namespace AlikeToTheMinute

/-- Where start and end differ to the minute, the minutes tell whether the hours wrap. -/
theorem wraps_iff (h : p.AlikeToTheMinute q)
    (hminutes : p.start.time.startOfMinute ≠ p.stop.time.startOfMinute) : p.Wraps ↔ q.Wraps := by
  have hq : q.stop.time.startOfMinute ≠ q.start.time.startOfMinute :=
    h.start_eq ▸ h.stop_eq ▸ hminutes.symm
  rw [Wraps, Wraps, TimeOfDay.le_iff_of_startOfMinute_ne hminutes.symm,
    TimeOfDay.le_iff_of_startOfMinute_ne hq, TimeOfDay.startOfMinute_eq_iff.1 h.start_eq,
    TimeOfDay.startOfMinute_eq_iff.1 h.stop_eq]

/-- Outside the minute of the start, the minutes tell whether it has come. -/
theorem start_le_iff (h : p.AlikeToTheMinute q)
    (hnow : now.time.startOfMinute ≠ p.start.time.startOfMinute) :
    p.start ≤ now ↔ q.start ≤ now := by
  rw [DateTime.le_iff_lex, DateTime.le_iff_lex, h.date_eq,
    TimeOfDay.le_iff_of_startOfMinute_eq h.start_eq hnow]

/-- Outside the minute of the end, they tell whether the stop has. -/
theorem onceStop_le_iff (h : p.AlikeToTheMinute q) (hwraps : p.Wraps ↔ q.Wraps)
    (he : p.onceStop = .ok e) (hf : q.onceStop = .ok f)
    (hnow : now.time.startOfMinute ≠ p.stop.time.startOfMinute) : e ≤ now ↔ f ≤ now := by
  have hdate : e.date.number = f.date.number := by
    simp only [(onceStop_eq_ok he).2, (onceStop_eq_ok hf).2, h.date_eq, hwraps]
  have hminute : e.time.startOfMinute = f.time.startOfMinute := by
    rw [startOfMinute_onceStop he, startOfMinute_onceStop hf, h.stop_eq]
  rw [DateTime.le_iff_lex, DateTime.le_iff_lex, hdate,
    TimeOfDay.le_iff_of_startOfMinute_eq hminute (startOfMinute_onceStop he ▸ hnow)]

/-- Two such hours for once agree if both or none of beginning and end tell them apart. -/
theorem once_eq_iff (h : p.AlikeToTheMinute q) (hkind : p.kind = .once)
    (hp : p.isActive now = .ok a) (hq : q.isActive now = .ok b) :
    ∃ e f, p.onceStop = .ok e ∧ q.onceStop = .ok f ∧
      (a = b ↔ ((p.start ≤ now ↔ q.start ≤ now) ↔ (e ≤ now ↔ f ≤ now))) := by
  obtain ⟨e, he, hpe, ha⟩ := isActive_eq_ok_of_once hkind hp
  obtain ⟨f, hf, hqf, hb⟩ := isActive_eq_ok_of_once (h.kind_eq ▸ hkind) hq
  refine ⟨e, f, he, hf, ?_⟩
  rw [Bool.eq_iff_iff, ha, hb]
  exact during_iff_during (fun hle => hpe.le.trans hle) (fun hle => hqf.le.trans hle)

/-- Two such daily hours agree if an even number of three things tell them apart: beginning, end,
and wrapping. -/
theorem daily_eq_iff (h : p.AlikeToTheMinute q) (hkind : p.kind = .daily)
    (hp : p.isActive now = .ok a) (hq : q.isActive now = .ok b) :
    a = b ↔ (((p.start.time ≤ now.time ↔ q.start.time ≤ now.time) ↔
      (p.stop.time ≤ now.time ↔ q.stop.time ≤ now.time)) ↔ (p.Wraps ↔ q.Wraps)) := by
  obtain ⟨a', ha', ha⟩ := isActive_daily hkind now
  obtain ⟨b', hb', hb⟩ := isActive_daily (q := q) (h.kind_eq ▸ hkind) now
  cases ha'.symm.trans hp
  cases hb'.symm.trans hq
  rw [Bool.eq_iff_iff, ha, hb]
  simp only [Wraps, TimeOfDay.le_def, TimeOfDay.lt_def]
  omega

/-- Outside of the minutes in which they begin and end it is quiet by both or by none. -/
theorem eq_of_startOfMinute_ne (h : p.AlikeToTheMinute q) (hkind : p.kind = .once ∨ p.kind = .daily)
    (hwraps : p.Wraps ↔ q.Wraps) (hstart : now.time.startOfMinute ≠ p.start.time.startOfMinute)
    (hstop : now.time.startOfMinute ≠ p.stop.time.startOfMinute)
    (hp : p.isActive now = .ok a) (hq : q.isActive now = .ok b) : a = b := by
  rcases hkind with honce | hdaily
  · obtain ⟨e, f, he, hf, heq⟩ := h.once_eq_iff honce hp hq
    exact heq.2 (iff_of_true (h.start_le_iff hstart) (h.onceStop_le_iff hwraps he hf hstop))
  · rw [h.daily_eq_iff hdaily hp hq]
    exact iff_of_true (iff_of_true (TimeOfDay.le_iff_of_startOfMinute_eq h.start_eq hstart)
      (TimeOfDay.le_iff_of_startOfMinute_eq h.stop_eq hstop)) hwraps

end AlikeToTheMinute

/-- Quiet hours that are alike to the minute are apart while just one of them has begun, or just
one has ended.  That may be so in the minutes in which they begin and end, and elsewhere if just
one of them ends on the next day. -/
theorem isActive_eq_iff (h : p.AlikeToTheMinute q) (hkind : p.kind = .once ∨ p.kind = .daily)
    (hp : p.isActive now = .ok a) (hq : q.isActive now = .ok b) :
    (p.kind = .once → ∃ e f, p.onceStop = .ok e ∧ q.onceStop = .ok f ∧
        (a = b ↔ ((p.start ≤ now ↔ q.start ≤ now) ↔ (e ≤ now ↔ f ≤ now)))) ∧
      (p.kind = .daily →
        (a = b ↔ (((p.start.time ≤ now.time ↔ q.start.time ≤ now.time) ↔
          (p.stop.time ≤ now.time ↔ q.stop.time ≤ now.time)) ↔ (p.Wraps ↔ q.Wraps)))) ∧
      ((p.Wraps ↔ q.Wraps) → now.time.startOfMinute ≠ p.start.time.startOfMinute →
        now.time.startOfMinute ≠ p.stop.time.startOfMinute → a = b) ∧
      (p.start.time.startOfMinute ≠ p.stop.time.startOfMinute → (p.Wraps ↔ q.Wraps)) := by
  exact ⟨fun honce => h.once_eq_iff honce hp hq, fun hdaily => h.daily_eq_iff hdaily hp hq,
    fun hwraps hstart hstop => h.eq_of_startOfMinute_ne hkind hwraps hstart hstop hp hq, h.wraps_iff⟩

/-! ## Half a minute longer -/

/-- From ten in the evening to half a minute past seven in the morning. -/
def longNight (kind : QuietKind) : QuietHours where
  kind := kind
  start := .inMarch 3 22 0 0 0
  stop := .inMarch 2 7 0 30 0

theorem alike_longNight (kind : QuietKind) : (night kind).AlikeToTheMinute (longNight kind) := by
  cases kind <;> exact ⟨rfl, rfl, by decide, by decide⟩

/-- The one night has ended and the other has not.  In the next minute both have. -/
theorem isActive_longNight :
    (night .once).isActive (.inMarch 4 7 0 10 0) = .ok false ∧
      (longNight .once).isActive (.inMarch 4 7 0 10 0) = .ok true ∧
      (∃ e f, (night .once).onceStop = .ok e ∧ (longNight .once).onceStop = .ok f ∧
        ¬ (((night .once).start ≤ .inMarch 4 7 0 10 0 ↔
            (longNight .once).start ≤ .inMarch 4 7 0 10 0) ↔
          (e ≤ .inMarch 4 7 0 10 0 ↔ f ≤ .inMarch 4 7 0 10 0))) ∧
      ∃ a, (night .daily).isActive (.inMarch 4 7 1 0 0) = .ok a ∧
        (longNight .daily).isActive (.inMarch 4 7 1 0 0) = .ok a := by
  have honce : (night .once).isActive (.inMarch 4 7 0 10 0) = .ok false := by decide
  have honce' : (longNight .once).isActive (.inMarch 4 7 0 10 0) = .ok true := by decide
  obtain ⟨a, hdaily, -⟩ := isActive_daily (q := night .daily) rfl (.inMarch 4 7 1 0 0)
  obtain ⟨b, hdaily', -⟩ := isActive_daily (q := longNight .daily) rfl (.inMarch 4 7 1 0 0)
  obtain ⟨happart, -⟩ := isActive_eq_iff (alike_longNight .once) (.inl rfl) honce honce'
  obtain ⟨-, -, houtside, hwraps⟩ :=
    isActive_eq_iff (alike_longNight .daily) (.inr rfl) hdaily hdaily'
  obtain ⟨e, f, he, hf, heq⟩ := happart rfl
  refine ⟨honce, honce', ⟨e, f, he, hf, fun hsame => absurd (heq.2 hsame) (by decide)⟩, a, hdaily, ?_⟩
  rw [houtside (hwraps (by decide)) (by decide) (by decide)]
  exact hdaily'

/-- The seconds of the end count. -/
theorem not_isActive_toTheMinute :
    (¬ ∀ (p q : QuietHours) (now : DateTime) (a b : Bool), p.kind = .once →
        p.AlikeToTheMinute q → p.isActive now = .ok a → q.isActive now = .ok b → a = b) ∧
      ¬ ∀ (p q : QuietHours) (now : DateTime) (a b : Bool), p.kind = .daily →
        p.AlikeToTheMinute q → p.isActive now = .ok a → q.isActive now = .ok b → a = b := by
  constructor
  · intro h
    cases h _ _ (.inMarch 4 7 0 10 0) false true rfl (alike_longNight .once) (by decide)
      (by decide)
  · intro h
    cases h _ _ (.inMarch 4 7 0 10 0) false true rfl (alike_longNight .daily) (by decide)
      (by decide)

end QuietHours

end Reminders
