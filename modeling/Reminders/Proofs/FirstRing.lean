import Mathlib
import Reminders.Proofs.Survival
import Reminders.Proofs.TimeOfRing

/-!
# The first ring

A request says whether it repeats, from its lists, its interval and its snoozes
(`ReminderRequest.isRepeating`).  What becomes of the reminder when it first rings is found out
while it is moved on.  Both agree for alarms, and for calendar reminders with an interval between
their rings (`Run.survives_firstRing`).

* A timer has rung once and for all, also if it was given an interval and snoozes.
* A calendar reminder without an interval is left to its dates.  If none of them is within the
  year to come, then it expires.

When it first rings, a reminder has all of its snoozes (`Entry.Fresh`).
-/

namespace Reminders

/-! ## Alarms -/

namespace Recurrence

variable {hour minute : UInt8} {weekdays : List UInt8} {now : DateTime} {time : TimeOfDay}

/-- An alarm is never without a next ring, if only the dates do not come to an end. -/
theorem nextAlarm_ne_none (htime : TimeOfDay.ofClock? hour.toNat minute.toNat 0 = some time) :
    nextAlarm hour minute (weekdayMask weekdays) now true ≠ .ok none := by
  obtain ⟨days, hlow, hhigh, hrings⟩ := exists_ringsAfter_within_week weekdays now
  have hsoon := soonest_le_one time now
  have hmem : days ∈ List.range' (soonest time now) (daysPerWeek + 1 - soonest time now) := by
    rw [List.mem_range'_1, daysPerWeek]
    omega
  rw [nextAlarm_eq htime]
  split
  case h_1 hnone => exact absurd hrings (List.find?_eq_none.1 hnone days hmem)
  case h_2 =>
    intro h
    obtain ⟨t, -, hnone⟩ := Except.map_eq_ok.1 h
    cases hnone

end Recurrence

theorem ReminderKind.exists_clock_of_valid {hour minute : UInt8} {weekdays : List UInt8}
    (h : (alarm hour minute weekdays).validate = .ok ()) :
    ∃ time, TimeOfDay.ofClock? hour.toNat minute.toNat 0 = some time := by
  have hhour : hour.toNat < 24 := by
    by_contra hlate
    rw [validate, if_pos (not_lt.1 hlate)] at h
    cases h
  have hminute : minute.toNat < 60 := by
    by_contra hlate
    rw [validate, if_neg (not_le.2 hhour), if_pos (not_lt.1 hlate)] at h
    cases h
  obtain ⟨time, htime, -⟩ := TimeOfDay.exists_ofClock? hhour hminute
  exact ⟨time, htime⟩

namespace ReminderRequest

variable {r : ReminderRequest} {now : DateTime}

/-- Whether a reminder will ring again once it rang for the first time.  It says that it repeats,
it is not a timer, and if it has but its dates, then one of them is within the year to come. -/
def RingsAgain (r : ReminderRequest) (now : DateTime) : Prop :=
  r.isRepeating ∧ r.type ≠ .timer ∧
    (r.type = .calendar → r.interval = 0 → r.kind.OccursSoon now)

theorem snoozes_pos (h : r.type ≠ .timer) : 0 < r.snoozes := by
  rw [snoozes]
  split
  case h_1 seconds hkind => exact absurd (congrArg ReminderKind.type hkind) h
  case h_2 =>
    split
    case isTrue => decide
    case isFalse hzero => exact UInt8.pos_iff_ne_zero.2 hzero

/-- A valid request that repeats by its kind finds a next ring, unless it is a calendar reminder
with no date within the year to come. -/
theorem exists_next_iff (valid : r.validate = .ok ()) {next : Except Error (Option DateTime)}
    (h : r.nextTrigger now = .ok next) :
    (∃ t, next = .ok (some t)) ↔
      r.kind.repeats ∧ (r.type = .calendar → r.kind.OccursSoon now) := by
  rw [nextTrigger] at h
  split at h
  case isFalse hrepeats =>
    cases h
    simp [hrepeats]
  case isTrue hrepeats =>
    have hkind := kind_valid valid
    rw [type]
    cases hr : r.kind with
    | timer =>
      rw [hr] at hrepeats
      cases hrepeats
    | calendar dateTime months days =>
      rw [hr] at h hkind hrepeats
      obtain ⟨first, hfirst⟩ := ReminderKind.dateTime_of_valid hkind
      have hsoon : (∃ t, (ReminderKind.calendar dateTime months days).trigger now =
          .ok (.ok (some t))) ↔ _ :=
        ReminderKind.exists_trigger_calendar_iff hfirst (ReminderKind.repeats_iff_recurs.1 hrepeats)
      rw [h] at hsoon
      simp only [Except.ok.injEq] at hsoon
      rw [hsoon]
      simp [hrepeats, ReminderKind.type]
    | alarm hour minute weekdays =>
      rw [hr] at h hkind hrepeats
      obtain ⟨time, htime⟩ := ReminderKind.exists_clock_of_valid hkind
      obtain ⟨found, hfound, rfl⟩ := Except.map_eq_ok.1 h
      obtain _ | t := found
      · exact absurd hfound (Recurrence.nextAlarm_ne_none htime)
      · simp [hrepeats, ReminderKind.type]

end ReminderRequest

/-! ## One ring -/

namespace Entry

variable {e e' r : Entry} {now : DateTime}

/-- Whether the entry has all of its snoozes if it was never shown. -/
def Fresh (e : Entry) : Prop := e.lastShown = none → e.snoozesLeft = e.request.snoozes

theorem expired_movedTo (e : Entry) (next : Option DateTime) :
    (e.movedTo next).expired = next.isNone := rfl

/-- A reminder with all of its snoozes is kept by its ring if and only if it rings again. -/
theorem rung_live_iff (valid : e.request.validate = .ok ())
    (hfull : e.snoozesLeft = e.request.snoozes)
    (hdates : (Recurrence.afterSeconds? now e.request.interval).isSome)
    (h : e.rung now = (r, .ok ())) : r.expired = false ↔ e.request.RingsAgain now := by
  obtain ⟨htimer, rfl⟩ | ⟨htimer, ⟨hinterval, hleft⟩, rfl⟩ | ⟨htimer, hsnooze, next, hnext, rfl⟩ :=
    rung_cases h
  · exact iff_of_false (by simp [movedTo]) fun hagain => hagain.2.1 htimer
  · rw [hfull] at hleft
    refine iff_of_true ?_ ⟨?_, htimer, fun _ hzero => absurd hzero hinterval.ne'⟩
    · rw [expired_movedTo, Option.isNone_eq_false_iff]
      exact hdates
    · simp [ReminderRequest.isRepeating, hinterval, hleft]
  · -- All but timers have snoozes, so it is the interval that is missing.
    have hzero : e.request.interval = 0 := by
      by_contra hne
      exact hsnooze ⟨Nat.pos_of_ne_zero hne, hfull ▸ ReminderRequest.snoozes_pos htimer⟩
    have hagain := ReminderRequest.exists_next_iff valid hnext
    have hlive : next.toOption.join.isNone = false ↔ ∃ t, next = .ok (some t) := by
      obtain cause | _ | t := next
      · simp [Except.toOption]
      · simp [Except.toOption]
      · simp [Except.toOption]
    rw [expired_movedTo, hlive, hagain, ReminderRequest.RingsAgain, ReminderRequest.isRepeating,
      hzero]
    simp [htimer]

/-- A batch of rings keeps a reminder fresh, since a ring shows it. -/
theorem Fires.fresh (h : e.Fires now e') (hfresh : e.Fresh) : e'.Fresh := by
  cases h with
  | kept => exact hfresh
  | covered => exact hfresh
  | rang _ hrung =>
    intro hnever
    have hshown := e.rung_lastShown now
    rw [hrung, hnever] at hshown
    cases hshown
  | @hidden r _ hrung =>
    intro hnever
    have hshown := e.rung_lastShown now
    rw [hrung] at hshown
    cases hshown.symm.trans hnever

theorem refreshed_fresh (h : e.refreshed now = .ok e') (hfresh : e.Fresh) : e'.Fresh := by
  obtain ⟨-, rfl⟩ | ⟨-, t, -, rfl⟩ | ⟨-, -, rfl⟩ | ⟨-, -, rfl⟩ := refreshed_cases h
  · exact hfresh
  · exact hfresh
  · exact hfresh
  · exact hfresh

end Entry

/-! ## Runs -/

namespace Schedule

variable {s s' : Schedule} {operation : Operation} {answer : Answer} {p : Publication}

/-- The entries of a publication keep all of their snoozes until they are shown. -/
theorem Effect.fresh (h : s.Effect operation answer s')
    (hs : ∀ e ∈ s.entries, e.publication = p → e.Fresh) :
    ∀ e ∈ s'.entries, e.publication = p → e.Fresh := by
  cases h with
  | refused => exact hs
  | refusedThen => exact forall_mem_drop _ hs
  | published => exact forall_mem_accept (forall_mem_drop _ hs) fun _ _ => rfl
  | cancelled => exact forall_mem_drop _ hs
  | cancelledAll => exact forall_mem_drop _ hs
  | fired hmoved =>
    refine hmoved.forall_mem hs fun e e' hfires _ hfresh hpublication => ?_
    exact hfires.fresh (hfresh (hfires.publication.symm.trans hpublication))
  | notSnoozed => exact hs
  | snoozed hget _ _ hs' =>
    have hfresh := hs _ (mem_of_get? hget)
    exact hs'.forall_mem hs fun _ => hfresh
  | notClosed => exact hs
  | closedOnly hget _ _ hs' =>
    have hfresh := hs _ (mem_of_get? hget)
    exact hs'.forall_mem hs fun _ => hfresh
  | ended hget _ _ hs' =>
    have hfresh := hs _ (mem_of_get? hget)
    exact hs'.forall_mem hs fun _ => hfresh
  | renewed _ _ _ hs' => exact hs'.forall_mem hs fun _ _ _ => rfl
  | notSilenced => exact hs
  | silenced hget _ hs' =>
    have hfresh := hs _ (mem_of_get? hget)
    exact hs'.forall_mem hs fun _ => hfresh
  | refreshed hmoved =>
    refine hmoved.forall_mem hs fun e e' hrefreshed _ hfresh hpublication => ?_
    exact Entry.refreshed_fresh hrefreshed
      (hfresh ((Entry.refreshed_publication hrefreshed).symm.trans hpublication))
  | purged => exact forall_mem_drop _ hs

end Schedule

/-- In every run the entries of a publication keep their snoozes until they are shown. -/
theorem Run.fresh [LocalTime] {start s : Schedule} {steps : List Step} {p : Publication}
    (run : Run start steps s) (hstart : ∀ e ∈ start.entries, e.publication = p → e.Fresh) :
    ∀ e ∈ s.entries, e.publication = p → e.Fresh := by
  induction run with
  | start => exact hstart
  | step _ hperform ih => exact (Schedule.perform_effect hperform).fresh ih

/-- A reminder that was taken in survives its first ring if and only if it rings again.  Before
that ring anything may be called, at any times.  The schedule that took it in may have been any,
as long as an entry of a like publication was in it only with all of its snoozes. -/
theorem Run.survives_firstRing [LocalTime] {s s₀ s₁ s' : Schedule} {bundle : Bundle}
    {request : ReminderRequest} {moment now : DateTime} {id : Int32} {steps : List Step}
    {alerts : List Alert} {e : Entry}
    (hpublish : s.publish bundle request moment = (s₀, .ok (.ok id)))
    (hs : ∀ x ∈ s.entries, x.publication = ⟨id, bundle, request⟩ → x.Fresh)
    (run : Run s₀ steps s₁) (he : e ∈ s₁.entries) (hpub : e.publication = ⟨id, bundle, request⟩)
    (hnever : e.lastShown = none) (hdue : e.isDue now)
    (hdates : (Recurrence.afterSeconds? now request.interval).isSome)
    (hfire : s₁.fireDue now = (s', .ok alerts)) :
    (∃ e', e.Fires now e' ∧ (e'.expired = false ↔ request.RingsAgain now) ∧
        (e'.expired = false → e' ∈ s'.entries)) ∧
      ((s₁.entries.map Entry.id).Nodup → (e.SurvivesIn s' ↔ request.RingsAgain now)) := by
  have heffect := Schedule.publish_effect hpublish
  have hfull := run.fresh (heffect.fresh hs) e he hpub hnever
  have valid : request.validate = .ok () := by
    cases heffect with
    | published hrequest => exact (checkRequest_eq_ok.1 hrequest).2
  obtain rfl : e.request = request := congrArg Publication.request hpub
  have hmoved := Schedule.fireDue_moved hfire
  have hlive : ∀ e', e.Fires now e' → (e'.expired = false ↔ e.request.RingsAgain now) := by
    intro e' hfires
    cases hfires with
    | kept hnot => exact absurd hdue hnot
    | covered hnot => exact absurd hdue hnot
    | rang _ hrung => exact Entry.rung_live_iff valid hfull hdates hrung
    | @hidden r _ hrung =>
      have hring : r.expired = false ↔ e.request.RingsAgain now :=
        Entry.rung_live_iff valid hfull hdates hrung
      exact hring
  have hkeep : ∀ e' : Entry, e'.expired = false → !e'.isOver := by
    intro e' live
    rw [Entry.not_isOver_of_live live, Bool.not_false]
  constructor
  · obtain ⟨e', hfires, hmem⟩ := hmoved.of_mem he
    exact ⟨e', hfires, hlive e' hfires, fun live => hmem (hkeep e' live)⟩
  · intro distinct
    refine hmoved.survivesIn_iff distinct (fun _ _ => Entry.Fires.publication) he fun e' hfires => ?_
    rw [← hlive e' hfires]
    exact ⟨fun hboth => hboth.2, fun live => ⟨hkeep e' live, live⟩⟩

/-! ## A reminder alone -/

/-- A reminder of the kitchen that was taken in on a leap day. -/
def Schedule.alone (request : ReminderRequest) : Schedule :=
  (Schedule.publish {} .kitchen request (.onDay 2024 2 29 0 0)).1

theorem Schedule.publish_alone {request : ReminderRequest}
    (h : (Schedule.publish {} .kitchen request (.onDay 2024 2 29 0 0)).2.map Except.toOption =
      .ok (some 1)) :
    Schedule.publish {} .kitchen request (.onDay 2024 2 29 0 0) =
      (.alone request, .ok (.ok 1)) := by
  obtain ⟨_ | _, hresult, ⟨⟩⟩ := Except.map_eq_ok.1 h
  exact Prod.ext rfl hresult

attribute [local instance] LocalTime.universal

/-- A reminder of every morning outlives its first ring, by its snoozes. -/
theorem Run.survives_firstRing_mornings :
    ∃ e s' alerts, (Schedule.alone (.twice .mornings 300)).entries = [e] ∧
      (Schedule.alone (.twice .mornings 300)).fireDue (.onDay 2024 2 29 8 0) =
        (s', .ok alerts) ∧
      e.SurvivesIn s' := by
  have hpublish := @Schedule.publish_alone (.twice .mornings 300) (by decide +kernel)
  have hend : ((Schedule.alone (.twice .mornings 300)).fireDue (.onDay 2024 2 29 8 0)).2.map
      List.length = .ok 1 := by decide +kernel
  obtain ⟨alerts, halerts, -⟩ := Except.map_eq_ok.1 hend
  obtain ⟨-, hsurvives⟩ := Run.survives_firstRing hpublish (fun _ hx => by cases hx) .start
    (List.getElem_mem (n := 0) (by decide +kernel)) (by decide +kernel) (by decide +kernel)
    (by decide +kernel) (by decide +kernel) (Prod.ext rfl halerts)
  have hagain : (ReminderRequest.twice .mornings 300).RingsAgain (.onDay 2024 2 29 8 0) :=
    ⟨by decide, by decide, fun htype => by cases htype⟩
  exact ⟨_, _, alerts, by decide +kernel, Prod.ext rfl halerts,
    (hsurvives (by decide +kernel)).2 hagain⟩

theorem Schedule.alone_expires [LocalTime] {request : ReminderRequest} {now : DateTime}
    (hdue : ((alone request).entries.map fun x => x.isDue now) = [true])
    (hone : ((alone request).fireDue now).2.map List.length = .ok 1)
    (expired : ∀ x ∈ ((alone request).fireDue now).1.entries, x.expired) :
    ∃ e ∈ (alone request).entries, e.isDue now ∧ ∃ s' alerts,
      (alone request).fireDue now = (s', .ok alerts) ∧ ¬ e.SurvivesIn s' := by
  obtain ⟨e, hentries, hdue⟩ := List.map_eq_singleton_iff.1 hdue
  obtain ⟨alerts, halerts, -⟩ := Except.map_eq_ok.1 hone
  refine ⟨e, by simp [hentries], hdue, _, alerts, Prod.ext rfl halerts, ?_⟩
  rintro ⟨e', he', live, -⟩
  rw [expired e' he'] at live
  cases live

/-- A reminder that says that it repeats may expire by its first ring.  A timer does so although
it has a snooze, and a reminder of leap days because the next one is too far away. -/
theorem not_survives_firstRing :
    (¬ ∀ (s s' : Schedule) (bundle : Bundle) (request : ReminderRequest) (moment now : DateTime)
        (id : Int32) (alerts : List Alert) (e : Entry),
        Schedule.publish {} bundle request moment = (s, .ok (.ok id)) → request.type = .timer →
        e ∈ s.entries → e.isDue now → (Recurrence.afterSeconds? now request.interval).isSome →
        s.fireDue now = (s', .ok alerts) → (e.SurvivesIn s' ↔ request.isRepeating)) ∧
      ¬ ∀ (s s' : Schedule) (bundle : Bundle) (request : ReminderRequest) (moment now : DateTime)
        (id : Int32) (alerts : List Alert) (e : Entry),
        Schedule.publish {} bundle request moment = (s, .ok (.ok id)) → request.type = .calendar →
        e ∈ s.entries → e.isDue now → (Recurrence.afterSeconds? now request.interval).isSome →
        s.fireDue now = (s', .ok alerts) → (e.SurvivesIn s' ↔ request.isRepeating) := by
  constructor
  · intro h
    have hpublish := @Schedule.publish_alone (.twice (.timer 60) 300) (by decide +kernel)
    obtain ⟨e, he, hdue, s', alerts, hfire, hnot⟩ :=
      @Schedule.alone_expires _ (.twice (.timer 60) 300) (.onDay 2024 2 29 0 1)
        (by decide +kernel) (by decide +kernel) (by decide +kernel)
    exact hnot ((h _ _ _ _ _ _ _ _ e hpublish rfl he hdue (by decide +kernel) hfire).2 (by decide))
  · intro h
    have hpublish := @Schedule.publish_alone (.twice .leapDays 0) (by decide +kernel)
    obtain ⟨e, he, hdue, s', alerts, hfire, hnot⟩ :=
      @Schedule.alone_expires _ (.twice .leapDays 0) (.onDay 2024 2 29 8 0)
        (by decide +kernel) (by decide +kernel) (by decide +kernel)
    exact hnot ((h _ _ _ _ _ _ _ _ e hpublish rfl he hdue (by decide +kernel) hfire).2 (by decide))

end Reminders
