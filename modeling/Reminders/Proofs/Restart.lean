import Reminders.Engine
import Reminders.Proofs.Occurrence
import Reminders.Proofs.Upkeep

/-!
# Restarting

An engine that starts with a stored schedule looks for the next rings anew, since the
clock may have been set in between.  If it was not, nothing should change.

Most reminders wait for a ring by their kind, and that is found again as long as it is
ahead (`ReminderKind.trigger_eq_of_le`).  A reminder that rings again by itself between
two rings of its kind waits for another moment, which is not looked for anew while it is
on screen.  But when another reminder with its notification rings, it leaves the screen,
and then its pending ring is lost in a restart (`not_refresh_eq`).

`Run.restart_eq_iff` says that this is the only change.  A schedule comes through a
restart just as it was if and only if every reminder that *hides a snooze* happens to be
due at the same moment by its kind.

The invariant behind it is `Entry.ByKind`: what does not hide a snooze waits for a moment
that was found by its kind at some moment of the run.
-/

namespace Reminders

/-! ## Moments of a run -/

/-- The moment at which an operation takes place, if that matters to it. -/
def Operation.moment? : Operation → Option DateTime
  | .publish _ _ now | .fireDue now | .snooze _ now | .close _ now | .refresh now => some now
  | .cancel _ _ | .cancelAll _ | .silence _ | .purge => none

/-- The moments of a run, the first one first. -/
def moments (steps : List Step) : List DateTime :=
  steps.filterMap fun step => step.operation.moment?

theorem moments_append (steps : List Step) (step : Step) :
    moments (steps ++ [step]) = moments steps ++ step.operation.moment?.toList := by
  rw [moments, List.filterMap_append]
  cases h : step.operation.moment? <;> simp [moments, h]

/-! ## Waiting for a ring by kind -/

/-- A further ring by kind would also have been found as the first one. -/
theorem ReminderRequest.firstTrigger_of_nextTrigger {r : ReminderRequest} {now t : DateTime}
    (h : r.nextTrigger now = .ok (.ok (some t))) : r.firstTrigger now = .ok (.ok (some t)) := by
  rw [nextTrigger] at h
  split at h
  case isTrue => exact h
  case isFalse => cases h

/-- Whether a reminder that waits does so for a ring by its kind, found at one of some
moments, unless a snooze is pending. -/
def Entry.ByKind (times : List DateTime) (e : Entry) : Prop :=
  e.expired = false → e.request.type ≠ .timer → e.status ≠ .snoozed →
    e.snoozesLeft = e.request.snoozes →
      ∃ time ∈ times, e.request.firstTrigger time = .ok (.ok e.trigger)

namespace Entry

variable {times times' : List DateTime} {e e' r : Entry} {now : DateTime}

theorem ByKind.mono (h : e.ByKind times) (hsubset : times ⊆ times') : e.ByKind times' := by
  intro hlive htype hstatus hleft
  obtain ⟨time, htime, hfirst⟩ := h hlive htype hstatus hleft
  exact ⟨time, hsubset htime, hfirst⟩

/-- What rang waits for a further ring by its kind, or for a snooze. -/
theorem byKind_of_rung (hsound : e.Sound) (hnow : now ∈ times) (h : e.rung now = (r, .ok ())) :
    r.ByKind times := by
  intro hlive _ _ hleft
  obtain ⟨-, rfl⟩ | ⟨-, ⟨-, hpositive⟩, rfl⟩ | ⟨-, -, next, hnext, rfl⟩ := rung_cases h
  · cases hlive
  · -- A snooze was taken, so fewer are left.
    have hle := UInt8.le_iff_toNat_le.1 hsound.snoozesLeft_le
    have hlt := UInt8.lt_iff_toNat_lt.1 hpositive
    have hone : 1 ≤ e.snoozesLeft := UInt8.le_iff_toNat_le.2 hlt
    have hleft' : (e.snoozesLeft - 1).toNat = e.request.snoozes.toNat := congrArg UInt8.toNat hleft
    rw [UInt8.toNat_sub_of_le _ _ hone, UInt8.toNat_one] at hleft'
    rw [UInt8.toNat_zero] at hlt
    omega
  · obtain _ | _ | t := next
    · cases hlive
    · cases hlive
    · exact ⟨now, hnow, ReminderRequest.firstTrigger_of_nextTrigger hnext⟩

/-- Leaving the screen changes nothing about the ring. -/
theorem ByKind.offScreen (h : e.ByKind times) (hstatus : e.status ≠ .snoozed) :
    ByKind times { e with status := .active } :=
  fun hlive htype _ hleft => h hlive htype hstatus hleft

theorem ByKind.fires (h : e.ByKind times) (hsound : e.Sound) (hnow : now ∈ times)
    (hfires : e.Fires now e') : e'.ByKind times := by
  cases hfires with
  | kept => exact h
  | covered _ hshowing =>
    refine h.offScreen fun hstatus => ?_
    rw [hstatus] at hshowing
    cases hshowing
  | rang _ hrung => exact byKind_of_rung hsound hnow hrung
  | @hidden r _ hrung =>
    refine (byKind_of_rung hsound hnow hrung).offScreen fun hstatus => ?_
    have hrstatus := e.rung_status now
    rw [hrung] at hrstatus
    rw [hstatus] at hrstatus
    cases hrstatus

theorem ByKind.refreshed (h : e.ByKind times) (hnow : now ∈ times)
    (hrefreshed : e.refreshed now = .ok e') : e'.ByKind times := by
  obtain ⟨-, rfl⟩ | ⟨-, t, hfirst, rfl⟩ | ⟨-, -, rfl⟩ | ⟨-, -, rfl⟩ :=
    refreshed_cases hrefreshed
  · exact h
  · exact fun _ _ _ _ => ⟨now, hnow, hfirst⟩
  · exact fun hlive => by cases hlive
  · exact h

end Entry

namespace Schedule

variable {s s' : Schedule} {times : List DateTime}

/-- A moment of an operation is one of the run behind it. -/
theorem Effect.byKind {operation : Operation} {answer : Answer} {times' : List DateTime}
    (h : s.Effect operation answer s') (hsubset : times ⊆ times')
    (hmoment : ∀ now, operation.moment? = some now → now ∈ times')
    (hsound : ∀ e ∈ s.entries, e.Sound) (hs : ∀ e ∈ s.entries, e.ByKind times) :
    ∀ e ∈ s'.entries, e.ByKind times' := by
  have hkept : ∀ e ∈ s.entries, e.ByKind times' := fun e he => (hs e he).mono hsubset
  cases h with
  | refused => exact hkept
  | refusedThen => exact forall_mem_drop _ hkept
  | published _ _ htrigger =>
    refine forall_mem_accept (forall_mem_drop _ hkept) ?_
    exact fun _ _ _ _ => ⟨_, hmoment _ rfl, htrigger⟩
  | cancelled => exact forall_mem_drop _ hkept
  | cancelledAll => exact forall_mem_drop _ hkept
  | fired hmoved =>
    intro e' he'
    obtain ⟨-, e, he, hfires⟩ := hmoved.mem he'
    exact (hkept e he).fires (hsound e he) (hmoment _ rfl) hfires
  | notSnoozed => exact hkept
  | snoozed _ _ _ hs' => exact hs'.forall_mem hkept fun _ _ _ hstatus => absurd rfl hstatus
  | notClosed => exact hkept
  | closedOnly hget hshowing _ hs' =>
    refine hs'.forall_mem hkept fun _ => ?_
    refine (hkept _ (mem_of_get? hget)).offScreen fun hstatus => ?_
    rw [hstatus] at hshowing
    cases hshowing
  | ended _ _ _ hs' => exact hs'.forall_mem hkept fun _ hlive => by cases hlive
  | renewed _ _ hnext hs' =>
    refine hs'.forall_mem hkept fun _ _ _ _ _ => ?_
    exact ⟨_, hmoment _ rfl, ReminderRequest.firstTrigger_of_nextTrigger hnext⟩
  | notSilenced => exact hkept
  | silenced hget halerting hs' =>
    have hbefore := hkept _ (mem_of_get? hget)
    exact hs'.forall_mem hkept fun _ hlive htype _ hleft =>
      hbefore hlive htype (by simp [halerting]) hleft
  | refreshed hmoved =>
    intro e' he'
    obtain ⟨-, e, he, hrefreshed⟩ := hmoved.mem he'
    exact (hkept e he).refreshed (hmoment _ rfl) hrefreshed
  | purged => exact forall_mem_drop _ hkept

end Schedule

/-- Along a run every reminder without a pending snooze waits for a ring by its kind. -/
theorem Run.byKind [LocalTime] {steps : List Step} {s : Schedule} (run : Run {} steps s) :
    ∀ e ∈ s.entries, e.ByKind (moments steps) := by
  induction run with
  | start => exact fun e he => by cases he
  | @step steps s s' operation answer run hperform ih =>
    refine (Schedule.perform_effect hperform).byKind ?_ ?_ run.sound ih
    · rw [moments_append]
      exact List.subset_append_left _ _
    · intro now hnow
      rw [moments_append]
      simp [hnow]

/-! ## Looking anew -/

/-- Whether a reminder that would look for its ring anew waits for a snooze. -/
def Entry.HidesSnooze (e : Entry) (now : DateTime) : Prop :=
  e.LooksAnew now ∧ e.snoozesLeft ≠ e.request.snoozes

namespace Entry

variable {e : Entry} {now : DateTime}

/-- A reminder is as it was if it would find the ring it waits for. -/
theorem refreshed_eq_iff (hsound : e.Sound) :
    e.refreshed now = .ok e ↔
      (e.LooksAnew now → e.request.firstTrigger now = .ok (.ok e.trigger)) := by
  constructor
  · intro h hlooks
    obtain ⟨hwaits, -⟩ | ⟨-, t, hfirst, he⟩ | ⟨-, -, he⟩ | ⟨-, ⟨cause, hfirst⟩, -⟩ :=
      refreshed_cases h
    · exact absurd hlooks hwaits
    · have htrigger : e.trigger = some t := congrArg trigger he
      rw [htrigger]
      exact hfirst
    · have hexpired : e.expired = true := congrArg expired he
      rw [hlooks.1] at hexpired
      cases hexpired
    · have hkind := ReminderRequest.kind_valid hsound.request_valid
      exact absurd hfirst (ReminderKind.trigger_ne_error hkind now cause)
  · intro h
    by_cases hlooks : e.LooksAnew now
    case pos =>
      obtain ⟨t, ht⟩ := Option.isSome_iff_exists.1 (hsound.trigger_isSome hlooks.1)
      have hfirst := h hlooks
      rw [ht] at hfirst
      rw [refreshed, if_neg (looksAnew_iff.1 hlooks), hfirst]
      change Except.ok { e with trigger := some t } = Except.ok e
      rw [← ht]
    case neg => rw [refreshed, if_pos (not_not.1 (mt looksAnew_iff.2 hlooks))]

/-- A ring by kind that is ahead is found anew. -/
theorem ByKind.firstTrigger_eq {times : List DateTime} (h : e.ByKind times) (hsound : e.Sound)
    (hnow : ∀ time ∈ times, time ≤ now) (hlooks : e.LooksAnew now)
    (hleft : e.snoozesLeft = e.request.snoozes) :
    e.request.firstTrigger now = .ok (.ok e.trigger) := by
  obtain ⟨hlive, hactive, htype, hdue⟩ := hlooks
  obtain ⟨time, htime, hfirst⟩ := h hlive htype (by simp [hactive]) hleft
  obtain ⟨t, ht⟩ := Option.isSome_iff_exists.1 (hsound.trigger_isSome hlive)
  rw [ht] at hfirst ⊢
  refine ReminderKind.trigger_eq_of_le htype hfirst (hnow time htime) ?_
  simpa [isDue, hlive, ht] using hdue

end Entry

theorem Schedule.refresh_eq_self_iff {s : Schedule} {now : DateTime} :
    s.refresh now = .ok s ↔ ∀ e ∈ s.entries, e.refreshed now = .ok e := by
  have hsame : (∀ e ∈ s.entries, e.refreshed now = .ok e) ↔
      s.entries.mapM (fun e => e.refreshed now) = .ok s.entries :=
    List.forall₂_same.symm.trans Except.mapM_eq_ok.symm
  rw [hsame]
  constructor
  · intro h
    obtain ⟨entries, hentries, h⟩ := Except.bind_eq_ok.1 h
    have heq : entries = s.entries := congrArg Schedule.entries (Except.ok.inj h)
    rw [← heq] at hentries ⊢
    exact hentries
  · intro h
    exact Except.bind_eq_ok.2 ⟨_, h, rfl⟩

/-- Whether all that hides a snooze is due at the same moment by its kind. -/
def Schedule.FindsSnoozes (s : Schedule) (now : DateTime) : Prop :=
  ∀ e ∈ s.entries, e.HidesSnooze now → e.request.firstTrigger now = .ok (.ok e.trigger)

/-- Looking anew after a run changes nothing if and only if it finds the hidden snoozes. -/
theorem Run.refresh_eq_iff [LocalTime] {steps : List Step} {s : Schedule} {now : DateTime}
    (run : Run {} steps s) (hnow : ∀ time ∈ moments steps, time ≤ now) :
    s.refresh now = .ok s ↔ s.FindsSnoozes now := by
  have hsound := run.sound
  rw [Schedule.refresh_eq_self_iff]
  constructor
  · intro h e he hhides
    exact (Entry.refreshed_eq_iff (hsound e he)).1 (h e he) hhides.1
  · intro h e he
    refine (Entry.refreshed_eq_iff (hsound e he)).2 fun hlooks => ?_
    by_cases hleft : e.snoozesLeft = e.request.snoozes
    · exact (run.byKind e he).firstTrigger_eq (hsound e he) hnow hlooks hleft
    · exact h e he ⟨hlooks, hleft⟩

/-! ## Starting with a stored schedule -/

/-- An engine starts with the stored schedule itself if looking anew changes nothing about
it, and there is nothing in it to drop. -/
theorem Engine.restored_eq_iff {place : Store} {s : Schedule} {now : DateTime}
    (hload : place.load = .ok (some s)) (hover : ∀ e ∈ s.entries, ¬ e.isOver) :
    restored (some place) now = .ok (.ok s) ↔ s.refresh now = .ok s := by
  have hrestored : restored (some place) now =
      (s.refresh now >>= fun s => .ok (.ok s.purge.1)) := by
    rw [restored, hload]
    rfl
  rw [hrestored]
  constructor
  · intro h
    obtain ⟨s', hrefresh, h⟩ := Except.bind_eq_ok.1 h
    have hpurge : s'.purge.1 = s := Except.ok.inj (Except.ok.inj h)
    -- As many entries are left as there were, so none was dropped.
    have hlength : s'.entries.length = s.entries.length := by
      obtain ⟨entries, hentries, rfl⟩ := Except.map_eq_ok.1 hrefresh
      exact (Except.mapM_eq_ok.1 hentries).length_eq.symm
    have hentries : s'.entries.filter (fun e => !e.isOver) = s.entries :=
      congrArg Schedule.entries hpurge
    rw [← hentries, eq_comm, List.length_filter_eq_length_iff, ← List.filter_eq_self] at hlength
    rw [hrefresh, ← hpurge, Schedule.purge, Schedule.drop, hlength]
  · intro h
    refine Except.bind_eq_ok.2 ⟨s, h, ?_⟩
    have hentries : s.entries.filter (fun e => !e.isOver) = s.entries :=
      List.filter_eq_self.2 fun e he => by simp [hover e he]
    rw [Schedule.purge, Schedule.drop, hentries]

/-- A restart after a run whose clock was never set leaves the schedule as it was if and only
if looking anew finds the hidden snoozes. -/
theorem Run.restart_eq_iff [LocalTime] {steps : List Step} {s : Schedule} {now : DateTime}
    (run : Run {} steps s) (hclock : ClockKept steps) (hnow : ∀ time ∈ moments steps, time ≤ now) :
    (s.refresh now = .ok s ↔ s.FindsSnoozes now) ∧
      ∀ place : Store, place.load = .ok (some s) →
        (Engine.restored (some place) now = .ok (.ok s) ↔ s.FindsSnoozes now) := by
  have hrefresh := run.refresh_eq_iff hnow
  refine ⟨hrefresh, fun place hload => ?_⟩
  rw [← hrefresh]
  refine Engine.restored_eq_iff hload fun e he => Entry.not_isOver_iff.2 ?_
  exact run.isShowing_of_expired hclock e he

/-! ## A snooze that is lost -/

/-- A request to ring at one minute past midnight, and every five minutes from then on. -/
def ReminderRequest.afterMidnight : ReminderRequest where
  kind := .alarm 0 1 []
  timeInterval := 300
  notificationId := 7

/-- A request to ring once after two minutes. -/
def ReminderRequest.twoMinutes : ReminderRequest where
  kind := .timer 120
  notificationId := 7

/-- An alarm rings, and leaves the screen to a timer with its notification. -/
def kitchenMidnight : List Operation :=
  [.publish .kitchen .afterMidnight .first, .publish .kitchen .twoMinutes .first,
    .fireDue (.sinceFirst 60), .fireDue (.sinceFirst 120)]

attribute [local instance] LocalTime.universal

theorem kitchenMidnight_loses :
    ∃ steps s, Run {} steps s ∧ ClockKept steps ∧ (moments steps).Pairwise (· ≤ ·) ∧
      (∀ time ∈ moments steps, time ≤ .sinceFirst 180) ∧
      s.entries.map Entry.trigger = [some (.sinceFirst 360), none] ∧
      s.refresh (.sinceFirst 180) ≠ .ok s := by
  have hend : (Schedule.performAll {} kitchenMidnight).map (fun r =>
      (r.1.map Step.operation, moments r.1, r.2.entries.map Entry.trigger,
        (r.2.refresh (.sinceFirst 180)).map fun s => s.entries.map Entry.trigger)) =
      .ok (kitchenMidnight, [.first, .first, .sinceFirst 60, .sinceFirst 120],
        [some (.sinceFirst 360), none], .ok [some (.sinceFirst 86460), none]) := by cbv
  obtain ⟨⟨steps, s⟩, hperform, hs⟩ := Except.map_eq_ok.1 hend
  simp only [Prod.mk.injEq] at hs
  obtain ⟨hoperations, hmoments, htriggers, hrefresh⟩ := hs
  refine ⟨steps, s, Run.start.performAll hperform, fun step hstep now hnow => ?_, ?_, ?_,
    htriggers, fun hkept => ?_⟩
  · have hmem := List.mem_map_of_mem (f := Step.operation) hstep
    simp [hoperations, hnow, kitchenMidnight] at hmem
  · rw [hmoments]
    decide
  · rw [hmoments]
    decide
  · rw [hkept] at hrefresh
    have heq := htriggers.symm.trans (Except.ok.inj hrefresh)
    revert heq
    decide

/-- A run may wait for a ring that a restart does not find. -/
theorem not_refresh_eq :
    ¬ ∀ (steps : List Step) (s : Schedule) (now : DateTime), Run {} steps s → ClockKept steps →
      (moments steps).Pairwise (· ≤ ·) → (∀ time ∈ moments steps, time ≤ now) →
      s.refresh now = .ok s := by
  intro h
  obtain ⟨steps, s, run, hclock, hordered, hnow, -, hlost⟩ := kitchenMidnight_loses
  exact hlost (h steps s _ run hclock hordered hnow)

/-- In the kitchen the alarm hid a snooze, which its kind does not find. -/
theorem kitchenMidnight_hidesSnooze :
    ∃ steps s, Run {} steps s ∧ ClockKept steps ∧
      (∀ time ∈ moments steps, time ≤ .sinceFirst 180) ∧
      ∃ e ∈ s.entries, e.HidesSnooze (.sinceFirst 180) ∧
        e.request.firstTrigger (.sinceFirst 180) ≠ .ok (.ok e.trigger) := by
  obtain ⟨steps, s, run, hclock, -, hnow, -, hlost⟩ := kitchenMidnight_loses
  have hrestart := (run.restart_eq_iff hclock hnow).1
  refine ⟨steps, s, run, hclock, hnow, ?_⟩
  by_contra hnone
  refine hlost (hrestart.2 fun e he hhides => ?_)
  by_contra hfirst
  exact hnone ⟨e, he, hhides, hfirst⟩

end Reminders
