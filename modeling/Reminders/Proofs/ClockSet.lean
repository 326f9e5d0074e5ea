import Reminders.Proofs.Restart
import Reminders.Proofs.Screen

/-!
# Setting the clock

When the clock was set, every reminder that waits looks for its ring anew
(`Schedule.refresh`).  Here it is said what that changes, and what it does not.

It changes nothing about the next batch.  A due reminder does not look anew, and what
looks anew finds a ring ahead.  So the same reminders are due before and after, at the
same places (`refresh_ringing`).  The answer of a batch depends on nothing else
(`fireDue_congr`).  Looking anew once more finds the same rings (`refresh_alerts`).

A reminder that repeats then waits for the ring that its kind finds from now on, with one
exception (`Run.refresh_repeats`).  While it is on screen it does not look anew, and keeps
the ring that was next when it was shown.  That ring may be far away if the clock was set
back behind that moment (`not_refresh_repeats`).
-/

namespace Reminders

/-! ## Looking anew -/

namespace Entry

variable {e e' : Entry} {now : DateTime}

/-- A due reminder does not look anew. -/
theorem refreshed_eq_of_isDue (h : e.refreshed now = .ok e') (hdue : e.isDue now) : e' = e := by
  obtain ⟨-, rfl⟩ | ⟨⟨-, -, -, hahead⟩, -⟩ | ⟨⟨-, -, -, hahead⟩, -⟩ | ⟨-, -, rfl⟩ :=
    refreshed_cases h
  · rfl
  · exact absurd hdue hahead
  · exact absurd hdue hahead
  · rfl

/-- No reminder becomes due by looking anew. -/
theorem refreshed_isDue (h : e.refreshed now = .ok e') : e'.isDue now = e.isDue now := by
  obtain ⟨-, rfl⟩ | ⟨⟨-, -, htype, hahead⟩, t, hfirst, rfl⟩ | ⟨⟨-, -, -, hahead⟩, -, rfl⟩ |
    ⟨-, -, rfl⟩ := refreshed_cases h
  · rfl
  · have hlt : now < t := ReminderKind.trigger_lt htype hfirst
    rw [Bool.eq_false_iff.2 hahead]
    simp [isDue, DateTime.not_le_iff_lt.2 hlt]
  · rw [Bool.eq_false_iff.2 hahead]
    rfl
  · rfl

/-- What looked anew finds the same once more. -/
theorem refreshed_again (h : e.refreshed now = .ok e') : e'.refreshed now = .ok e' := by
  obtain ⟨-, rfl⟩ | ⟨-, t, hfirst, rfl⟩ | ⟨-, -, rfl⟩ | ⟨-, -, rfl⟩ := refreshed_cases h
  · exact h
  · by_cases hlooks : LooksAnew { e with trigger := some t } now
    case pos =>
      rw [refreshed, if_neg (looksAnew_iff.1 hlooks), hfirst]
      rfl
    case neg => rw [refreshed, if_pos (not_not.1 (mt looksAnew_iff.2 hlooks))]
  · rfl
  · exact h

end Entry

/-! ## The next batch -/

namespace Schedule

variable {s s' : Schedule} {now : DateTime}

theorem filter_zipIdx_congr {p : Entry → Bool} {xs ys : List Entry}
    (h : List.Forall₂ (fun x y => p y = p x ∧ (p x → y = x)) xs ys) (start : Nat) :
    (ys.zipIdx start).filter (fun e => p e.1) = (xs.zipIdx start).filter fun e => p e.1 := by
  induction h generalizing start with
  | nil => rfl
  | @cons x y xs ys hhead _ ih =>
    obtain ⟨hsame, heq⟩ := hhead
    rw [List.zipIdx_cons, List.zipIdx_cons, List.filter_cons, List.filter_cons, ih, hsame]
    split
    case isTrue hx => rw [heq hx]
    case isFalse => rfl

theorem refresh_moved (h : s.refresh now = .ok s') :
    s.Moved (fun e e' => e.refreshed now = .ok e') (fun _ => true) s' := by
  cases refresh_effect h .refreshed with
  | refreshed hmoved => exact hmoved

/-- The same reminders ring after looking anew, at the same places. -/
theorem refresh_ringing (h : s.refresh now = .ok s') : s'.ringing now = s.ringing now := by
  obtain ⟨-, moved, hmoved, hentries⟩ := refresh_moved h
  rw [List.filter_eq_self.2 fun _ _ => rfl] at hentries
  have hdue := hmoved.imp fun e e' he =>
    And.intro (Entry.refreshed_isDue he) (Entry.refreshed_eq_of_isDue he)
  rw [ringing, ringing, hentries, filter_zipIdx_congr hdue]

/-- A batch comes to its end whenever another one does that lets the same reminders ring,
and with the same alerts. -/
theorem fireDue_of_ringing [LocalTime] (h : s'.ringing now = s.ringing now) {alerts : List Alert}
    (hfire : (s.fireDue now).2 = .ok alerts) : (s'.fireDue now).2 = .ok alerts := by
  obtain ⟨-, halerts, hrungs⟩ := fireDue_eq (Prod.ext rfl hfire)
  have hrungs' : ∀ e ∈ s'.entries, e.isDue now → (e.rung now).2 = .ok () := by
    intro e he hdue
    obtain ⟨place, hplace⟩ := List.mem_iff_getElem?.1 he
    have hring : (e, place) ∈ s'.ringing now := mem_ringing.2 ⟨hplace, hdue⟩
    rw [h] at hring
    exact hrungs _ hring
  obtain ⟨behind, alerts', hfire'⟩ := exists_fireDue hrungs'
  obtain ⟨-, halerts', -⟩ := fireDue_eq hfire'
  rw [hfire', halerts, halerts', h]

/-- What a batch answers depends on the reminders that ring in it. -/
theorem fireDue_congr [LocalTime] (h : s'.ringing now = s.ringing now) :
    (s'.fireDue now).2 = (s.fireDue now).2 := by
  cases hfire : (s.fireDue now).2 with
  | ok alerts => exact fireDue_of_ringing h hfire
  | error =>
    cases hfire' : (s'.fireDue now).2 with
    | ok alerts =>
      rw [fireDue_of_ringing h.symm hfire'] at hfire
      cases hfire
    | error => rfl

/-- Looking anew neither swallows nor adds an alert, and changes nothing the second time. -/
theorem refresh_alerts [LocalTime] (h : s.refresh now = .ok s') :
    (s'.fireDue now).2 = (s.fireDue now).2 ∧ s'.refresh now = .ok s' := by
  refine ⟨fireDue_congr (refresh_ringing h), refresh_eq_self_iff.2 fun e' he' => ?_⟩
  obtain ⟨-, e, -, he⟩ := (refresh_moved h).mem he'
  exact Entry.refreshed_again he

/-- A kettle that is due, and an alarm that was found before the clock was set back. -/
def setBack : Schedule where
  lastId := 2
  entries := [.kettle 1,
    { Entry.kettle 2 with
      request := .afterMidnight, trigger := some (.sinceFirst 86460), snoozesLeft := 3 }]

attribute [local instance] LocalTime.universal

/-- The alarm looks anew and rings on the same day, but not yet in the next batch. -/
theorem refresh_alerts_setBack :
    ∃ s, setBack.refresh .first = .ok s ∧
      s.entries.map Entry.trigger = [some .first, some (.sinceFirst 60)] ∧
      (s.fireDue .first).2 = .ok [((Entry.kettle 1).shownAt .first).alert] ∧
      s.refresh .first = .ok s := by
  have hrefresh : (setBack.refresh .first).map (fun s => s.entries.map Entry.trigger) =
      .ok [some .first, some (.sinceFirst 60)] := by cbv
  obtain ⟨s, hs, htriggers⟩ := Except.map_eq_ok.1 hrefresh
  obtain ⟨halerts, hagain⟩ := refresh_alerts hs
  refine ⟨s, hs, htriggers, ?_, hagain⟩
  rw [halerts]
  cbv

end Schedule

/-! ## Reminders that repeat -/

namespace ReminderRequest

variable {r : ReminderRequest} {before now t : DateTime}

/-- A further ring is one by a kind that repeats. -/
theorem nextTrigger_eq_some_iff :
    r.nextTrigger now = .ok (.ok (some t)) ↔
      r.kind.repeats ∧ r.kind.trigger now = .ok (.ok (some t)) := by
  rw [nextTrigger]
  split
  case isTrue hrepeats => simp [hrepeats]
  case isFalse hrepeats => simp [hrepeats]

/-- A further ring is found again by whoever asks later, as long as it is ahead. -/
theorem nextTrigger_eq_of_le (h : r.nextTrigger before = .ok (.ok (some t)))
    (hle : before ≤ now) (hlt : now < t) : r.nextTrigger now = .ok (.ok (some t)) := by
  obtain ⟨hrepeats, hbefore⟩ := nextTrigger_eq_some_iff.1 h
  have htype := ReminderKind.type_ne_timer_of_repeats hrepeats
  exact nextTrigger_eq_some_iff.2
    ⟨hrepeats, ReminderKind.trigger_eq_of_le htype hbefore hle hlt⟩

end ReminderRequest

/-- Whether a reminder on screen waits for the ring that its kind found when it was shown,
unless it also rings between two rings of its kind. -/
def Entry.AwaitsNext (e : Entry) : Prop :=
  e.status.isShowing → e.expired = false → e.request.interval = 0 →
    ∃ shown, e.lastShown = some shown ∧ e.request.nextTrigger shown = .ok (.ok e.trigger)

namespace Entry

variable {e e' r : Entry} {now next : DateTime}

theorem awaitsNext_of_rung (h : e.rung now = (r, .ok ())) : r.AwaitsNext := by
  intro _ hlive hinterval
  obtain ⟨-, rfl⟩ | ⟨-, ⟨hpositive, -⟩, rfl⟩ | ⟨-, -, found, hfound, rfl⟩ := rung_cases h
  · cases hlive
  · have hzero : e.request.interval = 0 := hinterval
    rw [hzero] at hpositive
    exact absurd hpositive (Nat.lt_irrefl 0)
  · obtain _ | _ | t := found
    · cases hlive
    · cases hlive
    · exact ⟨now, rfl, hfound⟩

theorem AwaitsNext.fires (h : e.AwaitsNext) (hfires : e.Fires now e') : e'.AwaitsNext := by
  cases hfires with
  | kept => exact h
  | covered => exact fun hshowing => by cases hshowing
  | rang _ hrung => exact awaitsNext_of_rung hrung
  | hidden => exact fun hshowing => by cases hshowing

/-- A set clock leaves a reminder on screen as it is. -/
theorem refreshed_eq_of_isShowing (h : e.refreshed now = .ok e') (hshowing : e'.status.isShowing) :
    e' = e := by
  obtain ⟨-, rfl⟩ | ⟨⟨-, hactive, -⟩, t, -, rfl⟩ | ⟨⟨-, hactive, -⟩, -, rfl⟩ | ⟨-, -, rfl⟩ :=
    refreshed_cases h
  · rfl
  · rw [hactive] at hshowing
    cases hshowing
  · rw [hactive] at hshowing
    cases hshowing
  · rfl

/-- A reminder that looked anew, or was on screen, waits for the ring that its kind finds
from now on.  It is due instead, or it was shown at a moment that is ahead. -/
theorem AwaitsNext.refreshed (h : e.AwaitsNext) (hsound : e.Sound)
    (hrefreshed : e.refreshed now = .ok e') (hlive : e'.expired = false)
    (hinterval : e'.request.interval = 0) (hstatus : e'.status ≠ .snoozed)
    (hnext : e'.request.nextTrigger now = .ok (.ok (some next))) :
    e'.isDue now ∨ e'.trigger = some next ∨
      (e'.status.isShowing ∧ ∃ shown, e'.lastShown = some shown ∧ now < shown) := by
  have hfirst := ReminderRequest.firstTrigger_of_nextTrigger hnext
  obtain ⟨hlooks, rfl⟩ | ⟨-, t, ht, rfl⟩ | ⟨-, -, rfl⟩ | ⟨-, ⟨cause, hcause⟩, rfl⟩ :=
    refreshed_cases hrefreshed
  · by_cases hdue : e'.isDue now
    case pos => exact .inl hdue
    case neg =>
      -- Neither due nor a timer, so it can only be the screen that kept it from looking.
      have hshowing : e'.status.isShowing := by
        obtain ⟨hrepeats, -⟩ := ReminderRequest.nextTrigger_eq_some_iff.1 hnext
        have htype : e'.request.type ≠ .timer := ReminderKind.type_ne_timer_of_repeats hrepeats
        cases hstatus' : e'.status with
        | active => exact absurd ⟨hlive, hstatus', htype, hdue⟩ hlooks
        | showing alerting => rfl
        | snoozed => exact absurd hstatus' hstatus
      obtain ⟨shown, hshown, hawaited⟩ := h hshowing hlive hinterval
      obtain ⟨t, ht⟩ := Option.isSome_iff_exists.1 (hsound.trigger_isSome hlive)
      have hahead : now < t := by
        rw [← DateTime.not_le_iff_lt]
        simpa [isDue, hlive, ht] using hdue
      by_cases hle : shown ≤ now
      case pos =>
        rw [ht] at hawaited ⊢
        have hsame := ReminderRequest.nextTrigger_eq_of_le hawaited hle hahead
        rw [hnext] at hsame
        cases hsame
        exact .inr (.inl rfl)
      case neg =>
        exact .inr (.inr ⟨hshowing, shown, hshown, DateTime.not_le_iff_lt.1 hle⟩)
  · rw [ht] at hfirst
    cases hfirst
    exact .inr (.inl rfl)
  · cases hlive
  · rw [hcause] at hfirst
    cases hfirst

end Entry

/-- The invariant of an operation.  Only ringing puts a reminder on screen. -/
theorem Schedule.Effect.awaitsNext {s s' : Schedule} {operation : Operation} {answer : Answer}
    (h : s.Effect operation answer s') (hs : ∀ e ∈ s.entries, e.AwaitsNext) :
    ∀ e ∈ s'.entries, e.AwaitsNext := by
  intro x hx
  by_cases hfire : ∃ now, operation = .fireDue now
  case pos =>
    obtain ⟨now, rfl⟩ := hfire
    cases h with
    | fired hmoved =>
      obtain ⟨-, e, he, hfires⟩ := hmoved.mem hx
      exact (hs e he).fires hfires
  case neg =>
    intro hshowing
    have hquiet : ∀ now, operation ≠ .fireDue now := fun now heq => hfire ⟨now, heq⟩
    obtain hbefore | ⟨id, e, -, hget, halerting, rfl⟩ := h.of_isShowing hquiet hx hshowing
    · exact hs x hbefore hshowing
    · exact hs e (mem_of_get? hget) (by rw [halerting]; rfl)

/-- Along a run every reminder on screen waits for the ring that its kind found when it was
shown, unless it also rings in between. -/
theorem Run.awaitsNext [LocalTime] {steps : List Step} {s : Schedule} (run : Run {} steps s) :
    ∀ e ∈ s.entries, e.AwaitsNext := by
  induction run with
  | start => exact fun e he => by cases he
  | step _ hperform ih => exact (Schedule.perform_effect hperform).awaitsNext ih

/-- After a run and setting the clock, a reminder that repeats, rings only then and was not
snoozed is due, or it waits for its next ring from now on, unless it is on screen and was shown
at a moment that is ahead.  One that is was not touched, and waits for its next ring from that
moment on. -/
theorem Run.refresh_repeats [LocalTime] {steps : List Step} {s s' : Schedule} {now next : DateTime}
    {e : Entry} (run : Run {} steps s) (h : s.refresh now = .ok s') (he : e ∈ s'.entries)
    (hlive : e.expired = false) (hinterval : e.request.timeInterval = 0)
    (hstatus : e.status ≠ .snoozed)
    (hnext : e.request.nextTrigger now = .ok (.ok (some next))) :
    (e.isDue now ∨ e.trigger = some next ∨
      (e.status.isShowing ∧ ∃ shown, e.lastShown = some shown ∧ now < shown)) ∧
    ∀ shown, e.status.isShowing → e.lastShown = some shown → now < shown →
      e ∈ s.entries ∧ e.request.nextTrigger shown = .ok (.ok e.trigger) := by
  obtain ⟨-, e₀, he₀, hrefreshed⟩ := (Schedule.refresh_moved h).mem he
  have hzero : e.request.interval = 0 := if_pos hinterval
  refine ⟨(run.awaitsNext e₀ he₀).refreshed (run.sound e₀ he₀) hrefreshed hlive hzero
    hstatus hnext, fun shown hshowing hshown _ => ?_⟩
  obtain rfl := Entry.refreshed_eq_of_isShowing hrefreshed hshowing
  obtain ⟨moment, hmoment, hnextFrom⟩ := run.awaitsNext e he₀ hshowing hlive hzero
  rw [hshown] at hmoment
  cases hmoment
  exact ⟨he₀, hnextFrom⟩

/-- A request to ring at one minute past midnight every day. -/
def ReminderRequest.everyMidnight : ReminderRequest where
  kind := .alarm 0 1 [1, 2, 3, 4, 5, 6, 7]
  notificationId := 7

attribute [local instance] LocalTime.universal

/-- An alarm that was published on the second day rings on the first one, once the clock was
set back.  One that is on screen since the first day waits for the second one. -/
theorem Run.refresh_repeats_everyMidnight :
    ∃ steps s s', Run {} steps s ∧ s.refresh .first = .ok s' ∧
      (∃ e ∈ s'.entries, e.status = .active ∧ e.trigger = some (.sinceFirst 60)) ∧
      ∃ e ∈ s'.entries, e.status = .showing true ∧ e ∈ s.entries ∧
        e.request.nextTrigger (.sinceFirst 60) = .ok (.ok e.trigger) := by
  have hend : (Schedule.performAll {} [.publish .kitchen .everyMidnight .first,
      .fireDue (.sinceFirst 60), .publish .kitchen .everyMidnight (.sinceFirst 86400)]).map
      (fun r => (r.2.refresh .first).map fun s => s.entries.map fun e =>
        (e.expired, e.request.timeInterval, e.status, e.isDue .first,
          e.request.nextTrigger .first, e.lastShown)) =
      .ok (.ok [(false, 0, .showing true, false, .ok (.ok (some (.sinceFirst 60))),
          some (.sinceFirst 60)),
        (false, 0, .active, false, .ok (.ok (some (.sinceFirst 60))), none)]) := by cbv
  obtain ⟨⟨steps, s⟩, hperform, hs⟩ := Except.map_eq_ok.1 hend
  obtain ⟨s', hrefresh, hs'⟩ := Except.map_eq_ok.1 hs
  have run := Run.start.performAll hperform
  refine ⟨steps, s, s', run, hrefresh, ?_, ?_⟩
  · obtain ⟨e, he, hsays⟩ := List.mem_map.1 (hs' ▸ List.mem_cons_of_mem _ List.mem_cons_self)
    simp only [Prod.mk.injEq] at hsays
    obtain ⟨hlive, hinterval, hstatus, hdue, hnext, -⟩ := hsays
    have hcases := (run.refresh_repeats hrefresh he hlive hinterval (by simp [hstatus]) hnext).1
    exact ⟨e, he, hstatus, by simpa [hdue, hstatus, ReminderStatus.isShowing] using hcases⟩
  · obtain ⟨e, he, hsays⟩ := List.mem_map.1 (hs' ▸ List.mem_cons_self)
    simp only [Prod.mk.injEq] at hsays
    obtain ⟨hlive, hinterval, hstatus, -, hnext, hshown⟩ := hsays
    have hkept := (run.refresh_repeats hrefresh he hlive hinterval (by simp [hstatus]) hnext).2
    exact ⟨e, he, hstatus, hkept _ (by rw [hstatus]; rfl) hshown (by decide +kernel)⟩

/-- An alarm on screen, which rang before the clock was set back, waits past its next ring. -/
theorem not_refresh_repeats :
    ¬ ∀ (steps : List Step) (s s' : Schedule) (now next : DateTime), Run {} steps s →
      s.refresh now = .ok s' → ∀ e ∈ s'.entries, e.expired = false →
        e.request.type ≠ .timer → e.request.timeInterval = 0 → e.status ≠ .snoozed →
          e.request.nextTrigger now = .ok (.ok (some next)) →
            e.isDue now ∨ e.trigger = some next := by
  intro h
  have hend : (Schedule.performAll {}
      [.publish .kitchen .everyMidnight .first, .fireDue (.sinceFirst 60)]).map
      (fun r => (r.2.refresh .first).map fun s => s.entries.map fun e =>
        (e.request, e.expired, e.status, e.trigger)) =
      .ok (.ok [(.everyMidnight, false, .showing true, some (.sinceFirst 86460))]) := by cbv
  obtain ⟨⟨steps, s⟩, hperform, hs⟩ := Except.map_eq_ok.1 hend
  obtain ⟨s', hrefresh, hs'⟩ := Except.map_eq_ok.1 hs
  obtain ⟨e, hentries, he⟩ := List.map_eq_singleton_iff.1 hs'
  simp only [Prod.mk.injEq] at he
  obtain ⟨hrequest, hlive, hstatus, htrigger⟩ := he
  have hnext : e.request.nextTrigger .first = .ok (.ok (some (.sinceFirst 60))) := by
    rw [hrequest]
    cbv
  have hcases := h steps s s' .first _ (Run.start.performAll hperform) hrefresh e
    (by simp [hentries]) hlive (by rw [hrequest]; decide) (by rw [hrequest]; rfl)
    (by simp [hstatus]) hnext
  rw [Entry.isDue, hlive, htrigger] at hcases
  revert hcases
  decide

end Reminders
