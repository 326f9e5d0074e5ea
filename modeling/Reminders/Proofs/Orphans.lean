import Reminders.Proofs.Display
import Reminders.Proofs.Survival

/-!
# Orphaned notifications

A notification of a reminder is *presented* by the reminders under its key that are on
screen or snoozed.  If nobody presents it, it is an orphan: no call of the engine takes
it away again, unless another reminder with its key comes along.

Snoozing leaves the notification where it is, but cancelling dismisses only what is on
screen.  So a reminder that is cancelled while it is snoozed leaves an orphan
(`not_noOrphans`).

`Run.noOrphans_iff` says that there is no other way.  A run is free of orphans if and
only if no step of it *abandons* a notification, which means that it cancels every
reminder that presents the notification and dismisses none of them.  The ids may have
come round, and nothing is assumed of permissions or slots.
-/

namespace Reminders

/-- Whether the notification of the reminder may be there. -/
def ReminderStatus.isPresented : ReminderStatus → Bool
  | .showing _ | .snoozed => true
  | .active => false

theorem ReminderStatus.isPresented_of_isShowing {status : ReminderStatus} (h : status.isShowing) :
    status.isPresented := by
  cases status with
  | active => cases h
  | showing => rfl
  | snoozed => rfl

/-- What is on screen or snoozed is not over. -/
theorem Entry.Sound.not_isOver {x : Entry} (h : x.Sound) (hpresented : x.status.isPresented) :
    ¬ x.isOver := by
  rw [Entry.not_isOver_iff]
  intro hexpired
  cases hstatus : x.status with
  | active =>
    rw [hstatus] at hpresented
    cases hpresented
  | showing => rfl
  | snoozed =>
    rw [h.snoozed_live hstatus] at hexpired
    cases hexpired

/-- A reminder is not covered by rings under other keys. -/
theorem Entry.coveredByAny_of_key_ne {e : Entry} {rings : List Entry}
    (h : ∀ r ∈ rings, r.key ≠ e.key) : e.coveredByAny rings = e := by
  have hcovers : rings.any (·.covers e) = false := by
    rw [List.any_eq_false]
    intro r hr hcovers
    exact h r hr (sharesNotification_iff.1 (covers_iff.1 hcovers).2).symm
  simp [coveredByAny, hcovers]

namespace Schedule

variable {s s' : Schedule} {key : NotificationKey} {id : Int32}

/-- Whether some reminder presents the notification under a key. -/
def Presents (s : Schedule) (key : NotificationKey) : Prop :=
  ∃ x ∈ s.entries, x.status.isPresented ∧ x.key = key

/-! ## What keeps presenting -/

theorem Presents.purge (h : s.Presents key) (hsound : ∀ x ∈ s.entries, x.Sound) :
    s.purge.1.Presents key := by
  obtain ⟨x, hx, hpresented, hkey⟩ := h
  refine ⟨x, List.mem_filter.2 ⟨hx, ?_⟩, hpresented, hkey⟩
  simp [(hsound x hx).not_isOver hpresented]

theorem Presents.publish {bundle : Bundle} {request : ReminderRequest} {now : DateTime}
    {result : Except Error Int32} (h : s.Presents key) (hsound : ∀ x ∈ s.entries, x.Sound)
    (hpublish : s.publish bundle request now = (s', .ok result)) : s'.Presents key := by
  cases publish_effect hpublish with
  | refused => exact h
  | refusedThen => exact h.purge hsound
  | published =>
    obtain ⟨x, hx, hpresented, hkey⟩ := h.purge hsound
    exact ⟨x, List.mem_append_left _ hx, hpresented, hkey⟩

/-- A changed reminder takes the place of the one that presented the notification. -/
theorem Presents.replaced {e changed : Entry} {keep : Entry → Bool} (h : s.Presents key)
    (hreplaced : s.Replaced id e changed keep s')
    (hkeep : ∀ x ∈ s.entries, x.status.isPresented → x.key = key → keep x)
    (hchanged : e.key = key → changed.status.isPresented ∧ changed.key = key ∧ keep changed) :
    s'.Presents key := by
  obtain ⟨x, hx, hpresented, hkey⟩ := h
  obtain ⟨x', rfl | ⟨rfl, rfl⟩, hmem⟩ := hreplaced.moved.of_mem hx
  · exact ⟨x', hmem (hkeep x' hx hpresented hkey), hpresented, hkey⟩
  · obtain ⟨hpresented', hkey', hkept⟩ := hchanged hkey
    exact ⟨x', hmem hkept, hpresented', hkey'⟩

/-- The last of the rings under a key. -/
theorem exists_last_ring {rings : List (Entry × Nat)} (h : ∃ r ∈ rings, r.1.key = key) :
    ∃ before r behind, rings = before ++ r :: behind ∧ r.1.key = key ∧
      ∀ q ∈ behind, q.1.key ≠ key := by
  induction rings with
  | nil => simp at h
  | cons r rest ih =>
    by_cases hrest : ∃ q ∈ rest, q.1.key = key
    · obtain ⟨before, q, behind, rfl, hq, hbehind⟩ := ih hrest
      exact ⟨r :: before, q, behind, rfl, hq, hbehind⟩
    · have hbehind : ∀ q ∈ rest, q.1.key ≠ key := fun q hq hkey => hrest ⟨q, hq, hkey⟩
      obtain ⟨q, hq, hkey⟩ := h
      rcases List.mem_cons.1 hq with rfl | hq
      · exact ⟨[], q, rest, rfl, hkey, hbehind⟩
      · exact absurd hkey (hbehind q hq)

/-- Under each key the reminder that rings last stays on screen. -/
theorem presents_fireDue [LocalTime] {now : DateTime} {alerts : List Alert}
    (h : s.fireDue now = (s', .ok alerts)) (hsound : ∀ x ∈ s.entries, x.Sound)
    (hkey : s.Presents key ∨ ∃ a ∈ alerts, a.key = key) : s'.Presents key := by
  obtain ⟨hs', rfl, -⟩ := fireDue_eq h
  have hmem : ∀ {place : Nat} {x : Entry}, s.entries[place]? = some x →
      ¬ ((s.ringing now).foldl (Entry.afterRing now place) x).isOver →
      (s.ringing now).foldl (Entry.afterRing now place) x ∈ s'.entries := by
    intro place x hget hover
    rw [hs', List.mem_filter]
    refine ⟨List.mem_of_getElem? (i := place) ?_, by simp [hover]⟩
    rw [List.getElem?_mapIdx, hget, Option.map_some]
  by_cases hring : ∃ r ∈ s.ringing now, r.1.key = key
  case pos =>
    obtain ⟨before, ⟨x, place⟩, behind, hsplit, hxkey, hbehind⟩ := exists_last_ring hring
    have hringing : (x, place) ∈ s.ringing now := by simp [hsplit]
    obtain ⟨hget, -⟩ := mem_ringing.1 hringing
    have hplaces := s.ringing_places_nodup now
    have hfold : (s.ringing now).foldl (Entry.afterRing now place) x = (x.rung now).1 := by
      rw [hsplit] at hplaces ⊢
      rw [Entry.foldl_afterRing_of_mem hplaces, Entry.coveredByAny_of_key_ne]
      intro r hr
      obtain ⟨q, hq, rfl⟩ := List.mem_map.1 hr
      rw [Entry.key_congr (x.rung_publication now), hxkey]
      exact hbehind q hq
    have hstatus : (x.rung now).1.status = .showing true := x.rung_status now
    have hover : ¬ (x.rung now).1.isOver := by
      simp [Entry.isOver, ReminderStatus.isShowing]
    refine ⟨_, hmem hget (hfold ▸ hover), ?_, ?_⟩
    · rw [hfold, hstatus]
      rfl
    · rw [hfold, Entry.key_congr (x.rung_publication now), hxkey]
  case neg =>
    have hnone : ∀ r ∈ s.ringing now, r.1.key ≠ key := fun r hr hr' => hring ⟨r, hr, hr'⟩
    obtain ⟨x, hx, hpresented, hxkey⟩ | ⟨a, ha, hakey⟩ := hkey
    · obtain ⟨place, hplace⟩ := List.getElem?_of_mem hx
      have hdue : ¬ x.isDue now := fun hdue => hnone (x, place) (mem_ringing.2 ⟨hplace, hdue⟩) hxkey
      have hfold : (s.ringing now).foldl (Entry.afterRing now place) x = x := by
        rw [afterRings_of_not_due hplace hdue, Entry.coveredByAny_of_key_ne]
        intro r hr
        obtain ⟨q, hq, rfl⟩ := List.mem_map.1 hr
        rw [hxkey]
        exact hnone q hq
      refine ⟨x, ?_, hpresented, hxkey⟩
      have hmem' := hmem hplace
      rw [hfold] at hmem'
      exact hmem' ((hsound x hx).not_isOver hpresented)
    · obtain ⟨r, hr, rfl⟩ := List.mem_map.1 ha
      exact absurd hakey (hnone r hr)

end Schedule

namespace Engine

variable {e e' : Engine} {key : NotificationKey}

theorem presents_silenceAll [LocalTime] {s s' : Schedule} {ids : List Int32}
    {silenced : List (Bundle × NotificationRequest)} (h : silenceAll s ids = (s', silenced))
    (hkey : s.Presents key ∨ ∃ p ∈ silenced, keyOfShown p = key) : s'.Presents key := by
  induction ids generalizing s silenced with
  | nil =>
    cases h
    simpa using hkey
  | cons id rest ih =>
    obtain hrest | ⟨y, others, hget, halerting, hs₁, rfl, hrest⟩ := silenceAll_cons h
    · exact ih hrest hkey
    · refine ih hrest ?_
      have hafter : s.Presents key → (s.silence id).1.Presents key := fun hpresents =>
        hpresents.replaced hs₁ (fun _ _ _ _ => rfl) fun hykey => ⟨rfl, hykey, rfl⟩
      obtain hpresents | ⟨p, hp, hpkey⟩ := hkey
      · exact .inl (hafter hpresents)
      · rcases List.mem_cons.1 hp with rfl | hp
        · refine .inl (hafter ⟨y, Schedule.mem_of_get? hget, ?_, hpkey⟩)
          rw [halerting]
          rfl
        · exact .inr ⟨p, hp, hpkey⟩

/-! ## Orphans -/

/-- Whether every notification of a reminder is presented by one. -/
def NoOrphans (e : Engine) : Prop :=
  ∀ key : NotificationKey, key.label = Entry.label → (e.service.active.get? key).isSome →
    e.schedule.Presents key

/-- Whether others published no notification of reminders, if it is a step of theirs. -/
def Step.AddsNoReminders (step : Step) : Prop :=
  ∀ service, step.call = .others service → ∀ key : NotificationKey, key.label = Entry.label →
    (service.active.get? key).isSome → (step.before.service.active.get? key).isSome

/-- Whether a step abandons a notification: it cancels every reminder that presents it, and
dismisses none of those under its key. -/
def Step.Abandons (step : Step) : Prop :=
  ∃ key, (step.before.service.active.get? key).isSome ∧ step.before.schedule.Presents key ∧
    (∀ x ∈ step.before.schedule.entries, x.status.isPresented → x.key = key →
      step.call.cancels x) ∧
    ∀ x ∈ step.before.dismissedBy step.call, x.key ≠ key

variable {call : Call} {reply : Reply}

theorem Step.Abandons.exists_cancels (h : Step.Abandons ⟨e, call, reply, e'⟩) :
    ∃ x, call.cancels x := by
  obtain ⟨_, -, ⟨x, hx, hpresented, hkey⟩, hcancels, -⟩ := h
  exact ⟨x, hcancels x hx hpresented hkey⟩

/-- Cancelling leaves no orphan if it abandons nothing. -/
theorem NoOrphans.cancelled (h : e.NoOrphans)
    (hschedule : e'.schedule = (e.schedule.drop call.cancels).1)
    (hdrops : e.service.Drops ((e.dismissedBy call).map Entry.key) e'.service)
    (hkept : ¬ Step.Abandons ⟨e, call, reply, e'⟩) : e'.NoOrphans := by
  intro key hlabel hsome
  obtain ⟨hdismissed, hbefore⟩ := hdrops.isSome_iff.1 hsome
  have hpresents := h key hlabel hbefore
  by_contra horphan
  refine hkept ⟨key, hbefore, hpresents, fun x hx hpresented hkey => ?_, fun x hx hkey => ?_⟩
  · by_contra hcancels
    refine horphan ⟨x, ?_, hpresented, hkey⟩
    rw [hschedule, Schedule.drop, List.mem_filter]
    exact ⟨hx, by simp [hcancels]⟩
  · exact hdismissed (hkey ▸ List.mem_map_of_mem hx)

/-- What a call abandons is an orphan. -/
theorem Step.Abandons.leavesOrphan (h : Step.Abandons ⟨e, call, reply, e'⟩)
    (hschedule : e'.schedule = (e.schedule.drop call.cancels).1)
    (hdrops : e.service.Drops ((e.dismissedBy call).map Entry.key) e'.service) :
    ¬ e'.NoOrphans := by
  obtain ⟨key, hsome, ⟨x, -, -, hkey⟩, hcancels, hdismissed⟩ := h
  intro hnone
  have hafter : (e'.service.active.get? key).isSome := by
    refine hdrops.isSome_iff.2 ⟨fun hmem => ?_, hsome⟩
    obtain ⟨y, hy, hykey⟩ := List.mem_map.1 hmem
    exact hdismissed y hy hykey
  obtain ⟨y, hy, hpresented, hykey⟩ := hnone key (hkey ▸ rfl) hafter
  rw [hschedule, Schedule.drop, List.mem_filter] at hy
  simp [hcancels y hy.1 hpresented hykey] at hy

theorem Effect.leavesOrphan [LocalTime] (heffect : e.Effect call reply e')
    (h : Step.Abandons ⟨e, call, reply, e'⟩) : ¬ e'.NoOrphans := by
  obtain ⟨x, hx⟩ := h.exists_cancels
  cases heffect with
  | kept hnone => simp [hnone] at hx
  | published => cases hx
  | cancelled hschedule hdrops => exact h.leavesOrphan hschedule hdrops
  | cancelledAll hschedule hdrops => exact h.leavesOrphan hschedule hdrops
  | snoozed => cases hx
  | closed => cases hx
  | closeFailed => cases hx
  | ticked => cases hx
  | others => cases hx

theorem NoOrphans.step [LocalTime] (h : e.NoOrphans) (hsound : ∀ x ∈ e.schedule.entries, x.Sound)
    (heffect : e.Effect call reply e') (hothers : Step.AddsNoReminders ⟨e, call, reply, e'⟩)
    (hkept : ¬ Step.Abandons ⟨e, call, reply, e'⟩) : e'.NoOrphans := by
  cases heffect with
  | kept _ hschedule hactive _ =>
    intro key hlabel hsome
    rw [hschedule]
    rw [hactive] at hsome
    exact h key hlabel hsome
  | published hpublish hservice =>
    intro key hlabel hsome
    rw [hservice] at hsome
    exact (h key hlabel hsome).publish hsound hpublish
  | @cancelled caller id _ _ hschedule hdrops =>
    have hdrop : e'.schedule = (e.schedule.drop (Call.cancel caller id).cancels).1 := hschedule
    exact h.cancelled hdrop hdrops hkept
  | @cancelledAll caller _ _ hschedule hdrops =>
    have hdrop : e'.schedule = (e.schedule.drop (Call.cancelAll caller).cancels).1 := hschedule
    exact h.cancelled hdrop hdrops hkept
  | @snoozed _ _ _ _ x _ howned hsnooze hpublish =>
    obtain ⟨hget, howned⟩ := owned?_eq_some.1 howned
    obtain ⟨hshowing, hkey, t, hreplaced⟩ := Schedule.snooze_onScreen hget hsnooze
    intro key hlabel hsome
    have hbefore : e.schedule.Presents key := by
      by_cases hxkey : key = x.key
      · exact ⟨x, Schedule.mem_of_get? hget, ReminderStatus.isPresented_of_isShowing hshowing,
          hxkey.symm⟩
      · rw [Service.publish_get?_of_ne hpublish (by rw [hkey _ howned]; exact hxkey)] at hsome
        exact h key hlabel hsome
    exact hbefore.replaced hreplaced (fun _ _ _ _ => rfl) fun hykey => ⟨rfl, hykey, rfl⟩
  | closed howned hclose hdrops =>
    have hget := (owned?_eq_some.1 howned).1
    obtain ⟨-, changed, -, hreplaced⟩ := Schedule.close_onScreen hget hclose
    intro key hlabel hsome
    obtain ⟨hkey, hbefore⟩ := hdrops.isSome_iff.1 hsome
    rw [List.mem_singleton] at hkey
    refine (h key hlabel hbefore).replaced hreplaced (fun x hx hpresented _ => ?_) fun hxkey => ?_
    · simp [(hsound x hx).not_isOver hpresented]
    · exact absurd hxkey.symm hkey
  | closeFailed howned hclose _ =>
    have hget := (owned?_eq_some.1 howned).1
    exact absurd hclose (Schedule.close_ne_error hget (hsound _ (Schedule.mem_of_get? hget)))
  | ticked hfire hsilence hshown =>
    intro key hlabel hsome
    have hfired : e.schedule.Presents key ∨ (∃ a ∈ _, Alert.key a = key) → _ :=
      Schedule.presents_fireDue hfire hsound
    obtain hbefore | ⟨p, hp, hpkey⟩ := of_showAll hshown hsome
    · exact presents_silenceAll hsilence (.inl (hfired (.inl (h key hlabel hbefore))))
    · rcases List.mem_append.1 hp with hp | hp
      · obtain ⟨a, ha, rfl⟩ := List.mem_map.1 hp
        exact presents_silenceAll hsilence (.inl (hfired (.inr ⟨a, ha, hpkey⟩)))
      · exact presents_silenceAll hsilence (.inr ⟨p, hp, hpkey⟩)
  | others =>
    intro key hlabel hsome
    exact h key hlabel (hothers _ rfl key hlabel hsome)

/-- Where there are no orphans behind it, cancelling all reminders of a bundle takes all of
their notifications away. -/
theorem NoOrphans.none_of_cancelAll [LocalTime] {caller : Bundle} (h : e'.NoOrphans)
    (hperform : e.perform (.cancelAll caller) = .ok (e', reply)) {key : NotificationKey}
    (hlabel : key.label = Entry.label) (hbundle : key.bundle = caller.name) :
    e'.service.active.get? key = none := by
  by_contra hsome
  obtain ⟨x, hx, -, rfl⟩ := h key hlabel (Option.isSome_iff_ne_none.2 hsome)
  have howned : x.isOwnedBy caller := beq_iff_eq.2 hbundle
  have hschedule : e'.schedule = (e.schedule.cancelAll caller).1 := by
    cases hperform
    rw [cancelAll, foldl_dismiss_schedule, persist_schedule]
  rw [hschedule, Schedule.cancelAll, Schedule.drop, List.mem_filter] at hx
  simp [howned] at hx

/-- As long as the ids tell reminders apart, it is a snoozed one that is abandoned. -/
theorem Step.Abandons.exists_snoozed (distinct : (e.schedule.entries.map Entry.id).Nodup)
    (h : Step.Abandons ⟨e, call, reply, e'⟩) :
    ∃ x ∈ e.schedule.entries, x.status = .snoozed ∧ call.cancels x := by
  obtain ⟨key, -, ⟨x, hx, hpresented, hkey⟩, hcancels, hdismissed⟩ := h
  have hcancelled := hcancels x hx hpresented hkey
  refine ⟨x, hx, ?_, hcancelled⟩
  have hshowing : ¬ x.status.isShowing := by
    refine fun hshowing => hdismissed x ?_ hkey
    cases call with
    | cancel caller id =>
      obtain ⟨hid, howned⟩ := Bool.and_eq_true_iff.1 hcancelled
      have hget := Schedule.get?_of_mem distinct hx
      exact mem_dismissedBy_cancel.2 ⟨beq_iff_eq.1 hid ▸ hget, howned, hshowing⟩
    | cancelAll caller => exact mem_dismissedBy_cancelAll.2 ⟨hx, hcancelled, hshowing⟩
    | _ => cases hcancelled
  cases hstatus : x.status with
  | active => simp [hstatus, ReminderStatus.isPresented] at hpresented
  | showing => simp [hstatus, ReminderStatus.isShowing] at hshowing
  | snoozed => rfl

/-! ## Runs -/

variable {start : Engine} {steps : List Step}

/-- Each step of a run is a call that came to its end. -/
theorem Run.perform_of_mem [LocalTime] (run : Run start steps e) :
    ∀ step ∈ steps, step.before.perform step.call = .ok (step.after, step.reply) := by
  induction run with
  | start => simp
  | step _ hperform ih =>
    exact List.forall_mem_append.2 ⟨ih, List.forall_mem_singleton.2 hperform⟩

/-- A run that abandons nothing goes on without orphans. -/
theorem Run.noOrphans [LocalTime] (new : start.IsNew)
    (fresh : ∀ key : NotificationKey, key.label = Entry.label →
      start.service.active.get? key = none)
    (run : Run start steps e) (others : ∀ step ∈ steps, step.AddsNoReminders)
    (kept : ∀ step ∈ steps, ¬ step.Abandons) :
    e.NoOrphans ∧ ∀ step ∈ steps, step.after.NoOrphans := by
  induction run with
  | start =>
    refine ⟨fun key hlabel hsome => ?_, by simp⟩
    rw [fresh key hlabel] at hsome
    cases hsome
  | @step steps e e' call reply run hperform ih =>
    obtain ⟨hbefore, hsteps⟩ := ih (fun step hstep => others step (by simp [hstep]))
      fun step hstep => kept step (by simp [hstep])
    obtain ⟨history, hrun, -⟩ := run.history new
    have hafter : e'.NoOrphans := hbefore.step hrun.sound (perform_effect hperform)
      (others _ (by simp)) (kept ⟨e, call, reply, e'⟩ (by simp))
    exact ⟨hafter, List.forall_mem_append.2 ⟨hsteps, List.forall_mem_singleton.2 hafter⟩⟩

/-- No step of a run leaves an orphan if and only if none abandons a notification.  As long as
the ids tell reminders apart, that takes the cancelling of a snoozed one.  Where nothing is
abandoned, a bundle that cancels all its reminders has no notification of theirs left. -/
theorem Run.noOrphans_iff [LocalTime] (new : start.IsNew)
    (fresh : ∀ key : NotificationKey, key.label = Entry.label →
      start.service.active.get? key = none)
    (run : Run start steps e) (others : ∀ step ∈ steps, step.AddsNoReminders) :
    ((∀ step ∈ steps, step.after.NoOrphans) ↔ ∀ step ∈ steps, ¬ step.Abandons) ∧
    (∀ step ∈ steps, step.Abandons → (step.before.schedule.entries.map Entry.id).Nodup →
      ∃ x ∈ step.before.schedule.entries, x.status = .snoozed ∧ step.call.cancels x) ∧
    ((∀ step ∈ steps, ¬ step.Abandons) → ∀ step ∈ steps, ∀ caller,
      step.call = .cancelAll caller → ∀ key : NotificationKey, key.label = Entry.label →
        key.bundle = caller.name → step.after.service.active.get? key = none) := by
  refine ⟨⟨fun h step hstep habandons => ?_, fun h => (run.noOrphans new fresh others h).2⟩,
    fun step _ habandons distinct => habandons.exists_snoozed distinct,
    fun h step hstep caller hcall key hlabel hbundle => ?_⟩
  · have heffect := perform_effect (run.perform_of_mem step hstep)
    exact heffect.leavesOrphan habandons (h step hstep)
  · have hnone := (run.noOrphans new fresh others h).2 step hstep
    have hperform := run.perform_of_mem step hstep
    rw [hcall] at hperform
    exact hnone.none_of_cancelAll hperform hlabel hbundle

/-- A timer rings and is snoozed, and then all reminders are cancelled. -/
def snoozedTimer : List Call :=
  [.publish .kitchen .minute, .tick (.sinceFirst 60), .snooze .kitchen 1, .cancelAll .kitchen]

attribute [local instance] LocalTime.universal

theorem snoozedTimer_orphan :
    ∃ steps e, Run kitchen steps e ∧ (∀ step ∈ steps, step.AddsNoReminders) ∧
      ∃ step ∈ steps, ¬ step.after.NoOrphans := by
  have hend : (kitchen.performAll snoozedTimer).map (fun r => r.1.getLast?.map fun step =>
      ((step.after.service.active.get? ⟨"kitchen", 7, Entry.label⟩).isSome,
        step.after.schedule.entries.length)) = .ok (some (true, 0)) := by cbv
  obtain ⟨⟨steps, e⟩, hperform, hlast⟩ := Except.map_eq_ok.1 hend
  obtain ⟨step, hstep, hshown⟩ := Option.map_eq_some_iff.1 hlast
  simp only [Prod.mk.injEq, List.length_eq_zero_iff] at hshown
  obtain ⟨hsome, hempty⟩ := hshown
  refine ⟨steps, e, Run.start.performAll hperform, fun step hstep service hcall => ?_, step,
    List.mem_of_getLast? hstep, fun hnone => ?_⟩
  · have hmem := List.mem_map_of_mem (f := Step.call) hstep
    simp [performAll_calls hperform, hcall, snoozedTimer] at hmem
  · obtain ⟨x, hx, -⟩ := hnone _ rfl hsome
    rw [hempty] at hx
    cases hx

theorem kitchen_fresh (key : NotificationKey) : kitchen.service.active.get? key = none := rfl

/-- Runs may leave orphans. -/
theorem not_noOrphans :
    ¬ ∀ (start e : Engine) (steps : List Step), start.IsNew →
      (∀ key : NotificationKey, key.label = Entry.label →
        start.service.active.get? key = none) →
      Run start steps e → (∀ step ∈ steps, step.AddsNoReminders) →
      ∀ step ∈ steps, step.after.NoOrphans := by
  intro h
  obtain ⟨steps, e, run, others, step, hstep, horphan⟩ := snoozedTimer_orphan
  exact horphan (h kitchen e steps kitchen_isNew (fun key _ => kitchen_fresh key) run others
    step hstep)

/-- In the kitchen a notification was abandoned. -/
theorem snoozedTimer_abandons :
    ∃ steps e, Run kitchen steps e ∧ (∀ step ∈ steps, step.AddsNoReminders) ∧
      ∃ step ∈ steps, step.Abandons := by
  obtain ⟨steps, e, run, others, step, hstep, horphan⟩ := snoozedTimer_orphan
  obtain ⟨hiff, -⟩ := Run.noOrphans_iff kitchen_isNew (fun key _ => kitchen_fresh key) run others
  refine ⟨steps, e, run, others, ?_⟩
  by_contra hnone
  exact horphan (hiff.2 (fun step hstep habandons => hnone ⟨step, hstep, habandons⟩) step hstep)

end Engine

end Reminders
