import Reminders.Proofs.Calls

/-!
# What is on screen is displayed

An engine keeps its schedule and has the service show it, and each has its own record of
what is on screen.  `Run.displayed` says that they agree: for every reminder on screen
the service holds a notification under its key that shows this very reminder, with its
title, its slot type, and the text that the reminder has now.

A notification is overwritten and dismissed by its key alone, and several reminders may
share one.  So the proof rests on there being at most one of them on screen
(`LastToRing.eq_of_key_eq`).

* A call that dismisses or renews a notification does so for a reminder that was on
  screen, and is not any more.  No other reminder on screen has its key.
* A tick shows the alerts first and then what it silenced.  Under each key the last one
  counts, and it is that of the reminder that is left on screen.
-/

namespace Reminders

/-- What the notification of a reminder on screen says.  Once the reminder stopped alerting
and will not ring again, that is its text for this case, if it has one. -/
def Entry.textOnScreen (e : Entry) : String :=
  if e.status = .showing false ∧ e.expired ∧ e.request.expiredContent ≠ "" then
    e.request.expiredContent
  else e.request.content

theorem Entry.textOnScreen_of_alerting {e : Entry} (h : e.status = .showing true) :
    e.textOnScreen = e.request.content := by
  simp [textOnScreen, h]

theorem Entry.textOnScreen_of_quiet {e : Entry} (h : e.status = .showing false) :
    e.textOnScreen = e.quietText := by
  simp only [textOnScreen, h, quietText, textOr, true_and]
  by_cases hexpired : e.expired
  · by_cases htext : e.request.expiredContent = "" <;> simp [hexpired, htext]
  · simp [hexpired]

/-- The entry once it stopped alerting. -/
def Entry.silenced (e : Entry) : Entry := { e with status := .showing false }

namespace Schedule

variable {s s' : Schedule} {id : Int32} {now : DateTime}

/-! ## Leaving the screen -/

/-- A reminder that was snoozed was on screen. -/
theorem snooze_onScreen [LocalTime] {notification : NotificationRequest} {x : Entry}
    (hget : s.get? id = some x)
    (h : s.snooze id now = (s', .ok notification)) :
    x.status.isShowing ∧
      (∀ bundle, x.isOwnedBy bundle → notification.keyFor bundle = x.key) ∧
      ∃ t, s.Replaced id x { x with trigger := some t, status := .snoozed, expired := false }
        (fun _ => true) s' := by
  rw [snooze, hget] at h
  simp only at h
  split at h
  case isTrue hshowing =>
    split at h
    case h_1 => cases h
    case h_2 t _ =>
      cases h
      refine ⟨hshowing, fun bundle howned => ?_, t, update_replaced hget rfl⟩
      exact (Entry.key_of_isOwnedBy howned).symm
  case isFalse => cases h

/-- A reminder that was closed was on screen. -/
theorem close_onScreen {x : Entry} (hget : s.get? id = some x)
    (h : s.close id now = (s', .ok (.ok true))) :
    x.status.isShowing ∧ ∃ changed, ¬ changed.status.isShowing ∧
      s.Replaced id x changed (fun e => !e.isOver) s' := by
  rw [close, hget] at h
  simp only at h
  split at h
  case isTrue hshowing =>
    split at h
    case h_1 => cases h
    case h_2 => cases h
    case h_3 =>
      cases h
      refine ⟨hshowing, _, ?_, update_purge_replaced hget rfl⟩
      exact Bool.false_ne_true
    case h_4 =>
      cases h
      refine ⟨hshowing, _, ?_, update_purge_replaced hget rfl⟩
      exact Bool.false_ne_true
  case isFalse => cases h

/-- Other reminders on screen are left alone when one leaves it. -/
theorem Replaced.ne_of_isShowing {e changed x : Entry} {keep : Entry → Bool}
    (distinct : (s.entries.map Entry.id).Nodup) (h : s.Replaced id e changed keep s')
    (hchanged : ¬ changed.status.isShowing) (hx : x ∈ s'.entries) (hshowing : x.status.isShowing) :
    x ∈ s.entries ∧ x ≠ e := by
  obtain ⟨-, y, hy, ⟨hid, rfl⟩ | ⟨-, rfl⟩⟩ := (h.moved_of_distinct distinct).mem hx
  · refine ⟨hy, fun heq => hid ?_⟩
    rw [heq]
    exact h.2.1
  · exact absurd hshowing hchanged

end Schedule

/-- Whether a notification was made from a reminder, as the reminder is on screen. -/
structure Notification.Displays [LocalTime] (n : Notification) (x : Entry) : Prop where
  key_eq : n.key = ⟨x.bundle.name, x.request.notificationId, "REMINDER_AGENT"⟩
  content_eq : n.request.content = .basicText { title := x.request.title, text := x.textOnScreen }
  slotType_eq : n.request.slotType = x.request.slotType
  shows : n.Shows x.bundle (x.notification x.textOnScreen)

/-- A notification that shows what the reminder asks for now is made from it. -/
theorem Notification.Shows.displays [LocalTime] {n : Notification} {x : Entry}
    (h : n.Shows x.bundle (x.notification x.textOnScreen)) : n.Displays x := by
  have hrequest := h.request_eq
  simp only [NotificationRequest.mk.injEq] at hrequest
  obtain ⟨-, -, hslotType, hcontent, -⟩ := hrequest
  exact ⟨h.key_eq, hcontent, hslotType, h⟩

namespace Engine

section

variable [LocalTime] {e e' : Engine}

/-! ## Ending the ringing -/

/-- The first id is silenced if its reminder is alerting, and then the others are. -/
theorem silenceAll_cons {s s' : Schedule} {id : Int32} {rest : List Int32}
    {silenced : List (Bundle × NotificationRequest)}
    (h : silenceAll s (id :: rest) = (s', silenced)) :
    silenceAll s rest = (s', silenced) ∨ ∃ y others, s.get? id = some y ∧
      y.status = .showing true ∧ s.Replaced id y y.silenced (fun _ => true) (s.silence id).1 ∧
      silenced = (y.bundle, y.silenced.notification y.silenced.quietText) :: others ∧
      silenceAll (s.silence id).1 rest = (s', others) := by
  rw [silenceAll] at h
  cases hget : s.get? id with
  | none =>
    have hsilence : s.silence id = (s, none) := by simp [Schedule.silence, hget]
    simp only [hsilence, hget, List.nil_append] at h
    exact .inl h
  | some y =>
    by_cases halerting : y.status = .showing true
    · have hsilence : s.silence id =
          (s.update y.silenced, some (y.silenced.notification y.silenced.quietText)) := by
        simp [Schedule.silence, hget, halerting, Entry.silenced]
      simp only [hsilence, hget] at h
      obtain ⟨rfl, rfl⟩ := Prod.mk.inj h
      rw [hsilence]
      exact .inr ⟨y, _, rfl, halerting, Schedule.update_replaced hget rfl, rfl, rfl⟩
    · have hsilence : s.silence id = (s, none) := by simp [Schedule.silence, hget, halerting]
      simp only [hsilence, hget, List.nil_append] at h
      exact .inl h

/-- A reminder on screen behind it was silenced last under its key, or it is as it was and
nothing was silenced under its key. -/
theorem silenceAll_shows {s s' : Schedule} {history : List Reminders.Step} {ids : List Int32}
    {silenced : List (Bundle × NotificationRequest)} (run : Reminders.Run {} history s)
    (few : (Reminders.publications history).length < 2 ^ 31)
    (h : silenceAll s ids = (s', silenced)) {x : Entry} (hx : x ∈ s'.entries)
    (hshowing : x.status.isShowing) :
    (x ∈ s.entries ∧ ∀ p ∈ silenced, keyOfShown p ≠ x.key) ∨
      (x.status = .showing false ∧ lastWith? keyOfShown x.key silenced =
        some (x.bundle, x.notification x.quietText)) := by
  induction ids generalizing s history silenced with
  | nil =>
    cases h
    exact .inl ⟨hx, by simp⟩
  | cons id rest ih =>
    obtain hrest | ⟨y, others, hget, halerting, hs₁, rfl, hrest⟩ := silenceAll_cons h
    · exact ih run few hrest
    · have hperform : s.perform (.silence id) =
          .ok ((s.silence id).1, .silenced (s.silence id).2) := rfl
      have run₁ := run.step hperform
      have few₁ : (Reminders.publications
          (history ++ [⟨s, .silence id, .silenced (s.silence id).2, (s.silence id).1⟩])).length <
            2 ^ 31 := by
        rw [publications_append]
        simpa [Reminders.Step.publication?] using few
      rw [← List.singleton_append, lastWith?_append]
      obtain ⟨hx₁, hnone⟩ | ⟨hquiet, hlast⟩ := ih run₁ few₁ hrest
      · have distinct₁ := run₁.distinct few₁
        have hy₁ : y.silenced ∈ (s.silence id).1.entries := by
          obtain ⟨-, -, before, behind, -, -, hentries⟩ := hs₁
          simp [hentries]
        by_cases hxy : x = y.silenced
        · right
          rw [hxy] at hnone ⊢
          rw [lastWith?_eq_none_iff.2 hnone, Option.none_or]
          exact ⟨rfl, lastWith?_singleton rfl⟩
        · left
          have hkey : y.key ≠ x.key := fun hkey =>
            hxy ((run₁.lastToRing few₁).eq_of_key_eq distinct₁ hx₁ hy₁ hshowing rfl hkey.symm)
          obtain ⟨-, z, hz, rfl | ⟨-, rfl⟩⟩ := hs₁.moved.mem hx₁
          · refine ⟨hz, fun p hp => ?_⟩
            rcases List.mem_append.1 hp with hp | hp
            · rw [List.mem_singleton.1 hp]
              exact hkey
            · exact hnone p hp
          · exact absurd rfl hxy
      · exact .inr ⟨hquiet, by rw [hlast, Option.some_or]⟩

/-! ## The engine and the service -/

/-- Every reminder on screen is displayed by the notification under its key. -/
def Displayed (e : Engine) : Prop :=
  ∀ x ∈ e.schedule.entries, x.status.isShowing →
    ∃ n, e.service.active.get? x.key = some n ∧ n.Displays x

/-- Whether others left the notifications of reminders alone, if it is a step of theirs. -/
def Step.LeavesReminders (step : Step) : Prop :=
  ∀ service, step.call = .others service → ∀ key : NotificationKey, key.label = Entry.label →
    service.active.get? key = step.before.service.active.get? key

/-- What is displayed remains so if it stays on screen as it is and its notification is left. -/
theorem Displayed.of_kept (h : e.Displayed) (hkept : ∀ x ∈ e'.schedule.entries,
    x.status.isShowing → x ∈ e.schedule.entries ∧
      e'.service.active.get? x.key = e.service.active.get? x.key) : e'.Displayed := by
  intro x hx hshowing
  obtain ⟨hbefore, hget⟩ := hkept x hx hshowing
  rw [hget]
  exact h x hbefore hshowing

/-- A reminder is displayed by the last request under its key. -/
theorem displayed_of_lastWith? {shown : List (Bundle × NotificationRequest)} {x : Entry}
    {service service' : Service} {now : DateTime} {text : String}
    (hshown : showAll service now shown = (service', .ok ())) (hsound : x.Sound)
    (henabled : service.isEnabled x.bundle) (hknown : x.request.slotType ≠ .unknown)
    (htext : x.textOnScreen = text)
    (hlast : lastWith? keyOfShown x.key shown = some (x.bundle, x.notification text)) :
    ∃ n, service'.active.get? x.key = some n ∧ n.Displays x := by
  rw [← htext] at hlast
  obtain ⟨n, hget, hshows⟩ := showAll_shows hshown hlast hsound.bundle_valid henabled hknown
  exact ⟨n, hget, hshows.displays⟩

section

variable {history : List Reminders.Step} {now : DateTime}

/-- Different reminders on screen have different keys. -/
theorem key_ne_of_isShowing {s : Schedule} {a b : Entry} (run : Reminders.Run {} history s)
    (few : (Reminders.publications history).length < 2 ^ 31) (ha : a ∈ s.entries)
    (hb : b ∈ s.entries) (hashowing : a.status.isShowing) (hbshowing : b.status.isShowing)
    (hne : a ≠ b) : a.key ≠ b.key := fun hkey =>
  hne ((run.lastToRing few).eq_of_key_eq (run.distinct few) ha hb hashowing hbshowing hkey)

/-- When reminders are dropped, those of them that were on screen may be dismissed. -/
theorem Displayed.drop {p : Entry → Bool} {dismissed : List Entry} (h : e.Displayed)
    (run : Reminders.Run {} history e.schedule)
    (few : (Reminders.publications history).length < 2 ^ 31)
    (hschedule : e'.schedule = (e.schedule.drop p).1)
    (hdrops : e.service.Drops (dismissed.map Entry.key) e'.service)
    (hdismissed : ∀ y ∈ dismissed, y ∈ e.schedule.entries ∧ y.status.isShowing ∧ p y) :
    e'.Displayed := by
  refine h.of_kept fun x hx hshowing => ?_
  rw [hschedule, Schedule.drop, List.mem_filter] at hx
  refine ⟨hx.1, hdrops.get?_of_not_mem fun hmem => ?_⟩
  obtain ⟨y, hy, hkey⟩ := List.mem_map.1 hmem
  obtain ⟨hymem, hyshowing, hpy⟩ := hdismissed y hy
  refine key_ne_of_isShowing run few hymem hx.1 hyshowing hshowing ?_ hkey
  rintro rfl
  simp [hpy] at hx

/-- A tick displays what rings and what falls silent, and the rest stays displayed. -/
theorem Displayed.tick {fired : Schedule} {alerts : List Alert}
    {silenced : List (Bundle × NotificationRequest)} (h : e.Displayed)
    (run : Reminders.Run {} history e.schedule)
    (few : (Reminders.publications history).length < 2 ^ 31)
    (henabled : ∀ bundle, e.service.isEnabled bundle)
    (hknown : ∀ p ∈ Reminders.publications history, p.request.slotType ≠ .unknown)
    (hfire : e.schedule.fireDue now = (fired, .ok alerts))
    (hsilence : silenceAll fired (fired.ringElapsed now) = (e'.schedule, silenced))
    (hshown : showAll e.service now (alerts.map (fun a => (a.bundle, a.notification)) ++ silenced) =
      (e'.service, .ok ())) : e'.Displayed := by
  have hperform : e.schedule.perform (.fireDue now) = .ok (fired, .rang alerts) := by
    rw [Schedule.perform, hfire]
    rfl
  obtain ⟨rung, hfired, hrung, -⟩ := history_perform run hperform (by simp)
  have hpublications : Reminders.publications (history ++ rung) = Reminders.publications history :=
    publications_append_of_nil hrung
  obtain ⟨more, hmore, hnone, -⟩ := history_silenceAll hfired hsilence
  intro x hx hshowing
  have hslot : x.request.slotType ≠ .unknown := by
    have hpublished := hmore.publication_mem hx
    rw [publications_append_of_nil hnone, hpublications] at hpublished
    exact hknown _ hpublished
  have hsound := hmore.sound x hx
  obtain ⟨hxfired, hquiet⟩ | ⟨hquiet, hlast⟩ :=
    silenceAll_shows hfired (by rw [hpublications]; exact few) hsilence hx hshowing
  · obtain ⟨hbefore, halerts⟩ | ⟨halerting, hlast⟩ :=
      Schedule.of_fireDue_isShowing (run.distinct few) hfire hxfired hshowing
    · rw [showAll_get?_eq hshown]
      · exact h x hbefore hshowing
      · intro p hp
        rcases List.mem_append.1 hp with hp | hp
        · obtain ⟨a, ha, rfl⟩ := List.mem_map.1 hp
          exact halerts a ha
        · exact hquiet p hp
    · refine displayed_of_lastWith? hshown hsound (henabled _) hslot
        (Entry.textOnScreen_of_alerting halerting) ?_
      have halert : lastWith? keyOfShown x.key
          (alerts.map fun a => (a.bundle, a.notification)) =
            some (x.alert.bundle, x.alert.notification) := by
        rw [lastWith?_map]
        exact congrArg _ hlast
      rw [lastWith?_append, lastWith?_eq_none_iff.2 hquiet, Option.none_or, halert]
      rfl
  · refine displayed_of_lastWith? hshown hsound (henabled _) hslot
      (Entry.textOnScreen_of_quiet hquiet) ?_
    rw [lastWith?_append, hlast, Option.some_or]

/-- Whatever is called, what is on screen stays displayed. -/
theorem Displayed.step {call : Call} {reply : Reply} (h : e.Displayed)
    (run : Reminders.Run {} history e.schedule)
    (few : (Reminders.publications history).length < 2 ^ 31)
    (henabled : ∀ bundle, e.service.isEnabled bundle)
    (hknown : ∀ p ∈ Reminders.publications history, p.request.slotType ≠ .unknown)
    (hothers : Step.LeavesReminders ⟨e, call, reply, e'⟩)
    (heffect : e.Effect call reply e') : e'.Displayed := by
  have distinct := run.distinct few
  cases heffect with
  | kept _ hschedule hactive _ =>
    refine h.of_kept fun x hx _ => ?_
    rw [hschedule] at hx
    exact ⟨hx, by rw [hactive]⟩
  | published hpublish hservice =>
    refine h.of_kept fun x hx hshowing => ?_
    obtain hbefore | ⟨_, _, hsilence, -⟩ :=
      (Schedule.publish_effect hpublish).of_isShowing (by simp) hx hshowing
    · exact ⟨hbefore, by rw [hservice]⟩
    · cases hsilence
  | @cancelled caller id _ _ hschedule hdrops =>
    refine h.drop run few hschedule hdrops fun y hy => ?_
    obtain ⟨hget, howned, hshowing⟩ := mem_dismissedBy_cancel.1 hy
    have hid := (List.find?_eq_some_iff_append.1 hget).1
    exact ⟨Schedule.mem_of_get? hget, hshowing, by simp [hid, howned]⟩
  | cancelledAll hschedule hdrops =>
    refine h.drop run few hschedule hdrops fun y hy => ?_
    obtain ⟨hmem, howned, hshowing⟩ := mem_dismissedBy_cancelAll.1 hy
    exact ⟨hmem, hshowing, howned⟩
  | snoozed howned hsnooze hpublish =>
    obtain ⟨hget, howned⟩ := owned?_eq_some.1 howned
    obtain ⟨hyshowing, hkey, t, hreplaced⟩ := Schedule.snooze_onScreen hget hsnooze
    refine h.of_kept fun x hx hshowing => ?_
    obtain ⟨hbefore, hne⟩ := hreplaced.ne_of_isShowing distinct Bool.false_ne_true hx hshowing
    refine ⟨hbefore, Service.publish_get?_of_ne hpublish ?_⟩
    rw [hkey _ howned]
    exact key_ne_of_isShowing run few hbefore (Schedule.mem_of_get? hget) hshowing hyshowing hne
  | closed howned hclose hdrops =>
    have hget := (owned?_eq_some.1 howned).1
    obtain ⟨hyshowing, changed, hchanged, hreplaced⟩ := Schedule.close_onScreen hget hclose
    refine h.of_kept fun x hx hshowing => ?_
    obtain ⟨hbefore, hne⟩ := hreplaced.ne_of_isShowing distinct hchanged hx hshowing
    have hkey :=
      key_ne_of_isShowing run few hbefore (Schedule.mem_of_get? hget) hshowing hyshowing hne
    exact ⟨hbefore, hdrops.get?_of_not_mem fun hmem => hkey (List.mem_singleton.1 hmem)⟩
  | closeFailed _ hclose hservice =>
    refine h.of_kept fun x hx hshowing => ?_
    obtain hbefore | ⟨_, _, hsilence, -⟩ :=
      (Schedule.close_effect hclose (.closed (.ok false))).of_isShowing (by simp) hx hshowing
    · exact ⟨hbefore, by rw [hservice]⟩
    · cases hsilence
  | ticked hfire hsilence hshown => exact h.tick run few henabled hknown hfire hsilence hshown
  | others => exact h.of_kept fun x hx _ => ⟨hx, hothers _ rfl _ rfl⟩

end

/-- Every reminder on screen is displayed, as long as the ids have not come round, nobody is
barred, every slot type is known and others leave the notifications of reminders alone. -/
theorem Run.displayed {start : Engine} {steps : List Step} (new : start.IsNew)
    (run : Run start steps e) (few : (publications steps).length < 2 ^ 31)
    (enabled : ∀ step ∈ steps, ∀ bundle, step.before.service.isEnabled bundle)
    (known : ∀ p ∈ publications steps, p.request.slotType ≠ .unknown)
    (others : ∀ step ∈ steps, step.LeavesReminders) : e.Displayed := by
  induction run with
  | start =>
    intro x hx
    rw [new.schedule_eq] at hx
    cases hx
  | @step steps e e' call reply run hperform ih =>
    obtain ⟨history, hrun, hpublications⟩ := run.history new
    rw [publications_append_step] at few known
    have fewer : (publications steps).length < 2 ^ 31 := by
      rw [List.length_append] at few
      omega
    have hbefore : e.Displayed :=
      ih fewer (fun step hstep => enabled step (by simp [hstep]))
        (fun p hp => known p (by simp [hp])) fun step hstep => others step (by simp [hstep])
    refine hbefore.step hrun (by rw [hpublications]; exact fewer)
      (enabled ⟨e, call, reply, e'⟩ (by simp)) ?_ (others _ (by simp)) (perform_effect hperform)
    rw [hpublications]
    exact fun p hp => known p (by simp [hp])

end

/-- Two timers with one notification.  Both ring, and the second one, which is left on
screen, stops alerting. -/
def twoTimers : List Call :=
  [.publish .kitchen { ReminderRequest.minute with content := "tea" },
    .publish .kitchen { ReminderRequest.minute with
      title := "eggs", content := "boiling", expiredContent := "ready" },
    .tick (.sinceFirst 60), .tick (.sinceFirst 61)]

attribute [local instance] LocalTime.universal

/-- The notification says what the second timer says once it is over. -/
theorem Run.displayed_twoTimers :
    ∃ steps e, kitchen.performAll twoTimers = .ok (steps, e) ∧ Run kitchen steps e ∧
      ∃ x ∈ e.schedule.entries, x.id = 2 ∧ x.status = .showing false ∧
        ∃ n, e.service.active.get? x.key = some n ∧
          n.key = ⟨"kitchen", 7, "REMINDER_AGENT"⟩ ∧
          n.request.content = .basicText { title := "eggs", text := "ready" } ∧
          n.request.slotType = .socialCommunication ∧
          n.Shows x.bundle (x.notification "ready") := by
  have hend : (kitchen.performAll twoTimers).map (fun r =>
      ((publications r.1).map fun p => p.request.slotType,
        r.1.map fun step => step.before.service.barredNames.entries.length +
          step.before.service.barredUsers.entries.length,
        r.2.schedule.entries.map fun x => (x.id, x.status, x.textOnScreen,
          x.bundle.name, x.request.notificationId, x.request.title, x.request.slotType))) =
      .ok ([.socialCommunication, .socialCommunication], [0, 0, 0, 0],
        [(2, .showing false, "ready", "kitchen", 7, "eggs", .socialCommunication)]) := by cbv
  obtain ⟨⟨steps, e⟩, hperform, he⟩ := Except.map_eq_ok.1 hend
  simp only [Prod.mk.injEq] at he
  obtain ⟨htypes, hbarred, hentries⟩ := he
  have run : Run kitchen steps e := Run.start.performAll hperform
  have few : (publications steps).length < 2 ^ 31 := by
    rw [← List.length_map, htypes]
    decide
  have enabled : ∀ step ∈ steps, ∀ bundle, step.before.service.isEnabled bundle := by
    intro step hstep bundle
    have hzero := List.mem_map_of_mem hstep (f := fun step =>
      step.before.service.barredNames.entries.length +
        step.before.service.barredUsers.entries.length)
    rw [hbarred] at hzero
    simp at hzero
    exact Service.isEnabled_of_eq_nil hzero.1 hzero.2 bundle
  have known : ∀ p ∈ publications steps, p.request.slotType ≠ .unknown := by
    intro p hp
    have htype := List.mem_map_of_mem hp (f := fun p => p.request.slotType)
    rw [htypes] at htype
    simp at htype
    simp [htype]
  have others : ∀ step ∈ steps, step.LeavesReminders := by
    intro step hstep service hcall
    have hmem := List.mem_map_of_mem (f := Step.call) hstep
    simp [performAll_calls hperform, hcall, twoTimers] at hmem
  obtain ⟨x, hx, hsays⟩ := List.mem_map.1 (hentries ▸ List.mem_singleton_self _)
  simp only [Prod.mk.injEq] at hsays
  obtain ⟨hid, hstatus, htext, hbundle, hnotification, htitle, hslotType⟩ := hsays
  obtain ⟨n, hget, hkey, hcontent, hslot, hshows⟩ :=
    run.displayed kitchen_isNew few enabled known others x hx (by rw [hstatus]; rfl)
  rw [hbundle, hnotification] at hkey
  rw [htitle, htext] at hcontent
  rw [htext] at hshows
  exact ⟨steps, e, hperform, run, x, hx, hid, hstatus, n, hget, hkey, hcontent,
    hslot.trans hslotType, hshows⟩

end Engine

end Reminders
