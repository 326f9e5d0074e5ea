import Reminders.Proofs.Muted
import Reminders.Proofs.Settled
import Reminders.Proofs.Survival

/-!
# When ringing ends

A tick ends the ringing of the reminders that have rung for as long as they may, and shows
their notifications anew.  The service knows nothing of that.  It publishes the renewed
notification like any other, and so it alerts as its slot asks, unless it is muted by quiet
hours (`Service.presented`).

`tick_renews` says which notification is there behind a tick under the key of a reminder
whose ringing has ended, and when it is silent.  With the slot that most reminders use it
vibrates once more (`not_tick_hushes`).

Several reminders on screen may share a key in a schedule that was not made by running.  Then
the notification is that of one whose ringing has ended as well.
-/

namespace Reminders

/-- The alerts of a notification. -/
def Notification.alerts (n : Notification) : Alerts := ⟨n.sounds, n.lights, n.vibrates⟩

theorem QuietSetting.alerts_eq_none_iff {q : QuietSetting} {now : DateTime} {slot : Slot}
    {request : NotificationRequest} :
    q.alerts now slot request = {} ↔ slot.alerts = {} ∨ ¬ q.LetsAlert now slot request := by
  rw [alerts]
  split
  case isTrue hlets => simp [hlets]
  case isFalse hmuted => simp [hmuted]

/-! ## Publishing -/

namespace SlotRegistry

/-- A slot that is made is the one that was provided before. -/
theorem provided_ensure (r : SlotRegistry) (bundle bundle' : Bundle) (type type' : SlotType) :
    (r.ensure bundle type).provided bundle' type' = r.provided bundle' type' := by
  rw [ensure]
  split
  case isTrue => rfl
  case isFalse hnone =>
    rw [provided, provided, get?, put, Table.get?_insert]
    split
    case isTrue hkey =>
      obtain ⟨hname, htype⟩ := SlotKey.mk.inj hkey
      obtain rfl : type' = type := htype
      have hget : r.get? bundle' type' = none := by
        rw [get?, hname]
        simpa [has, get?] using hnone
      rw [hget]
      rfl
    case isFalse => rfl

end SlotRegistry

namespace Service

variable {s s' : Service} {now : DateTime} {key : NotificationKey}

/-- When it is quiet for a service, and what may be heard then. -/
def quiet (s : Service) : QuietSetting := ⟨s.mode, s.hours⟩

/-- The notification by which a service shows what a bundle asks for. -/
def presented (s : Service) (now : DateTime) (p : Bundle × NotificationRequest) : Notification :=
  let slot := s.slots.provided p.1 p.2.slotType
  (Notification.present p.1 p.2 slot).withAlerts (s.quiet.alerts now slot p.2)

theorem presented_alerts (s : Service) (now : DateTime) (p : Bundle × NotificationRequest) :
    (s.presented now p).alerts =
      s.quiet.alerts now (s.slots.provided p.1 p.2.slotType) p.2 := rfl

theorem presented_shows (s : Service) (now : DateTime) (p : Bundle × NotificationRequest) :
    (s.presented now p).Shows p.1 p.2 := by
  have hshows := Notification.shows_present p.1 p.2 (s.slots.provided p.1 p.2.slotType)
  exact ⟨hshows.bundle_eq, hshows.request_eq⟩

/-- Whether a service shows what is asked for in the same way as another one. -/
structure ShowsAlike (s s' : Service) : Prop where
  quiet_eq : s'.quiet = s.quiet
  provided_eq : ∀ bundle type, s'.slots.provided bundle type = s.slots.provided bundle type
  isEnabled_eq : s'.isEnabled = s.isEnabled

theorem ShowsAlike.presented_eq (h : s.ShowsAlike s') (p : Bundle × NotificationRequest) :
    s'.presented now p = s.presented now p := by
  rw [presented, presented, h.quiet_eq, h.provided_eq]

theorem ShowsAlike.refl (s : Service) : s.ShowsAlike s := ⟨rfl, fun _ _ => rfl, rfl⟩

/-- A publishing is refused and changes nothing, or the notification is there. -/
theorem publish_presented {bundle : Bundle} {request : NotificationRequest}
    {result : Except Error Unit} (h : s.publish bundle request now = (s', .ok result)) :
    s.ShowsAlike s' ∧
      ((∃ cause, s.permit bundle request.slotType = .error cause ∧ s' = s) ∨
        ∀ key, s'.active.get? key =
          if key = request.keyFor bundle then some (s.presented now (bundle, request))
          else s.active.get? key) := by
  obtain ⟨hresult, hrefused, hshown⟩ := publish_alerts (q := s.quiet) h
  cases hpermit : s.permit bundle request.slotType with
  | error cause =>
    rw [hpermit] at hresult
    obtain rfl : s' = s := hrefused cause hresult
    exact ⟨.refl s', .inl ⟨cause, rfl, rfl⟩⟩
  | ok granted =>
    rw [hpermit] at hresult
    have hs' := hshown hresult
    have hkey := (s.presented_shows now (bundle, request)).key_eq
    refine ⟨?_, .inr fun key => ?_⟩
    · rw [hs']
      exact ⟨rfl, fun _ _ => s.slots.provided_ensure bundle _ request.slotType _, rfl⟩
    · rw [hs', ← hkey]
      exact put_get? _ _ key

end Service

namespace Engine

variable {service service' : Service} {now : DateTime} {key : NotificationKey}
  {shown : List (Bundle × NotificationRequest)}

/-! ## Showing several requests -/

/-- What is there under a key was there before, or it shows one of the requests under it. -/
theorem of_showAll_get? (h : showAll service now shown = (service', .ok ()))
    (key : NotificationKey) :
    service'.active.get? key = service.active.get? key ∨
      ∃ p ∈ shown, keyOfShown p = key ∧
        service'.active.get? key = some (service.presented now p) := by
  induction shown generalizing service with
  | nil =>
    cases h
    exact .inl rfl
  | cons p rest ih =>
    obtain ⟨between, result, hpublish, hrest⟩ := showAll_cons h
    obtain ⟨halike, hcases⟩ := Service.publish_presented hpublish
    obtain hkept | ⟨q, hq, hkey, hget⟩ := ih hrest
    · obtain ⟨-, -, rfl⟩ | hget := hcases
      · exact .inl hkept
      · rw [hkept, hget key]
        by_cases hkey : key = p.2.keyFor p.1
        · exact .inr ⟨p, by simp, hkey.symm, if_pos hkey⟩
        · exact .inl (if_neg hkey)
    · rw [halike.presented_eq] at hget
      exact .inr ⟨q, by simp [hq], hkey, hget⟩

/-- Where one of the requests under a key is permitted, what is there shows one of them. -/
theorem exists_of_showAll {p : Bundle × NotificationRequest}
    (h : showAll service now shown = (service', .ok ())) (hp : p ∈ shown)
    (hkey : keyOfShown p = key) (hbundle : p.1.validate = .ok ())
    (henabled : service.isEnabled p.1) (hslot : p.2.slotType ≠ .unknown) :
    ∃ q ∈ shown, keyOfShown q = key ∧
      service'.active.get? key = some (service.presented now q) := by
  induction shown generalizing service with
  | nil => cases hp
  | cons q rest ih =>
    obtain ⟨between, result, hpublish, hrest⟩ := showAll_cons h
    obtain ⟨halike, hcases⟩ := Service.publish_presented hpublish
    rcases List.mem_cons.1 hp with rfl | hp
    · obtain ⟨cause, hrefused, -⟩ | hget := hcases
      · exact absurd (Service.of_permit_error hbundle henabled hrefused).1 hslot
      · obtain hkept | ⟨r, hr, hrkey, hrget⟩ := of_showAll_get? hrest key
        · refine ⟨p, by simp, hkey, ?_⟩
          rw [hkept, hget key]
          exact if_pos hkey.symm
        · rw [halike.presented_eq] at hrget
          exact ⟨r, by simp [hr], hrkey, hrget⟩
    · obtain ⟨r, hr, hrkey, hrget⟩ := ih hrest hp (by rw [halike.isEnabled_eq]; exact henabled)
      rw [halike.presented_eq] at hrget
      exact ⟨r, by simp [hr], hrkey, hrget⟩

/-! ## What is silenced -/

section

variable [LocalTime]

/-- What is shown of a reminder whose ringing has ended. -/
def renewal (x : Entry) : Bundle × NotificationRequest :=
  (x.bundle, x.silenced.notification x.silenced.quietText)

theorem keyOfShown_renewal (x : Entry) : keyOfShown (renewal x) = x.key := rfl

variable {s : Schedule}

/-- What is left alone by the first silencing is still there, as long as it is alerting. -/
theorem mem_silence_iff (distinct : (s.entries.map Entry.id).Nodup) {id : Int32} {x : Entry}
    (halerting : x.status = .showing true) :
    x ∈ (s.silence id).1.entries ↔ x ∈ s.entries ∧ x.id ≠ id := by
  rw [Schedule.silence_eq distinct, List.mem_map]
  constructor
  · rintro ⟨y, hy, rfl⟩
    rw [Entry.silencedBy] at halerting ⊢
    split at halerting
    case isTrue => cases halerting
    case isFalse hne =>
      rw [if_neg hne]
      exact ⟨hy, fun hid => hne ⟨List.mem_singleton.2 hid, halerting⟩⟩
  · rintro ⟨hx, hid⟩
    exact ⟨x, hx, if_neg fun hboth => hid (List.mem_singleton.1 hboth.1)⟩

theorem silenceAll_cons_eq (s : Schedule) (id : Int32) (rest : List Int32) :
    (silenceAll s (id :: rest)).2 =
      (((s.get? id).filter fun x => x.status = .showing true).map renewal).toList ++
        (silenceAll (s.silence id).1 rest).2 := by
  rw [silenceAll, Schedule.silence]
  cases hget : s.get? id with
  | none => rfl
  | some x =>
    by_cases halerting : x.status = .showing true
    · simp [Option.filter_some, halerting, renewal, Entry.silenced]
    · simp [Option.filter_some, halerting]

/-- Just the alerting reminders with the ids are shown anew. -/
theorem mem_silenceAll_iff (distinct : (s.entries.map Entry.id).Nodup) {ids : List Int32}
    {p : Bundle × NotificationRequest} :
    p ∈ (silenceAll s ids).2 ↔
      ∃ x ∈ s.entries, x.id ∈ ids ∧ x.status = .showing true ∧ p = renewal x := by
  induction ids generalizing s with
  | nil => simp [silenceAll]
  | cons id rest ih =>
    have distinct' : ((s.silence id).1.entries.map Entry.id).Nodup := by
      rw [Schedule.silence_eq distinct, List.map_map]
      simpa [Function.comp_def] using distinct
    rw [silenceAll_cons_eq, List.mem_append, ih distinct']
    constructor
    · rintro (hp | ⟨x, hx, hid, halerting, rfl⟩)
      · simp only [Option.mem_toList, Option.map_eq_some_iff,
          Option.filter_eq_some_iff, decide_eq_true_eq] at hp
        obtain ⟨x, ⟨hget, halerting⟩, rfl⟩ := hp
        have hid : x.id = id := by simpa using List.find?_some hget
        exact ⟨x, Schedule.mem_of_get? hget, by simp [hid], halerting, rfl⟩
      · obtain ⟨hx, -⟩ := (mem_silence_iff distinct halerting).1 hx
        exact ⟨x, hx, List.mem_cons_of_mem _ hid, halerting, rfl⟩
    · rintro ⟨x, hx, hid, halerting, rfl⟩
      by_cases hfirst : x.id = id
      · left
        have hget := Schedule.get?_of_mem distinct hx
        rw [hfirst] at hget
        simp [hget, Option.filter_some, halerting]
      · right
        rcases List.mem_cons.1 hid with hid | hid
        · exact absurd hid hfirst
        · exact ⟨x, (mem_silence_iff distinct halerting).2 ⟨hx, hfirst⟩, hid, halerting, rfl⟩

/-- Just the reminders that have rung for as long as they may are shown anew. -/
theorem mem_silenceAll_ringElapsed (distinct : (s.entries.map Entry.id).Nodup) {now : DateTime}
    {p : Bundle × NotificationRequest} :
    p ∈ (silenceAll s (s.ringElapsed now)).2 ↔
      ∃ x ∈ s.entries, x.hasRungOut now ∧ p = renewal x := by
  rw [mem_silenceAll_iff distinct]
  constructor
  · rintro ⟨x, hx, hid, -, rfl⟩
    obtain ⟨y, hy, hyx⟩ := List.mem_map.1 hid
    obtain ⟨hy, hout⟩ := List.mem_filter.1 hy
    rw [Schedule.eq_of_id_eq distinct hy hx hyx] at hout
    exact ⟨x, hx, hout, rfl⟩
  · rintro ⟨x, hx, hout, rfl⟩
    refine ⟨x, hx, List.mem_map_of_mem (List.mem_filter.2 ⟨hx, hout⟩), ?_, rfl⟩
    exact (Entry.hasRungOut_iff.1 hout).1

/-! ## A tick -/

variable {e e' : Engine} {now : DateTime} {alerts : List Alert} {x : Entry}

/-- A reminder that has rung for as long as it may goes through a batch of rings as it is, if
none rings under its key. -/
theorem mem_fired_of_hasRungOut {fired : Schedule} (distinct : (s.entries.map Entry.id).Nodup)
    (hfire : s.fireDue now = (fired, .ok alerts)) (hx : x ∈ s.entries) (hout : x.hasRungOut now)
    (hother : ∀ y ∈ s.entries, y.isDue now → y.key ≠ x.key) : x ∈ fired.entries := by
  have hkept : s.become now x = x := by
    refine (Schedule.become_of_not_due distinct hx fun hdue => hother x hx hdue rfl).2 ?_
    rintro ⟨-, y, hy, hdue, hshares⟩
    exact hother y hy hdue (Entry.sharesNotification_iff.1 hshares).symm
  have hover : x.isOver = false := by
    simp [Entry.isOver, (Entry.hasRungOut_iff.1 hout).1, ReminderStatus.isShowing]
  rw [Schedule.fireDue_entries distinct hfire, List.mem_filter]
  exact ⟨List.mem_map.2 ⟨x, hx, hkept⟩, by rw [hover]; rfl⟩

/-- Behind a tick the notification under the key of a reminder whose ringing has ended shows
such a reminder anew.  It alerts as the slot asks, unless quiet hours mute it. -/
theorem tick_renews (distinct : (e.schedule.entries.map Entry.id).Nodup)
    (h : e.tick now = (e', .ok alerts)) (hx : x ∈ e.schedule.entries) (hout : x.hasRungOut now)
    (hother : ∀ y ∈ e.schedule.entries, y.isDue now → y.key ≠ x.key)
    (hbundle : x.bundle.validate = .ok ()) (henabled : e.service.isEnabled x.bundle)
    (hknown : x.request.slotType ≠ .unknown) :
    ∃ y ∈ e.schedule.entries, y.hasRungOut now ∧ y.key = x.key ∧ ∃ n,
      e'.service.active.get? x.key = some n ∧
      n.Shows y.bundle (y.silenced.notification y.silenced.quietText) ∧
      let slot := e.service.slots.provided y.bundle y.request.slotType
      let request := y.silenced.notification y.silenced.quietText
      n.alerts = e.service.quiet.alerts now slot request ∧
        (n.alerts = {} ↔ slot.alerts = {} ∨ ¬ e.service.quiet.LetsAlert now slot request) := by
  obtain ⟨fired, silenced, hfire, hsilence, hshown⟩ := tick_phases h
  have hmoved := Schedule.fireDue_moved hfire
  have hids : ∀ x z : Entry, x.Fires now z → z.id = x.id :=
    fun _ _ hfires => congrArg Publication.id hfires.publication
  have distinct' : (fired.entries.map Entry.id).Nodup :=
    distinct.sublist (hmoved.map_sublist hids)
  have hsilenced : (silenceAll fired (fired.ringElapsed now)).2 = silenced := by rw [hsilence]
  have hxshown : renewal x ∈ silenced := by
    rw [← hsilenced, mem_silenceAll_ringElapsed distinct']
    exact ⟨x, mem_fired_of_hasRungOut distinct hfire hx hout hother, hout, rfl⟩
  obtain ⟨p, hp, hkey, hget⟩ := exists_of_showAll hshown (List.mem_append_right _ hxshown)
    (keyOfShown_renewal x) hbundle henabled hknown
  -- Nothing rings under the key, so what is there is something that was silenced.
  have hpsilenced : p ∈ silenced := by
    rcases List.mem_append.1 hp with hp | hp
    · obtain ⟨a, ha, rfl⟩ := List.mem_map.1 hp
      obtain ⟨rings, hperm, -, rfl⟩ := Schedule.exists_rings_of_fireDue distinct hfire
      obtain ⟨r, hr, rfl⟩ := List.mem_map.1 ha
      obtain ⟨hrmem, hrdue⟩ := List.mem_filter.1 (hperm.mem_iff.1 hr)
      exact absurd hkey (hother r hrmem hrdue)
    · exact hp
  rw [← hsilenced, mem_silenceAll_ringElapsed distinct'] at hpsilenced
  obtain ⟨z, hz, hzout, rfl⟩ := hpsilenced
  obtain ⟨-, y, hy, hfires⟩ := hmoved.mem hz
  obtain rfl := hfires.eq_of_hasRungOut hzout
  have halerts := Service.presented_alerts e.service now (renewal z)
  exact ⟨z, hy, hzout, hkey, _, hget, Service.presented_shows e.service now (renewal z), halerts,
    halerts ▸ QuietSetting.alerts_eq_none_iff⟩

end

/-! ## A timer that vibrates once more -/

attribute [local instance] LocalTime.universal

/-- A timer of the kitchen rings for a second, and its slot vibrates. -/
theorem kitchen_ringsOut :
    ∃ steps e e' x, Run kitchen steps e ∧ e.schedule.entries = [x] ∧
      x.hasRungOut (.sinceFirst 61) ∧ ¬ x.isDue (.sinceFirst 61) ∧
      x.bundle.validate = .ok () ∧ e.service.isEnabled x.bundle ∧
      x.request.slotType ≠ .unknown ∧ e.tick (.sinceFirst 61) = (e', .ok []) ∧
      (e'.service.active.get? x.key).map Notification.alerts = some { vibrates := true } := by
  have hend : (kitchen.performAll [.publish .kitchen .minute, .tick (.sinceFirst 60)]).map
      (fun r => (r.2.schedule.entries.map fun x =>
        (x.hasRungOut (.sinceFirst 61), x.isDue (.sinceFirst 61), x.bundle.validate,
          r.2.service.isEnabled x.bundle, x.request.slotType,
          ((r.2.tick (.sinceFirst 61)).1.service.active.get? x.key).map Notification.alerts),
        (r.2.tick (.sinceFirst 61)).2)) =
      .ok ([(true, false, .ok (), true, .socialCommunication, some { vibrates := true })],
        .ok []) := by cbv
  obtain ⟨⟨steps, e⟩, hperform, he⟩ := Except.map_eq_ok.1 hend
  simp only [Prod.mk.injEq] at he
  obtain ⟨hentries, hanswer⟩ := he
  obtain ⟨x, hx, hfacts⟩ := List.map_eq_singleton_iff.1 hentries
  simp only [Prod.mk.injEq] at hfacts
  obtain ⟨hout, hdue, hbundle, henabled, htype, halerts⟩ := hfacts
  exact ⟨steps, e, _, x, Run.start.performAll hperform, hx, hout, by simp [hdue], hbundle,
    henabled, by simp [htype], Prod.ext rfl hanswer, halerts⟩

/-- What shows the timer then alerts, so its slot is not a silent one. -/
theorem tick_renews_kitchen :
    ∃ steps e e' x, Run kitchen steps e ∧ e.tick (.sinceFirst 61) = (e', .ok []) ∧
      x ∈ e.schedule.entries ∧ x.hasRungOut (.sinceFirst 61) ∧
      ∃ n, e'.service.active.get? x.key = some n ∧
        n.Shows x.bundle (x.silenced.notification x.silenced.quietText) ∧
        (e.service.slots.provided x.bundle x.request.slotType).alerts ≠ {} := by
  obtain ⟨steps, e, e', x, run, hentries, hout, hdue, hbundle, henabled, hknown, hticked, halerts⟩ :=
    kitchen_ringsOut
  have hx : x ∈ e.schedule.entries := by simp [hentries]
  have hother : ∀ y ∈ e.schedule.entries, y.isDue (.sinceFirst 61) → y.key ≠ x.key := by
    intro y hy hydue
    rw [hentries, List.mem_singleton] at hy
    exact absurd (hy ▸ hydue) hdue
  obtain ⟨y, hy, -, -, n, hget, hshows, -, hsilent⟩ :=
    tick_renews (by simp [hentries]) hticked hx hout hother hbundle henabled hknown
  obtain rfl : y = x := by simpa [hentries] using hy
  refine ⟨steps, e, e', y, run, hticked, hx, hout, n, hget, hshows, fun hnone => ?_⟩
  rw [hget, Option.map_some, hsilent.2 (.inl hnone)] at halerts
  cases halerts

/-- The end of the ringing may vibrate. -/
theorem not_tick_hushes :
    ¬ ∀ (e e' : Engine) (now : DateTime) (alerts : List Alert) (x : Entry),
      (e.schedule.entries.map Entry.id).Nodup → e.tick now = (e', .ok alerts) →
      x ∈ e.schedule.entries → x.hasRungOut now → ¬ x.isDue now →
      (∀ y ∈ e.schedule.entries, y.isDue now → ¬ y.covers x) →
      e.service.isEnabled x.bundle → x.request.slotType ≠ .unknown →
      ∃ n, e'.service.active.get? x.key = some n ∧ n.sounds = false ∧ n.lights = false ∧
        n.vibrates = false := by
  intro h
  obtain ⟨-, e, e', x, -, hentries, hout, hdue, -, henabled, hknown, hticked, halerts⟩ :=
    kitchen_ringsOut
  obtain ⟨n, hget, -, -, hvibrates⟩ := h e e' _ _ x (by simp [hentries]) hticked
    (by simp [hentries]) hout hdue
    (fun y hy hydue => by
      rw [hentries, List.mem_singleton] at hy
      exact absurd (hy ▸ hydue) hdue) henabled hknown
  rw [hget, Option.map_some, Option.some.injEq] at halerts
  have hvibrates' : n.vibrates = true := congrArg Alerts.vibrates halerts
  rw [hvibrates] at hvibrates'
  cases hvibrates'

end Engine

end Reminders
