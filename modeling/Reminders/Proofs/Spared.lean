import Reminders.Proofs.Calls

/-!
# What a call leaves to others

Several applications share one engine, and a call acts for one of them, its *caller*.  What
another bundle owns is left alone: its reminders, but for those that are over, its slots and
its notifications.  `Engine.Spares` says so, and `attempt_spares` proves it for every call
that has a caller, from any state and for any arguments.

Schedule, slots and notifications each find what a bundle owns in their own way.

* The schedule works with bare ids, which others may have as well.  But a call changes or
  drops only entries that the caller owns, and those that are over (`Schedule.Spares`).
* Slots and notifications stand under keys that begin with the name of a bundle, and a call
  only touches keys that begin with the name of its caller (`Service.Spares`).

A call that overflows has got only part of the way.  So `Engine.attempt` gives the engine
behind a call in that case, too.

A reminder is found by its id before it is asked who owns it.  Hence a caller that names the
id of a foreign reminder is told that there is none, and nothing changes (`snooze_foreign`,
`close_foreign`).
-/

namespace Reminders

/-! ## Tables -/

namespace Table

variable {κ : Type} {ν : Type} [Ord κ] [Std.TransOrd κ] [Std.LawfulEqOrd κ] [DecidableEq κ]

/-- What is put under a key that a test rejects is not among the entries that pass it. -/
theorem filter_insert (t : Table κ ν) {p : κ → Bool} {key : κ} (value : ν) (h : p key = false) :
    (t.insert key value).filter p = t.filter p := by
  apply ext_get?
  intro key'
  rw [get?_filter, get?_filter, get?_insert]
  by_cases hkey : key' = key
  · rw [hkey, h]
    rfl
  · rw [if_neg hkey]

/-- Taking out what the filter drops changes nothing that it keeps. -/
theorem filter_erase (t : Table κ ν) {p : κ → Bool} {key : κ} (h : p key = false) :
    (t.erase key).filter p = t.filter p := by
  apply ext_get?
  intro key'
  rw [get?_filter, get?_filter, get?_erase]
  by_cases hkey : key' = key
  · rw [hkey, h]
    rfl
  · rw [if_neg hkey]

end Table

/-! ## The schedule -/

namespace Schedule

/-- The reminders of a bundle that have not expired or are on screen. -/
def remindersOf (s : Schedule) (bundle : Bundle) : List Entry :=
  s.entries.filter fun x => x.isOwnedBy bundle && (!x.expired || x.status.isShowing)

/-- Whether the reminders of a bundle are left alone. -/
def Spares (s : Schedule) (bundle : Bundle) (s' : Schedule) : Prop :=
  s'.remindersOf bundle = s.remindersOf bundle

variable {s s' : Schedule} {caller other : Bundle} {id : Int32} {now : DateTime}

/-- No reminder has two owners. -/
theorem not_isOwnedBy (hother : other.name ≠ caller.name) {x : Entry}
    (h : x.isOwnedBy caller) : x.isOwnedBy other = false := by
  rw [Entry.isOwnedBy, beq_iff_eq] at h
  rw [Entry.isOwnedBy, h, beq_eq_false_iff_ne]
  exact hother.symm

/-- Entries that are over, or that someone else owns, may be dropped. -/
theorem spares_drop {p : Entry → Bool}
    (h : ∀ x, p x → x.isOwnedBy other = false ∨ x.isOver) : s.Spares other (s.drop p).1 := by
  rw [Spares, remindersOf, remindersOf, drop, List.filter_filter]
  apply List.filter_congr
  intro x _
  cases hp : p x with
  | false => simp
  | true =>
    rcases h x hp with hforeign | hover
    · rw [hforeign]
      rfl
    · rw [Entry.isOver, Bool.and_eq_true, Bool.not_eq_true'] at hover
      simp [hover]

/-- A purge keeps what is not over, whoever owns it. -/
theorem spares_purge : s.Spares other s.purge.1 :=
  spares_drop fun _ hover => .inr hover

/-- An entry of someone else may change into another one. -/
theorem spares_update {e changed : Entry} (hget : s.get? id = some e)
    (he : e.isOwnedBy other = false) (hid : changed.id = e.id)
    (hbundle : changed.bundle = e.bundle) : s.Spares other (s.update changed) := by
  obtain ⟨-, -, before, behind, hentries, -, hs'⟩ := update_replaced hget hid
  have hchanged : changed.isOwnedBy other = false := by
    rw [Entry.isOwnedBy, hbundle]
    exact he
  rw [List.filter_eq_self.2 fun _ _ => rfl] at hs'
  rw [Spares, remindersOf, remindersOf, hentries, hs']
  simp [List.filter_append, he, hchanged]

theorem publish_spares (hother : other.name ≠ caller.name) (request : ReminderRequest) :
    s.Spares other (s.publish caller request now).1 := by
  rw [publish]
  split
  case h_1 => exact rfl
  case h_2 =>
    simp only
    split
    case h_1 => exact spares_purge
    case h_2 =>
      split
      case h_1 => exact spares_purge
      case h_2 => exact spares_purge
      case h_3 => exact spares_purge
      case h_4 trigger _ =>
        have hnew : (caller.name == other.name) = false := beq_eq_false_iff_ne.2 hother.symm
        have haccept : s.purge.1.Spares other (s.purge.1.accept caller request trigger) := by
          simp [Spares, remindersOf, accept, List.filter_append, Entry.isOwnedBy, hnew]
        exact haccept.trans spares_purge

theorem cancel_spares (hother : other.name ≠ caller.name) (id : Int32) :
    s.Spares other (s.cancel caller id).1 :=
  spares_drop fun _ h => .inl (not_isOwnedBy hother (Bool.and_eq_true_iff.1 h).2)

theorem cancelAll_spares (hother : other.name ≠ caller.name) :
    s.Spares other (s.cancelAll caller).1 :=
  spares_drop fun _ h => .inl (not_isOwnedBy hother h)

/-- Whoever snoozes a reminder spares those who do not own it. -/
theorem snooze_spares [LocalTime] {e : Entry} (hget : s.get? id = some e)
    (he : e.isOwnedBy other = false) :
    s.Spares other (s.snooze id now).1 := by
  rw [snooze, hget]
  simp only
  split
  case isTrue =>
    split
    case h_1 => exact rfl
    case h_2 => exact spares_update hget he rfl rfl
  case isFalse => exact rfl

theorem close_spares {e : Entry} (hget : s.get? id = some e) (he : e.isOwnedBy other = false) :
    s.Spares other (s.close id now).1 := by
  rw [close, hget]
  simp only
  split
  case isTrue =>
    split
    case h_1 => exact spares_update hget he rfl rfl
    case h_2 => exact spares_update hget he rfl rfl
    case h_3 => exact spares_purge.trans (spares_update hget he rfl rfl)
    case h_4 => exact spares_purge.trans (spares_update hget he rfl rfl)
  case isFalse => exact rfl

end Schedule

/-! ## The service -/

namespace SlotRegistry

variable {caller other : Bundle}

theorem entries_eq (r : SlotRegistry) (bundle : Bundle) :
    r.entries bundle = (r.slots.filter fun key => key.bundle == bundle.name).entries := rfl

/-- Writing a slot leaves the slots of other bundles alone. -/
theorem entries_put (hother : other.name ≠ caller.name) (r : SlotRegistry) (slot : Slot) :
    (r.put caller slot).entries other = r.entries other := by
  rw [entries_eq, entries_eq, put, Table.filter_insert]
  exact beq_eq_false_iff_ne.2 hother.symm

theorem entries_ensure (hother : other.name ≠ caller.name) (r : SlotRegistry) (type : SlotType) :
    (r.ensure caller type).entries other = r.entries other := by
  rw [ensure]
  split
  · rfl
  · exact entries_put hother r _

theorem entries_remove (hother : other.name ≠ caller.name) (r : SlotRegistry) (type : SlotType) :
    (r.remove caller type).entries other = r.entries other := by
  rw [entries_eq, entries_eq, remove, Table.filter_erase]
  exact beq_eq_false_iff_ne.2 hother.symm

end SlotRegistry

namespace Service

/-- The notifications of a bundle under their keys. -/
def notificationsOf (s : Service) (bundle : Bundle) : Table NotificationKey Notification :=
  s.active.filter fun key => key.bundle == bundle.name

/-- Whether every notification stands under its own key.  No operation of a service puts it
anywhere else. -/
def Keyed (s : Service) : Prop := ∀ p ∈ s.active.entries, p.2.key = p.1

/-- Whether the slots and the notifications of a bundle are left alone. -/
structure Spares (s : Service) (bundle : Bundle) (s' : Service) : Prop where
  slots : s'.slots.entries bundle = s.slots.entries bundle
  notifications : s'.notificationsOf bundle = s.notificationsOf bundle
  /-- No notification gets under the key of another one. -/
  keyed : s.Keyed → s'.Keyed

variable {s s' : Service} {caller other : Bundle}

theorem Spares.refl (s : Service) (bundle : Bundle) : s.Spares bundle s := ⟨rfl, rfl, id⟩

theorem Spares.trans {s'' : Service} (h : s.Spares other s') (h' : s'.Spares other s'') :
    s.Spares other s'' where
  slots := h'.slots.trans h.slots
  notifications := h'.notifications.trans h.notifications
  keyed hkeyed := h'.keyed (h.keyed hkeyed)

/-- Where every notification stands under its own key, it is found by its key. -/
theorem Keyed.activeOf_eq (h : s.Keyed) (bundle : Bundle) :
    s.activeOf bundle = (s.notificationsOf bundle).values := by
  rw [activeOf, Table.values, List.filter_map, notificationsOf, Table.filter, Table.values]
  refine congrArg (List.map _) (List.filter_congr ?_)
  intro p hp
  rw [← h p hp]
  rfl

/-- Whoever is permitted to publish at most got a slot. -/
theorem permit_spares (hother : other.name ≠ caller.name) {type : SlotType}
    {slots : SlotRegistry} {slot : Slot} (h : s.permit caller type = .ok (slots, slot)) :
    s.Spares other { s with slots } := by
  obtain ⟨rfl, -⟩ := of_permit_ok h
  exact ⟨SlotRegistry.entries_ensure hother s.slots type, rfl, id⟩

/-- Putting a notification spares the other bundles. -/
theorem put_spares (hother : other.name ≠ caller.name) (s : Service) {n : Notification}
    (hn : n.key.bundle = caller.name) : s.Spares other (s.put n) := by
  refine ⟨rfl, ?_, ?_⟩
  · apply Table.filter_insert
    rw [hn, beq_eq_false_iff_ne]
    exact hother.symm
  · intro hkeyed p hp
    rcases Table.fst_of_mem_put hp with rfl | hp
    · rfl
    · exact hkeyed p hp

/-- A publish that overflows has at most added the slot it asked for. -/
theorem publish_overflow {request : NotificationRequest} {now : DateTime} {overflow : Overflow}
    (h : s.publish caller request now = (s', .error overflow)) :
    ∃ slots slot, s.permit caller request.slotType = .ok (slots, slot) ∧
      s' = { s with slots } := by
  rw [publish] at h
  split at h
  case h_1 => cases h
  case h_2 slots slot hpermit =>
    simp only at h
    split at h <;> cases h
    exact ⟨slots, slot, hpermit, rfl⟩

theorem publish_spares (hother : other.name ≠ caller.name) (s : Service)
    (request : NotificationRequest) (now : DateTime) :
    s.Spares other (s.publish caller request now).1 := by
  cases hpublish : s.publish caller request now with
  | mk s' result =>
    cases result with
    | error overflow =>
      obtain ⟨slots, slot, hpermit, rfl⟩ := publish_overflow hpublish
      exact permit_spares hother hpermit
    | ok result =>
      rcases publish_cases hpublish with ⟨_, -, -, rfl⟩ | ⟨slots, slot, n, hpermit, -, hshows, rfl⟩
      · exact .refl _ other
      · refine (permit_spares hother hpermit).trans (put_spares hother _ ?_)
        rw [hshows.key_eq]
        rfl

theorem cancel_spares (hother : other.name ≠ caller.name) {id : Int32} {label : String}
    (h : s.cancel caller id label = .ok s') : s.Spares other s' := by
  rw [cancel] at h
  split at h
  case h_1 =>
    cases h
    refine ⟨rfl, ?_, ?_⟩
    · apply Table.filter_erase
      exact beq_eq_false_iff_ne.2 hother.symm
    · intro hkeyed p hp
      exact hkeyed p (List.mem_of_mem_filter hp)
  case h_2 => cases h

theorem addSlot_spares (hother : other.name ≠ caller.name) {slot : Slot}
    (h : s.addSlot caller slot = .ok s') : s.Spares other s' := by
  obtain ⟨slots, hadd, rfl⟩ := Except.map_eq_ok.1 h
  refine ⟨?_, rfl, id⟩
  rw [(SlotRegistry.add_eq_ok_iff.1 hadd).2.2]
  exact SlotRegistry.entries_put hother s.slots slot

theorem removeSlot_spares (hother : other.name ≠ caller.name) (s : Service) (type : SlotType) :
    s.Spares other (s.removeSlot caller type).1 :=
  ⟨SlotRegistry.entries_remove hother s.slots type, rfl, id⟩

end Service

/-! ## The engine -/

/-- An attempt with its answer read by a function, however far it got. -/
def Attempt.reading {σ α β : Type} (a : Attempt σ α) (f : α → β) : Attempt σ β := (a.1, a.2.map f)

theorem Attempt.settle_reading {σ α β : Type} (a : Attempt σ α) (f : α → β) :
    (a.reading f).settle id = a.settle f := by
  obtain ⟨s, _ | answer⟩ := a
  · rfl
  · rfl

namespace Engine

/-- The bundle that a call acts for.  Ticks act for all. -/
def Call.caller? : Call → Option Bundle
  | .publish caller _ | .cancel caller _ | .cancelAll caller | .valid caller | .snooze caller _
  | .close caller _ | .addSlot caller _ | .addSlotValue caller _ | .removeSlot caller _ =>
      some caller
  | .tick _ | .setClock _ | .others _ => none

/-- Carries a call out as far as it gets. -/
def attempt [LocalTime] (e : Engine) : Call → Attempt Engine Reply
  | .publish caller request => (e.publish caller request).reading .published
  | .cancel caller id => (e.cancel caller id, .ok (.done (.ok ())))
  | .cancelAll caller => (e.cancelAll caller, .ok (.done (.ok ())))
  | .valid caller => (e, .ok (.listed (e.valid caller)))
  | .snooze caller id => (e.snooze caller id).reading .done
  | .close caller id => (e.close caller id).reading .done
  | .addSlot caller argument => (e.orRefuse (e.addSlot caller argument)).map id .ok
  | .addSlotValue caller value => (e.orRefuse (e.addSlotValue caller value)).map id .ok
  | .removeSlot caller type => (e.removeSlot caller type, .ok (.done (.ok ())))
  | .tick now => (e.tick now).reading .rang
  | .setClock clock => (e.setClock clock, .ok (.done (.ok ())))
  | .others service => ({ e with service }, .ok (.done (.ok ())))

/-- A call that is carried out is one that came to its end. -/
theorem perform_eq_attempt [LocalTime] (e : Engine) (call : Call) :
    e.perform call = (e.attempt call).settle id := by
  cases call with
  | publish caller request => exact ((e.publish caller request).settle_reading _).symm
  | snooze caller id => exact ((e.snooze caller id).settle_reading _).symm
  | close caller id => exact ((e.close caller id).settle_reading _).symm
  | tick now => exact ((e.tick now).settle_reading _).symm
  | _ => rfl

/-- Whether what a bundle owns is left alone. -/
structure Spares (e : Engine) (bundle : Bundle) (e' : Engine) : Prop where
  schedule : e.schedule.Spares bundle e'.schedule
  service : e.service.Spares bundle e'.service

variable {e e' : Engine} {caller other : Bundle}

theorem Spares.refl (e : Engine) (bundle : Bundle) : e.Spares bundle e :=
  ⟨rfl, .refl e.service bundle⟩

theorem Spares.trans {e'' : Engine} (h : e.Spares other e') (h' : e'.Spares other e'') :
    e.Spares other e'' :=
  ⟨h'.schedule.trans h.schedule, h.service.trans h'.service⟩

theorem spares_persist (e : Engine) (bundle : Bundle) : e.Spares bundle e.persist := by
  refine ⟨?_, ?_⟩
  · rw [persist_schedule]
    rfl
  · rw [persist_service]
    exact .refl e.service bundle

theorem dismiss_spares (hother : other.name ≠ caller.name) (e : Engine) (notificationId : Int32) :
    e.Spares other (e.dismiss caller notificationId) := by
  rw [dismiss]
  split
  case h_1 hcancel => exact ⟨rfl, Service.cancel_spares hother hcancel⟩
  case h_2 => exact .refl e other

theorem foldl_dismiss_spares (hother : other.name ≠ caller.name) (e : Engine)
    (entries : List Entry) : e.Spares other
      (entries.foldl (fun e x => e.dismiss caller x.request.notificationId) e) := by
  induction entries generalizing e with
  | nil => exact .refl e other
  | cons x rest ih => exact (dismiss_spares hother e _).trans (ih _)

theorem publish_spares (hother : other.name ≠ caller.name) (e : Engine)
    (request : ReminderRequest) : e.Spares other (e.publish caller request).1 := by
  rw [publish]
  split
  case isTrue =>
    have hpublished : e.Spares other
        { e with schedule := (e.schedule.publish caller request e.clock).1 } :=
      ⟨Schedule.publish_spares hother request, .refl _ other⟩
    simp only
    split
    case h_1 => exact hpublished.trans (spares_persist _ other)
    case h_2 => exact hpublished
  case isFalse => exact .refl e other

theorem cancel_spares (hother : other.name ≠ caller.name) (e : Engine) (id : Int32) :
    e.Spares other (e.cancel caller id) := by
  obtain ⟨dropped, hschedule, hservice, hcancel⟩ := e.exists_cancelled caller id
  have hdropped : e.Spares other dropped := by
    refine ⟨?_, ?_⟩
    · rw [hschedule]
      exact Schedule.cancel_spares hother id
    · rw [hservice]
      exact .refl _ other
  rw [hcancel]
  split
  case h_1 => exact hdropped.trans (dismiss_spares hother dropped _)
  case h_2 => exact hdropped

theorem cancelAll_spares (hother : other.name ≠ caller.name) (e : Engine) :
    e.Spares other (e.cancelAll caller) := by
  have hdropped : e.Spares other { e with schedule := (e.schedule.cancelAll caller).1 } :=
    ⟨Schedule.cancelAll_spares hother, .refl _ other⟩
  rw [cancelAll]
  exact (hdropped.trans (spares_persist _ other)).trans (foldl_dismiss_spares hother _ _)

/-- What the caller owns no other bundle does. -/
theorem not_isOwnedBy_of_owned? (hother : other.name ≠ caller.name) {id : Int32} {x : Entry}
    (howned : e.owned? caller id = some x) :
    e.schedule.get? id = some x ∧ x.isOwnedBy other = false := by
  obtain ⟨hget, hx⟩ := owned?_eq_some.1 howned
  exact ⟨hget, Schedule.not_isOwnedBy hother hx⟩

theorem snooze_spares [LocalTime] (hother : other.name ≠ caller.name) (e : Engine) (id : Int32) :
    e.Spares other (e.snooze caller id).1 := by
  rw [snooze]
  split
  case isTrue =>
    split
    case h_1 => exact .refl e other
    case h_2 x howned =>
      obtain ⟨hget, hx⟩ := not_isOwnedBy_of_owned? hother howned
      have hsnoozed : e.Spares other { e with schedule := (e.schedule.snooze id e.clock).1 } :=
        ⟨Schedule.snooze_spares hget hx, .refl _ other⟩
      simp only
      split
      case h_1 => exact hsnoozed
      case h_2 notification _ =>
        refine (hsnoozed.trans (spares_persist _ other)).trans ⟨rfl, ?_⟩
        exact Service.publish_spares hother _ notification _
  case isFalse => exact .refl e other

theorem close_spares (hother : other.name ≠ caller.name) (e : Engine) (id : Int32) :
    e.Spares other (e.close caller id).1 := by
  rw [close]
  split
  case h_1 => exact .refl e other
  case h_2 x howned =>
    obtain ⟨hget, hx⟩ := not_isOwnedBy_of_owned? hother howned
    have hclosed : e.Spares other { e with schedule := (e.schedule.close id e.clock).1 } :=
      ⟨Schedule.close_spares hget hx, .refl _ other⟩
    simp only
    split
    case h_1 => exact hclosed
    case h_2 => exact hclosed
    case h_3 => exact hclosed.trans (spares_persist _ other)
    case h_4 =>
      exact (hclosed.trans (spares_persist _ other)).trans (dismiss_spares hother _ _)

/-- A refused call spares everybody. -/
theorem orRefuse_spares {result : Except Error Engine}
    (h : ∀ e', result = .ok e' → e.Spares other e') :
    e.Spares other (e.orRefuse result).1 := by
  cases result with
  | error cause => exact .refl e other
  | ok e' => exact h e' rfl

theorem addSlot_spares (hother : other.name ≠ caller.name) {argument : SlotArgument}
    (h : e.addSlot caller argument = .ok e') : e.Spares other e' := by
  obtain ⟨service, hadd, rfl⟩ := Except.map_eq_ok.1 h
  exact ⟨rfl, Service.addSlot_spares hother hadd⟩

/-- A call spares every bundle but its caller, also where it is refused or overflows. -/
theorem attempt_spares [LocalTime] (hother : other.name ≠ caller.name) {call : Call}
    (hcaller : call.caller? = some caller) : e.Spares other (e.attempt call).1 := by
  cases call with
  | publish _ request =>
    cases hcaller
    exact publish_spares hother e request
  | cancel _ id =>
    cases hcaller
    exact cancel_spares hother e id
  | cancelAll =>
    cases hcaller
    exact cancelAll_spares hother e
  | valid => exact .refl e other
  | snooze _ id =>
    cases hcaller
    exact snooze_spares hother e id
  | close _ id =>
    cases hcaller
    exact close_spares hother e id
  | addSlot _ argument =>
    cases hcaller
    exact orRefuse_spares fun _ => addSlot_spares hother
  | addSlotValue _ value =>
    cases hcaller
    refine orRefuse_spares fun _ hadd => ?_
    obtain ⟨argument, -, hadd⟩ := Except.bind_eq_ok.1 hadd
    exact addSlot_spares hother hadd
  | removeSlot _ type =>
    cases hcaller
    exact ⟨rfl, Service.removeSlot_spares hother e.service type⟩
  | tick => cases hcaller
  | setClock => cases hcaller
  | others => cases hcaller

/-- As long as only others call, a bundle keeps what it owns. -/
theorem Run.spares [LocalTime] {start : Engine} {steps : List Step} (run : Run start steps e)
    (h : ∀ step ∈ steps, ∃ caller, step.call.caller? = some caller ∧ other.name ≠ caller.name) :
    start.Spares other e := by
  induction run with
  | start => exact .refl start other
  | @step steps e e' call reply _ hperform ih =>
    obtain ⟨caller, hcaller, hother⟩ := h ⟨e, call, reply, e'⟩ (by simp)
    have hbefore := ih fun step hstep => h step (by simp [hstep])
    rw [perform_eq_attempt] at hperform
    obtain ⟨_, hattempt, -⟩ := Attempt.settle_eq_ok.1 hperform
    have hstep : e.Spares other (e.attempt call).1 := attempt_spares hother hcaller
    rw [hattempt] at hstep
    exact hbefore.trans hstep

/-! ## Foreign ids -/

/-- The caller does not find a reminder that another bundle owns. -/
theorem owned?_foreign (hother : other.name ≠ caller.name) {id : Int32} {x : Entry}
    (hget : e.schedule.get? id = some x) (hx : x.isOwnedBy other) : e.owned? caller id = none := by
  rw [owned?, hget, Option.filter_some, if_neg]
  rw [Schedule.not_isOwnedBy hother.symm hx]
  exact Bool.false_ne_true

/-- A snooze of what the caller does not own is refused, and nothing changes. -/
theorem snooze_foreign [LocalTime] {id : Int32} (howned : e.owned? caller id = none) :
    e.snooze caller id = (e, .ok (.error (if e.service.isEnabled caller then
      .invalid (.noReminder id) else .notAllowed caller.name))) := by
  rw [snooze]
  split
  case isTrue => rw [howned]
  case isFalse => rfl

/-- A close of what the caller does not own is refused, and nothing changes. -/
theorem close_foreign {id : Int32} (howned : e.owned? caller id = none) :
    e.close caller id = (e, .ok (.error (.invalid (.noReminder id)))) := by
  rw [close, howned]

/-- A call leaves alone what other bundles own, and does nothing at all for a reminder that
another bundle owns.  So a bundle keeps what it owns as long as only others call. -/
theorem attempt_leavesForeign [LocalTime] (e : Engine) {caller other : Bundle}
    (hother : other.name ≠ caller.name) :
    (∀ call, call.caller? = some caller →
      e.Spares other (e.attempt call).1 ∧
        (e.service.Keyed →
          (e.attempt call).1.service.activeOf other = e.service.activeOf other)) ∧
    (∀ id x, e.schedule.get? id = some x → x.isOwnedBy other →
      e.attempt (.snooze caller id) = (e, .ok (.done (.error
        (if e.service.isEnabled caller then .invalid (.noReminder id)
          else .notAllowed caller.name)))) ∧
      e.attempt (.close caller id) = (e, .ok (.done (.error (.invalid (.noReminder id)))))) ∧
    ∀ steps e', Run e steps e' → (∀ step ∈ steps, ∃ caller, step.call.caller? = some caller ∧
      other.name ≠ caller.name) → e.Spares other e' := by
  refine ⟨fun call hcaller => ?_, fun id x hget hx => ?_, fun steps e' run => run.spares⟩
  · have hspares : e.Spares other (e.attempt call).1 := attempt_spares hother hcaller
    refine ⟨hspares, fun hkeyed => ?_⟩
    rw [hkeyed.activeOf_eq, (hspares.service.keyed hkeyed).activeOf_eq,
      hspares.service.notifications]
  · have howned : e.owned? caller id = none := owned?_foreign hother hget hx
    rw [attempt, attempt, snooze_foreign howned, close_foreign howned]
    exact ⟨rfl, rfl⟩

/-- A kitchen and a cellar share an engine, and their timers ring under the same number. -/
def sharedTimers : List Call :=
  [.publish .kitchen .minute, .publish .cellar .minute, .tick (.sinceFirst 60)]

attribute [local instance] LocalTime.universal

/-- The kitchen cancels all it has, and tries to close the timer of the cellar. -/
theorem attempt_leavesForeign_sharedTimers :
    Bundle.cellar.name ≠ Bundle.kitchen.name ∧
      ∃ steps e, kitchen.performAll sharedTimers = .ok (steps, e) ∧
        (e.schedule.remindersOf .cellar).map (fun x => (x.id, x.status)) = [(2, .showing true)] ∧
        e.Spares .cellar (e.attempt (.cancelAll .kitchen)).1 ∧
        e.attempt (.close .kitchen 2) = (e, .ok (.done (.error (.invalid (.noReminder 2))))) := by
  have hother : Bundle.cellar.name ≠ Bundle.kitchen.name := by decide
  have hend : (kitchen.performAll sharedTimers).map (fun r =>
      ((r.2.schedule.remindersOf .cellar).map fun x => (x.id, x.status),
        (r.2.schedule.get? 2).map fun x => x.isOwnedBy .cellar)) =
      .ok ([(2, .showing true)], some true) := by cbv
  obtain ⟨⟨steps, e⟩, hperform, he⟩ := Except.map_eq_ok.1 hend
  obtain ⟨hreminders, hget⟩ := Prod.mk.inj he
  obtain ⟨x, hx, howned⟩ := Option.map_eq_some_iff.1 hget
  obtain ⟨hspares, hforeign, -⟩ := attempt_leavesForeign e hother
  exact ⟨hother, steps, e, hperform, hreminders, (hspares _ rfl).1, (hforeign 2 x hx howned).2⟩

end Engine

end Reminders
