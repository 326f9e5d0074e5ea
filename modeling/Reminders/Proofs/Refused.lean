import Reminders.Proofs.Saved

/-!
# What a refused snooze leaves behind

A snooze first puts the reminder off and saves the schedule, and only then has the service show
the notification anew.  The service may refuse that.  Then the snooze is refused, too, but the
reminder is put off already.

The engine asks beforehand whether the caller may notify at all, so that is no reason any more.
A bundle that published something has a name (`Entry.Sound`), and quiet hours refuse nothing.
What is left is the slot.  A missing one is made, unless its type is unknown, and a request with
the unknown type is taken in like any other.  So a refused snooze leaves everything as it was if
and only if the reminder is not of this kind (`Run.snooze_refused_iff`).
-/

namespace Reminders

/-! ## Putting off -/

namespace Schedule

variable {s s' : Schedule} {id : Int32} {now : DateTime}

theorem Replaced.get?_eq {e changed : Entry} (hid : changed.id = id)
    (h : s.Replaced id e changed (fun _ => true) s') : s'.get? id = some changed := by
  obtain ⟨-, -, before, behind, -, hbefore, hentries⟩ := h
  rw [List.filter_eq_self.2 fun _ _ => rfl] at hentries
  have hnone : before.find? (fun x => x.id == id) = none :=
    List.find?_eq_none.2 fun x hx => by simpa using hbefore x hx
  rw [get?, hentries, List.find?_append, hnone, Option.none_or, List.find?_cons_of_pos]
  simp [hid]

/-- A snooze that is not refused puts a reminder off that was on screen, and renews its
notification. -/
theorem snooze_putsOff [LocalTime] {notification : NotificationRequest}
    (h : s.snooze id now = (s', .ok notification)) :
    ∃ x t, s.get? id = some x ∧ x.status.isShowing ∧
      Recurrence.afterSeconds? now (snoozeSeconds x.request) = some t ∧
      notification.slotType = x.request.slotType ∧
      s'.get? id = some { x with trigger := some t, status := .snoozed, expired := false } := by
  rw [snooze] at h
  split at h
  case h_1 => cases h
  case h_2 x hget =>
    split at h
    case isTrue hshowing =>
      split at h
      case h_1 => cases h
      case h_2 t ht =>
        cases h
        have hid : x.id = id := by simpa using List.find?_some hget
        have hreplaced : s.Replaced id x
            { x with trigger := some t, status := .snoozed, expired := false } (fun _ => true)
            (s.update { x with trigger := some t, status := .snoozed, expired := false }) :=
          update_replaced hget rfl
        exact ⟨x, t, hget, hshowing, ht, rfl, hreplaced.get?_eq hid⟩
    case isFalse => cases h

/-- Putting off changes the schedule. -/
theorem snooze_ne [LocalTime] {notification : NotificationRequest}
    (h : s.snooze id now = (s', .ok notification)) : s' ≠ s := by
  obtain ⟨x, t, hget, hshowing, -, -, hget'⟩ := snooze_putsOff h
  rintro rfl
  rw [hget] at hget'
  have hstatus : x.status = .snoozed := congrArg Entry.status (Option.some.inj hget')
  rw [hstatus] at hshowing
  cases hshowing

theorem exists_snooze [LocalTime] {x : Entry} {t : DateTime} (hget : s.get? id = some x)
    (hshowing : x.status.isShowing)
    (ht : Recurrence.afterSeconds? now (snoozeSeconds x.request) = some t) :
    ∃ s' notification, s.snooze id now = (s', .ok notification) := by
  rw [snooze, hget]
  simp only [hshowing, if_true, ht]
  exact ⟨_, _, rfl⟩

end Schedule

namespace Engine

section

variable [LocalTime] {start e e' : Engine} {steps : List Step} {caller : Bundle} {id : Int32}
  {cause : Error}

/-! ## Refused snoozes -/

/-- Whether the reminders, their store, the slots and the notifications are the same. -/
structure SameContents (e e' : Engine) : Prop where
  schedule : e'.schedule = e.schedule
  store : e'.store = e.store
  slots : e'.service.slots = e.service.slots
  active : e'.service.active = e.service.active

/-- Whether a snooze would put a reminder off that cannot be shown anew, because its
notification asks for a slot of the unknown type. -/
def PutsOffUnshown (e : Engine) (caller : Bundle) (id : Int32) : Prop :=
  e.service.isEnabled caller ∧ ∃ x t, e.owned? caller id = some x ∧ x.status.isShowing ∧
    Recurrence.afterSeconds? e.clock (Schedule.snoozeSeconds x.request) = some t ∧
    x.request.slotType = .unknown ∧ e.service.slots.get? caller .unknown = none

/-- What is put off is put off for good, whatever the answer. -/
theorem PutsOffUnshown.schedule_ne (h : e.PutsOffUnshown caller id) :
    (e.snooze caller id).1.schedule ≠ e.schedule := by
  obtain ⟨henabled, x, t, howned, hshowing, ht, -, -⟩ := h
  obtain ⟨s', notification, hsnooze⟩ :=
    Schedule.exists_snooze (owned?_eq_some.1 howned).1 hshowing ht
  have hschedule : (e.snooze caller id).1.schedule = s' := by
    rw [snooze, if_pos henabled, howned]
    simp only [hsnooze, persist_schedule]
  rw [hschedule]
  exact Schedule.snooze_ne hsnooze

/-- A caller that owns a reminder has a name, since the bundle that published it has one. -/
theorem Run.validate_caller (new : start.IsNew) (run : Run start steps e) {x : Entry}
    (howned : e.owned? caller id = some x) : caller.validate = .ok () := by
  obtain ⟨hget, hx⟩ := owned?_eq_some.1 howned
  have hname : x.bundle.name = caller.name := beq_iff_eq.1 hx
  have hvalid := ((run.inOrder new).1 x (Schedule.mem_of_get? hget)).bundle_valid
  rw [Bundle.validate, Bundle.isNamed, hname] at hvalid
  exact hvalid

/-- A refused snooze changes nothing, or it puts a reminder off that asks for an unknown slot, and
leaves the service alone. -/
theorem Run.snooze_refused_or (new : start.IsNew) (run : Run start steps e)
    (h : e.snooze caller id = (e', .ok (.error cause))) :
    e' = e ∨ (e.PutsOffUnshown caller id ∧ cause = .noSlot .unknown ∧
      e'.schedule = (e.schedule.snooze id e.clock).1 ∧ e'.service = e.service) := by
  obtain rfl | ⟨x, notification, henabled, howned, hsnooze, hpublish⟩ := snooze_cases h
  · exact .inl rfl
  · obtain ⟨y, t, hget, hshowing, ht, htype, -⟩ := Schedule.snooze_putsOff hsnooze
    obtain rfl : y = x := Option.some.inj (hget.symm.trans (owned?_eq_some.1 howned).1)
    obtain ⟨_, hpermit, hrefused, hservice⟩ | ⟨_, _, _, -, hok, -⟩ :=
      Service.publish_cases hpublish
    · cases hrefused
      obtain ⟨hunknown, hslot, hcause⟩ :=
        Service.of_permit_error (run.validate_caller new howned) henabled hpermit
      refine .inr ⟨⟨henabled, y, t, howned, hshowing, ht, htype ▸ hunknown, hslot⟩, hcause, ?_,
        hservice⟩
      rw [hsnooze]
    · cases hok

/-- Where no reminder with the unknown slot type was taken in, a refused snooze changes
nothing. -/
theorem Run.snooze_refused_same (new : start.IsNew) (run : Run start steps e)
    (known : ∀ p ∈ publications steps, p.request.slotType ≠ .unknown)
    (h : e.snooze caller id = (e', .ok (.error cause))) : e' = e := by
  obtain heq | ⟨⟨-, x, t, howned, -, -, hunknown, -⟩, -⟩ := run.snooze_refused_or new h
  · exact heq
  · obtain ⟨history, hrun, hpublications⟩ := run.history new
    have hx := hrun.publication_mem (Schedule.mem_of_get? (owned?_eq_some.1 howned).1)
    rw [hpublications] at hx
    exact absurd hunknown (known _ hx)

/-- After a refused snooze everything is as before if and only if the reminder asks for no slot
of the unknown type.  Otherwise the reminder was put off, and the service was left alone.  That
never happens where no reminder with the unknown slot type was taken in. -/
theorem Run.snooze_refused_iff (new : start.IsNew) (run : Run start steps e)
    (h : e.snooze caller id = (e', .ok (.error cause))) :
    (e.SameContents e' ↔ ¬ e.PutsOffUnshown caller id) ∧
      (e.PutsOffUnshown caller id → cause = .noSlot .unknown ∧
        e'.schedule = (e.schedule.snooze id e.clock).1 ∧ e'.service = e.service) ∧
      ((∀ p ∈ publications steps, p.request.slotType ≠ .unknown) → e' = e) := by
  have hsame := fun known => run.snooze_refused_same new known h
  have hchanged : e.PutsOffUnshown caller id → e'.schedule ≠ e.schedule := by
    intro hputsOff
    have hne := hputsOff.schedule_ne
    rw [h] at hne
    exact hne
  obtain rfl | ⟨hputsOff, hafter⟩ := run.snooze_refused_or new h
  · have hnot : ¬ e'.PutsOffUnshown caller id := fun hputsOff => hchanged hputsOff rfl
    exact ⟨iff_of_true ⟨rfl, rfl, rfl, rfl⟩ hnot, fun hputsOff => absurd hputsOff hnot, hsame⟩
  · have hdiffers : ¬ e.SameContents e' := fun hsame => hchanged hputsOff hsame.schedule
    exact ⟨iff_of_false hdiffers (not_not.2 hputsOff), fun _ => hafter, hsame⟩

end

/-- A timer whose notification asks for a slot of the unknown type rings. -/
def unknownSlotTimer : List Call :=
  [.publish .kitchen { ReminderRequest.minute with slotType := .unknown },
    .setClock (.sinceFirst 60), .tick (.sinceFirst 60)]

attribute [local instance] LocalTime.universal

/-- Its snooze is refused, and yet the timer is put off. -/
theorem unknownSlotTimer_putOff :
    ∃ steps e e', Run kitchen steps e ∧ (∀ step ∈ steps, ∀ service, step.call ≠ .others service) ∧
      e.snooze .kitchen 1 = (e', .ok (.error (.noSlot .unknown))) ∧
      e.schedule.entries.map (fun x => (x.status, x.trigger)) = [(.showing true, none)] ∧
      e'.schedule.entries.map (fun x => (x.status, x.trigger)) =
        [(.snoozed, some (.sinceFirst 360))] := by
  have hend : (kitchen.performAll unknownSlotTimer).map (fun r =>
      ((r.2.snooze .kitchen 1).2,
        r.2.schedule.entries.map fun x => (x.status, x.trigger),
        (r.2.snooze .kitchen 1).1.schedule.entries.map fun x => (x.status, x.trigger))) =
      .ok (.ok (.error (.noSlot .unknown)), [(.showing true, none)],
        [(.snoozed, some (.sinceFirst 360))]) := by cbv
  obtain ⟨⟨steps, e⟩, hperform, he⟩ := Except.map_eq_ok.1 hend
  simp only [Prod.mk.injEq] at he
  obtain ⟨hrefused, hbefore, hbehind⟩ := he
  refine ⟨steps, e, _, Run.start.performAll hperform, fun step hstep service hcall => ?_,
    Prod.ext rfl hrefused, hbefore, hbehind⟩
  have hmem := List.mem_map_of_mem (f := Step.call) hstep
  simp [performAll_calls hperform, hcall, unknownSlotTimer] at hmem

/-- So this snooze is one that changes something, and the timer of the kind that says so. -/
theorem unknownSlotTimer_putsOffUnshown :
    ∃ steps e e', Run kitchen steps e ∧
      e.snooze .kitchen 1 = (e', .ok (.error (.noSlot .unknown))) ∧
      e.PutsOffUnshown .kitchen 1 ∧ ¬ e.SameContents e' := by
  obtain ⟨steps, e, e', run, -, hrefused, hbefore, hbehind⟩ := unknownSlotTimer_putOff
  have hdiffers : ¬ e.SameContents e' := by
    intro hsame
    rw [hsame.schedule, hbefore] at hbehind
    simp at hbehind
  have hiff := (run.snooze_refused_iff kitchen_isNew hrefused).1
  exact ⟨steps, e, e', run, hrefused, not_not.1 fun hnot => hdiffers (hiff.2 hnot), hdiffers⟩

/-- Refused snoozes may change something, even if nobody else uses the service. -/
theorem not_snooze_refused_same :
    ¬ ∀ (start e e' : Engine) (steps : List Step) (caller : Bundle) (id : Int32) (cause : Error),
      start.IsNew → Run start steps e → (∀ step ∈ steps, ∀ service, step.call ≠ .others service) →
      e.snooze caller id = (e', .ok (.error cause)) → e.SameContents e' := by
  intro h
  obtain ⟨steps, e, e', run, alone, hrefused, hbefore, hbehind⟩ := unknownSlotTimer_putOff
  have hsame := h kitchen e e' steps .kitchen 1 _ kitchen_isNew run alone hrefused
  rw [hsame.schedule, hbefore] at hbehind
  simp at hbehind

end Engine

end Reminders
