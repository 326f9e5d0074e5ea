import Reminders.Proofs.Verdict

/-!
# Quiet hours only mute

What a publishing does depends on the quiet hours in one place only: whether the notification
may sound, light up and vibrate.  `publish_under` compares two publishings that differ in nothing
but the quiet hours and their mode.  Both are refused for the same cause and change nothing, or
both make the same slot and show the same notification, its alerts apart.

Which alerts there are is said by `QuietSetting.LetsAlert`, without a look at how the service
finds out.  Where it holds they are those of the slot, and elsewhere there are none.

A publishing may also give no answer at all, since the end of quiet hours may be beyond the last
date time.  Of such a one nothing is said.
-/

namespace Reminders

/-! ## Alerts -/

/-- Whether something makes a sound, lights up and vibrates. -/
structure Alerts where
  /-- Whether it makes a sound. -/
  sounds : Bool := false
  /-- Whether it lights up. -/
  lights : Bool := false
  /-- Whether it vibrates. -/
  vibrates : Bool := false
deriving DecidableEq

/-- The alerts that a slot asks for. -/
def Slot.alerts (slot : Slot) : Alerts := ⟨slot.sound ≠ "", slot.lights, slot.vibrates⟩

/-- The notification with other alerts, and the same for the rest. -/
def Notification.withAlerts (n : Notification) (alerts : Alerts) : Notification :=
  { n with sounds := alerts.sounds, lights := alerts.lights, vibrates := alerts.vibrates }

theorem Notification.withAlerts_none (n : Notification) : n.withAlerts {} = n.silence := rfl

theorem Notification.present_withAlerts (bundle : Bundle) (request : NotificationRequest)
    (slot : Slot) : (present bundle request slot).withAlerts slot.alerts =
      present bundle request slot := rfl

/-! ## What quiet hours let through -/

/-- When it is quiet, and what may be heard then. -/
structure QuietSetting where
  /-- The mode. -/
  mode : QuietMode
  /-- The quiet hours. -/
  hours : QuietHours

/-- Whether a notification of a slot may alert. -/
def QuietSetting.LetsAlert (q : QuietSetting) (now : DateTime) (slot : Slot)
    (request : NotificationRequest) : Prop :=
  q.hours.isActive now = .ok false ∨ q.mode = .allowAll ∨
    (q.mode = .allowAlarms ∧ request.classification = some "alarm") ∨
    ((q.mode = .allowAlarms ∨ q.mode = .allowNone) ∧ slot.bypassesQuiet)

instance (q : QuietSetting) (now : DateTime) (slot : Slot) (request : NotificationRequest) :
    Decidable (q.LetsAlert now slot request) :=
  inferInstanceAs (Decidable (_ ∨ _ ∨ (_ ∧ _) ∨ ((_ ∨ _) ∧ _)))

/-- A slot leaves the classification of a request as it is. -/
theorem QuietSetting.letsAlert_present (q : QuietSetting) (now : DateTime) (bundle : Bundle)
    (slot : Slot) (request : NotificationRequest) :
    q.LetsAlert now slot (Notification.present bundle request slot).request ↔
      q.LetsAlert now slot request := by
  rw [Notification.present]
  split
  · rfl
  · rfl

/-- What quiet hours leave of the alerts of a slot. -/
def QuietSetting.alerts (q : QuietSetting) (now : DateTime) (slot : Slot)
    (request : NotificationRequest) : Alerts :=
  if q.LetsAlert now slot request then slot.alerts else {}

namespace QuietHours

variable {slot : Slot} {request : NotificationRequest} {loud : Bool}

/-- A mode lets pass what it allows and what the slot takes past it. -/
theorem passes_iff {mode : QuietMode} (h : passes mode (some slot) request = .ok loud) :
    loud = true ↔ mode = .allowAll ∨ (mode = .allowAlarms ∧ request.isAlarm) ∨
      ((mode = .allowAlarms ∨ mode = .allowNone) ∧ slot.bypassesQuiet) := by
  cases mode with
  | allowUnknown =>
    cases h
    simp
  | allowAll =>
    cases h
    simp
  | allowPriority =>
    cases h
    simp
  | allowNone =>
    cases h
    simp
  | allowAlarms =>
    rw [passes] at h
    split at h
    case isTrue halarm =>
      cases h
      simp [halarm]
    case isFalse halarm =>
      cases h
      simp [halarm]

/-- An alert is let through outside the quiet hours, or where the mode lets it pass. -/
theorem allowsAlert_iff {q : QuietSetting} {now : DateTime}
    (h : q.hours.allowsAlert q.mode now (some slot) request = .ok (.ok loud)) :
    loud = true ↔ q.LetsAlert now slot request := by
  obtain ⟨active, hactive, h⟩ := Except.bind_eq_ok.1 h
  have halarm : request.isAlarm ↔ request.classification = some "alarm" := beq_iff_eq
  rw [QuietSetting.LetsAlert, hactive, ← halarm]
  cases active with
  | false =>
    cases h
    simp
  | true => simpa using passes_iff (Except.ok.inj h)

end QuietHours

namespace Service

variable {s s' : Service} {bundle : Bundle} {request : NotificationRequest} {now : DateTime}

/-! ## One publishing -/

/-- The service with other quiet hours. -/
def under (s : Service) (q : QuietSetting) : Service := { s with mode := q.mode, hours := q.hours }

/-- What is permitted is not up to the quiet hours. -/
theorem permit_under (s : Service) (q : QuietSetting) (type : SlotType) :
    (s.under q).permit bundle type = s.permit bundle type := rfl

/-- What a publishing does under some quiet hours.  They have no say in whether it is refused, and
if it is not, they have one in the alerts. -/
theorem publish_alerts {q : QuietSetting} {result : Except Error Unit}
    (h : (s.under q).publish bundle request now = (s', .ok result)) :
    result = (s.permit bundle request.slotType).map (fun _ => ()) ∧
      (∀ cause, result = .error cause → s' = s.under q) ∧
      (result = .ok () →
        let slotted := { s with slots := s.slots.ensure bundle request.slotType }
        let slot := s.slots.provided bundle request.slotType
        let n := Notification.present bundle request slot
        s' = (slotted.under q).put (n.withAlerts (q.alerts now slot request))) := by
  obtain ⟨cause, hpermit, rfl, rfl⟩ | ⟨slots, slot, loud, hpermit, rfl, hallows, rfl⟩ :=
    publish_outcome h
  · rw [permit_under] at hpermit
    exact ⟨by rw [hpermit]; rfl, fun _ _ => rfl, fun hok => (by cases hok)⟩
  · rw [permit_under] at hpermit
    obtain ⟨rfl, rfl, -⟩ := of_permit_ok hpermit
    refine ⟨by rw [hpermit]; rfl, fun _ hcause => (by cases hcause), fun _ => ?_⟩
    have hlets := QuietHours.allowsAlert_iff (q := q) hallows
    rw [QuietSetting.letsAlert_present] at hlets
    intro slotted slot n
    cases loud with
    | true =>
      have halerts : q.alerts now slot request = slot.alerts := if_pos (hlets.1 rfl)
      rw [halerts, Notification.present_withAlerts]
      rfl
    | false =>
      have halerts : q.alerts now slot request = {} :=
        if_neg fun h => Bool.false_ne_true (hlets.2 h)
      rw [halerts, Notification.withAlerts_none]
      rfl

/-! ## Two publishings -/

/-- Two publishings that differ in the quiet hours alone are both refused or both accepted, as it
is permitted.  If they are refused, nothing changes.  If they are accepted, they make the same slot
and show the same notification, and only its alerts are up to the quiet hours. -/
theorem publish_under {p q : QuietSetting} {s₁ s₂ : Service} {result₁ result₂ : Except Error Unit}
    (h₁ : (s.under p).publish bundle request now = (s₁, .ok result₁))
    (h₂ : (s.under q).publish bundle request now = (s₂, .ok result₂)) :
    result₁ = (s.permit bundle request.slotType).map (fun _ => ()) ∧ result₂ = result₁ ∧
      (∀ cause, result₁ = .error cause → s₁ = s.under p ∧ s₂ = s.under q) ∧
      (result₁ = .ok () →
        let slotted := { s with slots := s.slots.ensure bundle request.slotType }
        let slot := s.slots.provided bundle request.slotType
        let n := Notification.present bundle request slot
        s₁ = (slotted.under p).put (n.withAlerts (p.alerts now slot request)) ∧
          s₂ = (slotted.under q).put (n.withAlerts (q.alerts now slot request))) := by
  obtain ⟨hresult₁, hrefused₁, hshown₁⟩ := publish_alerts h₁
  obtain ⟨hresult₂, hrefused₂, hshown₂⟩ := publish_alerts h₂
  have hsame : result₂ = result₁ := hresult₂.trans hresult₁.symm
  exact ⟨hresult₁, hsame,
    fun cause h => ⟨hrefused₁ cause h, hrefused₂ cause (hsame.trans h)⟩,
    fun h => ⟨hshown₁ h, hshown₂ (hsame.trans h)⟩⟩

/-- Quiet hours that never end. -/
def allDay (mode : QuietMode) : QuietSetting := ⟨mode, { kind := .daily }⟩

/-- A note vibrates if all is let through, and not if nothing is.  The rest is the same. -/
theorem publish_under_allDay :
    ∃ (s₁ s₂ : Service) (n : Notification),
      (board.under (allDay .allowAll)).publish .kitchen (.note 1 "tea") .first =
        (s₁, .ok (.ok ())) ∧
      (board.under (allDay .allowNone)).publish .kitchen (.note 1 "tea") .first =
        (s₂, .ok (.ok ())) ∧
      s₁.slots = s₂.slots ∧ s₁.all = [n.withAlerts { vibrates := true }] ∧
      s₂.all = [n.withAlerts {}] := by
  have hshown : ∀ mode : QuietMode, mode = .allowAll ∨ mode = .allowNone →
      ((board.under (allDay mode)).publish .kitchen (.note 1 "tea") .first).2 = .ok (.ok ()) := by
    rintro mode (rfl | rfl)
    · cbv
    · cbv
  have h₁ := Prod.ext rfl (hshown .allowAll (.inl rfl))
  have h₂ := Prod.ext rfl (hshown .allowNone (.inr rfl))
  obtain ⟨-, -, -, hok⟩ := publish_under h₁ h₂
  obtain ⟨hs₁, hs₂⟩ := hok rfl
  refine ⟨_, _, Notification.present .kitchen (.note 1 "tea") (Slot.ofType .socialCommunication),
    h₁, h₂, ?_, ?_, ?_⟩
  · rw [hs₁, hs₂]
    rfl
  · rw [hs₁]
    rfl
  · rw [hs₂]
    rfl

end Service

end Reminders
