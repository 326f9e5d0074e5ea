import Reminders.Engine
import Reminders.Proofs.Screen

/-!
# What the service holds

The service holds at most one notification under each key.  What a call does to it is
said here by looking keys up.

* Whether a publishing is permitted is decided by the name of the bundle, then by the bars, and
  then by the slot, which is made if it is missing (`Service.permit_eq`).
* A publishing that is permitted puts a notification under the key of the request that
  shows what was asked for, and one that is not permitted changes nothing
  (`Service.publish_cases`).  Quiet hours mute a notification, but refuse none.
* `Service.Drops` says that the notifications under some keys were taken away, as the
  engine does when it dismisses reminders (`Engine.dismiss_drops`).
* Of the requests that are shown one after another the last one under a key counts, if
  it is permitted (`Engine.showAll_shows`).  Where there is none, all stays as it was
  (`Engine.showAll_get?_eq`).

None of these calls bars anyone.
-/

namespace Reminders

/-! ## Showing a request -/

/-- The key under which a bundle shows a request. -/
def NotificationRequest.keyFor (request : NotificationRequest) (bundle : Bundle) :
    NotificationKey :=
  ⟨bundle.name, request.id, request.label⟩

/-- Whether a notification shows what a bundle asked for.  Its slot may only say what
the lock screen shows of it. -/
structure Notification.Shows (n : Notification) (bundle : Bundle) (request : NotificationRequest) :
    Prop where
  bundle_eq : n.bundle = bundle
  request_eq : { n.request with visibility := .noOverride } =
    { request with visibility := .noOverride }

theorem Notification.Shows.key_eq {n : Notification} {bundle : Bundle}
    {request : NotificationRequest} (h : n.Shows bundle request) :
    n.key = request.keyFor bundle := by
  have hrequest := h.request_eq
  simp only [NotificationRequest.mk.injEq] at hrequest
  obtain ⟨hid, hlabel, -⟩ := hrequest
  rw [key, NotificationRequest.keyFor, h.bundle_eq, hid, hlabel]

theorem Notification.shows_present (bundle : Bundle) (request : NotificationRequest)
    (slot : Slot) : (present bundle request slot).Shows bundle request := by
  refine ⟨rfl, ?_⟩
  rw [present]
  split
  · rfl
  · rfl

theorem Notification.Shows.silence {n : Notification} {bundle : Bundle}
    {request : NotificationRequest} (h : n.Shows bundle request) : n.silence.Shows bundle request :=
  ⟨h.bundle_eq, h.request_eq⟩

/-! ## Slots -/

theorem Bundle.validate_eq_ok {bundle : Bundle} : bundle.validate = .ok () ↔ bundle.isNamed := by
  simp [validate]

namespace SlotRegistry

variable {r r' : SlotRegistry} {bundle : Bundle}

/-- A slot is added if its bundle has a name and its type is known. -/
theorem add_eq_ok_iff {slot : Slot} :
    r.add bundle slot = .ok r' ↔
      bundle.validate = .ok () ∧ slot.type ≠ .unknown ∧ r' = r.put bundle slot := by
  rw [add, Except.bind_eq_ok]
  constructor
  · rintro ⟨⟨⟩, hbundle, h⟩
    split at h
    case isTrue => cases h
    case isFalse hslot =>
      cases h
      exact ⟨hbundle, hslot, rfl⟩
  · rintro ⟨hbundle, hslot, rfl⟩
    refine ⟨(), hbundle, ?_⟩
    rw [if_neg hslot]
    rfl

/-- The slot of a type, or the one with the defaults of the type if there is none. -/
def provided (r : SlotRegistry) (bundle : Bundle) (type : SlotType) : Slot :=
  (r.get? bundle type).getD (Slot.ofType type)

/-- The registry with a slot of a type, which is made with the defaults of the type if there is
none. -/
def ensure (r : SlotRegistry) (bundle : Bundle) (type : SlotType) : SlotRegistry :=
  if r.has bundle type then r else r.put bundle (Slot.ofType type)

end SlotRegistry

/-! ## Publishing -/

namespace QuietHours

/-- With a slot quiet hours refuse no notification. -/
theorem passes_ne_error (mode : QuietMode) (slot : Slot) (request : NotificationRequest)
    (cause : Error) : passes mode (some slot) request ≠ .error cause := by
  cases mode with
  | allowAll => simp [passes]
  | allowAlarms =>
    rw [passes, bypasses]
    split <;> simp
  | allowNone => simp [passes, bypasses]
  | allowPriority => simp [passes]
  | allowUnknown => simp [passes]

/-- For a slot that was found the quiet hours have no objection. -/
theorem allowsAlert_ne_error (q : QuietHours) (mode : QuietMode) (now : DateTime) (slot : Slot)
    (request : NotificationRequest) (cause : Error) :
    q.allowsAlert mode now (some slot) request ≠ .ok (.error cause) := by
  intro h
  obtain ⟨active, -, h⟩ := Except.bind_eq_ok.1 h
  split at h
  case isTrue => exact passes_ne_error mode slot request cause (Except.ok.inj h)
  case isFalse => cases h

end QuietHours

namespace Service

variable {s s' : Service} {bundle : Bundle} {request : NotificationRequest} {now : DateTime}

theorem put_get? (s : Service) (n : Notification) (key : NotificationKey) :
    (s.put n).active.get? key = if key = n.key then some n else s.active.get? key :=
  Table.get?_insert s.active n.key key n

/-- With a name a slot is found or made.  Only one of the unknown type is not made. -/
theorem slotFor_eq {slots : SlotRegistry} {type : SlotType} (hbundle : bundle.validate = .ok ()) :
    slotFor slots bundle type =
      if type = .unknown ∧ ¬ slots.has bundle type then .error (.noSlot .unknown)
      else .ok (slots.ensure bundle type, slots.provided bundle type) := by
  rw [slotFor, SlotRegistry.ensure, SlotRegistry.provided, SlotRegistry.has]
  cases hget : slots.get? bundle type with
  | some slot => simp
  | none =>
    by_cases htype : type = .unknown
    · simp [htype]
    · have hadd : slots.add bundle (Slot.ofType type) =
          .ok (slots.put bundle (Slot.ofType type)) :=
        SlotRegistry.add_eq_ok_iff.2 ⟨hbundle, htype, rfl⟩
      simp only [hadd, htype, false_and]
      rfl

/-- Whether a bundle is permitted is decided by its name, then by whether it is barred, and then
by its slot. -/
theorem permit_eq (s : Service) (bundle : Bundle) (type : SlotType) :
    s.permit bundle type =
      if ¬ bundle.isNamed then .error (.invalidBundle bundle.name)
      else if ¬ s.isEnabled bundle then .error (.notAllowed bundle.name)
      else if type = .unknown ∧ ¬ s.slots.has bundle type then .error (.noSlot .unknown)
      else .ok (s.slots.ensure bundle type, s.slots.provided bundle type) := by
  rw [permit]
  cases hnamed : bundle.isNamed with
  | false => simp [Bundle.validate, hnamed, bind, Except.bind]
  | true =>
    have hbundle : bundle.validate = .ok () := Bundle.validate_eq_ok.2 hnamed
    cases henabled : s.isEnabled bundle with
    | false => simp [hbundle, bind, Except.bind, throw, throwThe, MonadExceptOf.throw]
    | true => simp [hbundle, bind, Except.bind, slotFor_eq hbundle]

/-- What is permitted has its slot, added now if the type is known. -/
theorem of_permit_ok {type : SlotType} {slots : SlotRegistry} {slot : Slot}
    (h : s.permit bundle type = .ok (slots, slot)) :
    slots = s.slots.ensure bundle type ∧ slot = s.slots.provided bundle type ∧
      (type = .unknown → s.slots.has bundle type) := by
  rw [permit_eq] at h
  split at h
  case isTrue => cases h
  case isFalse =>
    split at h
    case isTrue => cases h
    case isFalse =>
      split at h
      case isTrue => cases h
      case isFalse hslot =>
        cases h
        exact ⟨rfl, rfl, fun htype => not_not.1 fun hnone => hslot ⟨htype, hnone⟩⟩

/-- A bundle that may notify and has a name is refused no slot but the unknown one. -/
theorem of_permit_error {type : SlotType} {cause : Error} (hbundle : bundle.validate = .ok ())
    (henabled : s.isEnabled bundle) (h : s.permit bundle type = .error cause) :
    type = .unknown ∧ s.slots.get? bundle .unknown = none ∧ cause = .noSlot .unknown := by
  have hnamed := Bundle.validate_eq_ok.1 hbundle
  rw [permit_eq, if_neg (not_not.2 hnamed), if_neg (not_not.2 henabled)] at h
  split at h
  case isTrue hslot =>
    obtain ⟨rfl, hnone⟩ := hslot
    cases h
    exact ⟨rfl, by simpa [SlotRegistry.has] using hnone, rfl⟩
  case isFalse => cases h

/-- A publishing is refused and changes nothing, or the notification is shown, perhaps without
alerts. -/
theorem publish_outcome {result : Except Error Unit}
    (h : s.publish bundle request now = (s', .ok result)) :
    (∃ cause, s.permit bundle request.slotType = .error cause ∧ result = .error cause ∧ s' = s) ∨
      ∃ slots slot loud, s.permit bundle request.slotType = .ok (slots, slot) ∧ result = .ok () ∧
        s.hours.allowsAlert s.mode now (some slot)
          (Notification.present bundle request slot).request = .ok (.ok loud) ∧
        s' = { s with slots }.put (if loud then Notification.present bundle request slot
          else (Notification.present bundle request slot).silence) := by
  rw [publish] at h
  split at h
  case h_1 cause hpermit =>
    cases h
    exact .inl ⟨cause, hpermit, rfl, rfl⟩
  case h_2 slots slot hpermit =>
    simp only at h
    split at h
    case h_1 => cases h
    case h_2 cause hallows => exact absurd hallows (QuietHours.allowsAlert_ne_error _ _ _ _ _ _)
    case h_3 hallows =>
      cases h
      exact .inr ⟨slots, slot, true, hpermit, rfl, hallows, rfl⟩
    case h_4 hallows =>
      cases h
      exact .inr ⟨slots, slot, false, hpermit, rfl, hallows, rfl⟩

/-- Publishing is refused and changes nothing, or it adds the slot and puts the notification. -/
theorem publish_cases {result : Except Error Unit}
    (h : s.publish bundle request now = (s', .ok result)) :
    (∃ cause, s.permit bundle request.slotType = .error cause ∧ result = .error cause ∧ s' = s) ∨
      ∃ slots slot n, s.permit bundle request.slotType = .ok (slots, slot) ∧ result = .ok () ∧
        n.Shows bundle request ∧ s' = { s with slots }.put n := by
  obtain hrefused | ⟨slots, slot, loud, hpermit, hresult, -, hs'⟩ := publish_outcome h
  · exact .inl hrefused
  · have hshows := Notification.shows_present bundle request slot
    refine .inr ⟨slots, slot, _, hpermit, hresult, ?_, hs'⟩
    cases loud with
    | true => exact hshows
    | false => exact hshows.silence

/-- Publishing bars nobody. -/
theorem isEnabled_publish {result : Except Error Unit}
    (h : s.publish bundle request now = (s', .ok result)) : s'.isEnabled = s.isEnabled := by
  obtain ⟨_, -, -, rfl⟩ | ⟨_, _, _, -, -, -, rfl⟩ := publish_cases h
  · rfl
  · rfl

/-- Publishing leaves what is under other keys. -/
theorem publish_get?_of_ne {result : Except Error Unit} {key : NotificationKey}
    (h : s.publish bundle request now = (s', .ok result)) (hkey : key ≠ request.keyFor bundle) :
    s'.active.get? key = s.active.get? key := by
  obtain ⟨_, -, -, rfl⟩ | ⟨_, _, n, -, -, hshows, rfl⟩ := publish_cases h
  · rfl
  · rw [put_get?, if_neg (hshows.key_eq ▸ hkey)]

/-- Where nobody was barred everyone may notify. -/
theorem isEnabled_of_eq_nil (hnames : s.barredNames.entries = [])
    (husers : s.barredUsers.entries = []) (bundle : Bundle) : s.isEnabled bundle := by
  have hname : s.barredNames.get? bundle.name = none := by rw [Table.get?, hnames, Table.find?]
  have huser : ∀ uid, s.isUserAllowed uid := fun uid => by
    rw [isUserAllowed, Table.get?, husers, Table.find?, Option.isNone_none]
  simp [isEnabled, hname, Option.all_eq_true, huser]

/-! ## Taking away -/

/-- The notifications under some keys are gone, and all others are left. -/
def Drops (s : Service) (keys : List NotificationKey) (s' : Service) : Prop :=
  ∀ key, s'.active.get? key = if key ∈ keys then none else s.active.get? key

theorem Drops.of_active_eq (h : s'.active = s.active) : s.Drops [] s' := by
  intro key
  rw [h, if_neg (List.not_mem_nil)]

theorem Drops.trans {s'' : Service} {keys keys' : List NotificationKey} (h : s.Drops keys s')
    (h' : s'.Drops keys' s'') : s.Drops (keys ++ keys') s'' := by
  intro key
  rw [h' key, h key]
  by_cases hkey : key ∈ keys
  · simp [hkey]
  · simp [hkey]

theorem Drops.get?_of_not_mem {keys : List NotificationKey} {key : NotificationKey}
    (h : s.Drops keys s') (hkey : key ∉ keys) : s'.active.get? key = s.active.get? key := by
  rw [h key, if_neg hkey]

/-- Left is what was there under the other keys. -/
theorem Drops.isSome_iff {keys : List NotificationKey} {key : NotificationKey}
    (h : s.Drops keys s') :
    (s'.active.get? key).isSome ↔ key ∉ keys ∧ (s.active.get? key).isSome := by
  rw [h key]
  by_cases hkey : key ∈ keys
  · simp [hkey]
  · simp [hkey]

/-- A cancel drops the key that it names. -/
theorem cancel_drops {id : Int32} {label : String} (h : s.cancel bundle id label = .ok s') :
    s.Drops [⟨bundle.name, id, label⟩] s' := by
  rw [cancel] at h
  split at h
  case h_1 =>
    cases h
    intro key
    simp only [tell, List.mem_singleton]
    exact Table.get?_erase s.active _ key
  case h_2 => cases h

theorem cancel_error {id : Int32} {label : String} {cause : Error}
    (h : s.cancel bundle id label = .error cause) :
    s.active.get? ⟨bundle.name, id, label⟩ = none := by
  rw [cancel] at h
  split at h
  case h_1 => cases h
  case h_2 hget => exact hget

end Service

namespace Engine

variable {e : Engine} {caller : Bundle}

@[simp] theorem dismiss_schedule (e : Engine) (caller : Bundle) (notificationId : Int32) :
    (e.dismiss caller notificationId).schedule = e.schedule := by
  rw [dismiss]
  split
  · rfl
  · rfl

/-- Dismissing drops the key of the reminder, if it is there. -/
theorem dismiss_drops (e : Engine) (caller : Bundle) (notificationId : Int32) :
    e.service.Drops [⟨caller.name, notificationId, Entry.label⟩]
      (e.dismiss caller notificationId).service := by
  rw [dismiss]
  split
  case h_1 hcancel => exact Service.cancel_drops hcancel
  case h_2 hcancel =>
    have hnone := Service.cancel_error hcancel
    intro key
    by_cases hkey : key = ⟨caller.name, notificationId, Entry.label⟩
    · simp [hkey, hnone]
    · simp [hkey]

theorem foldl_dismiss_schedule (e : Engine) (caller : Bundle) (entries : List Entry) :
    (entries.foldl (fun e x => e.dismiss caller x.request.notificationId) e).schedule =
      e.schedule := by
  induction entries generalizing e with
  | nil => rfl
  | cons x rest ih => rw [List.foldl_cons, ih, dismiss_schedule]

/-- Several reminders of the caller are dismissed one after another. -/
theorem foldl_dismiss_drops (e : Engine) {entries : List Entry}
    (howned : ∀ x ∈ entries, x.isOwnedBy caller) :
    e.service.Drops (entries.map Entry.key)
      (entries.foldl (fun e x => e.dismiss caller x.request.notificationId) e).service := by
  induction entries generalizing e with
  | nil => exact .of_active_eq rfl
  | cons x rest ih =>
    rw [List.map_cons, Entry.key_of_isOwnedBy (howned x (by simp)), List.foldl_cons]
    exact (e.dismiss_drops caller _).trans (ih _ fun y hy => howned y (by simp [hy]))

/-! ## Showing several requests -/

/-- The key under which a request of a bundle is shown. -/
def keyOfShown (shown : Bundle × NotificationRequest) : NotificationKey := shown.2.keyFor shown.1

variable {service service' : Service} {now : DateTime} {key : NotificationKey}
  {shown : List (Bundle × NotificationRequest)}

/-- The first request is published, and then the others are shown. -/
theorem showAll_cons {bundle : Bundle} {request : NotificationRequest}
    (h : showAll service now ((bundle, request) :: shown) = (service', .ok ())) :
    ∃ between result, service.publish bundle request now = (between, .ok result) ∧
      showAll between now shown = (service', .ok ()) := by
  rw [showAll] at h
  split at h
  case h_1 => cases h
  case h_2 between result hpublish => exact ⟨between, result, hpublish, h⟩

/-- Showing reminders changes nothing under other keys. -/
theorem showAll_get?_eq (h : showAll service now shown = (service', .ok ()))
    (hkey : ∀ p ∈ shown, keyOfShown p ≠ key) :
    service'.active.get? key = service.active.get? key := by
  induction shown generalizing service with
  | nil =>
    cases h
    rfl
  | cons p rest ih =>
    obtain ⟨between, result, hpublish, hrest⟩ := showAll_cons h
    rw [ih hrest fun q hq => hkey q (by simp [hq]),
      Service.publish_get?_of_ne hpublish (hkey p (by simp)).symm]

/-- What is shown behind the last request under a key leaves it alone. -/
theorem showAll_shows {p : Bundle × NotificationRequest}
    (h : showAll service now shown = (service', .ok ()))
    (hlast : lastWith? keyOfShown key shown = some p) (hbundle : p.1.validate = .ok ())
    (henabled : service.isEnabled p.1) (hslot : p.2.slotType ≠ .unknown) :
    ∃ n, service'.active.get? key = some n ∧ n.Shows p.1 p.2 := by
  induction shown generalizing service with
  | nil => cases hlast
  | cons q rest ih =>
    obtain ⟨between, result, hpublish, hrest⟩ := showAll_cons h
    rw [← List.singleton_append, lastWith?_append] at hlast
    cases hbehind : lastWith? keyOfShown key rest with
    | some p' =>
      rw [hbehind, Option.some_or, Option.some.injEq] at hlast
      refine ih hrest (hbehind.trans (congrArg some hlast)) ?_
      rw [Service.isEnabled_publish hpublish]
      exact henabled
    | none =>
      rw [hbehind, Option.none_or] at hlast
      obtain ⟨rfl, hkey⟩ := eq_of_lastWith?_singleton hlast
      obtain ⟨_, hrefused, -⟩ | ⟨_, _, n, -, -, hshows, rfl⟩ := Service.publish_cases hpublish
      · exact absurd (Service.of_permit_error hbundle henabled hrefused).1 hslot
      · have hnkey : key = n.key := hkey.symm.trans hshows.key_eq.symm
        have hnone := lastWith?_eq_none_iff.1 hbehind
        refine ⟨n, ?_, hshows⟩
        rw [showAll_get?_eq hrest hnone, Service.put_get?, if_pos hnkey]

/-- Whatever is there was there before, or it was shown. -/
theorem of_showAll (h : showAll service now shown = (service', .ok ()))
    (hsome : (service'.active.get? key).isSome) :
    (service.active.get? key).isSome ∨ ∃ p ∈ shown, keyOfShown p = key := by
  by_cases hkey : ∃ p ∈ shown, keyOfShown p = key
  · exact .inr hkey
  · rw [showAll_get?_eq h fun p hp heq => hkey ⟨p, hp, heq⟩] at hsome
    exact .inl hsome

end Engine
end Reminders
