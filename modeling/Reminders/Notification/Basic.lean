import Reminders.Action
import Reminders.Bundle
import Reminders.Notification.Content
import Reminders.Slot.Basic

/-!
# Notifications

A *request* says what is to be shown and of which slot type it is.  A
`Notification` is a request of a bundle together with the presentation that was
decided for it.  It is known by its key: the name of the bundle, an id and a
label.  The keys are ordered by name, then id, then label.
-/

namespace Reminders

/-! ## Requests -/

/-- What a bundle asks to be shown. -/
structure NotificationRequest where
  /-- An id that the bundle chose. -/
  id : Int32
  /-- A label that the bundle chose. -/
  label : String := ""
  /-- The type of the slot it belongs to. -/
  slotType : SlotType
  /-- What it says. -/
  content : Content
  /-- What a tap opens. -/
  wantAgent : Option Ability := none
  /-- Whether it stands for something that goes on. -/
  isOngoing : Bool := false
  /-- Whether the user cannot remove it. -/
  isUnremovable : Bool := false
  /-- Whether a tap dismisses it. -/
  tapDismissed : Bool := true
  /-- When it is deleted, in milliseconds. -/
  autoDeletedTime : Option Int64 := none
  /-- What it is classified as. -/
  classification : Option String := none
  /-- When it was delivered, in milliseconds. -/
  deliveryTime : Option Int64 := none
  /-- Whether it shows when it was delivered. -/
  showDeliveryTime : Bool := false
  /-- Its buttons. -/
  actionButtons : List ActionButton := []
  /-- What the lock screen shows of it. -/
  visibility : Visibility := .noOverride
deriving DecidableEq, Inhabited

namespace NotificationRequest

/-- The classification of alarms. -/
def alarmClass : String := "alarm"

/-- Whether the notification is classified as an alarm. -/
def isAlarm (r : NotificationRequest) : Bool := r.classification == some alarmClass

/-- The parts of a request in their order. -/
def parts : List Json.Part :=
  [.needed "id", .optional "label", .needed "slotType", .needed "content", .optional "wantAgent",
    .optional "isOngoing", .optional "isUnremovable", .optional "tapDismissed",
    .optional "autoDeletedTime", .optional "classification", .optional "deliveryTime",
    .optional "showDeliveryTime", .optional "actionButtons", .optional "visibility"]

/-- A request as a JSON value. -/
def toJson (r : NotificationRequest) : Json :=
  .object [
    ("id", .int r.id.toInt),
    ("label", .text r.label),
    ("slotType", Coded.toJson r.slotType),
    ("content", r.content.toJson),
    ("wantAgent", .option Ability.toJson r.wantAgent),
    ("isOngoing", .bool r.isOngoing),
    ("isUnremovable", .bool r.isUnremovable),
    ("tapDismissed", .bool r.tapDismissed),
    ("autoDeletedTime", .option (fun t => .int t.toInt) r.autoDeletedTime),
    ("classification", .option .text r.classification),
    ("deliveryTime", .option (fun t => .int t.toInt) r.deliveryTime),
    ("showDeliveryTime", .bool r.showDeliveryTime),
    ("actionButtons", .list ActionButton.toJson r.actionButtons),
    ("visibility", Coded.toJson r.visibility)]

/-- The request that a JSON value holds. -/
def ofJson? (value : Json) : Option NotificationRequest := do
  let fields ← Json.fields? parts value
  let id ← fields.required "id" Json.int32?
  let label ← fields.defaulted "label" Json.text? ""
  let slotType ← fields.required "slotType" Coded.ofJson?
  let content ← fields.required "content" Content.ofJson?
  let wantAgent ← fields.defaulted "wantAgent" (Json.nullable Ability.ofJson?) none
  let isOngoing ← fields.defaulted "isOngoing" Json.bool? false
  let isUnremovable ← fields.defaulted "isUnremovable" Json.bool? false
  let tapDismissed ← fields.defaulted "tapDismissed" Json.bool? true
  let autoDeletedTime ← fields.defaulted "autoDeletedTime" (Json.nullable Json.int64?) none
  let classification ← fields.defaulted "classification" (Json.nullable Json.text?) none
  let deliveryTime ← fields.defaulted "deliveryTime" (Json.nullable Json.int64?) none
  let showDeliveryTime ← fields.defaulted "showDeliveryTime" Json.bool? false
  let actionButtons ← fields.defaulted "actionButtons" (Json.list? ActionButton.ofJson?) []
  let visibility ← fields.defaulted "visibility" Coded.ofJson? .noOverride
  return { id, label, slotType, content, wantAgent, isOngoing, isUnremovable, tapDismissed,
           autoDeletedTime, classification, deliveryTime, showDeliveryTime, actionButtons,
           visibility }

end NotificationRequest

/-! ## Keys -/

/-- What a notification is known by. -/
structure NotificationKey where
  /-- The name of the bundle. -/
  bundle : String
  /-- The id that the bundle chose. -/
  id : Int32
  /-- The label that the bundle chose. -/
  label : String
deriving DecidableEq, Inhabited

namespace NotificationKey

instance : Ord NotificationKey :=
  ⟨compareLex (compareOn NotificationKey.bundle)
    (compareLex (compareOn NotificationKey.id) (compareOn NotificationKey.label))⟩

instance : Std.TransOrd NotificationKey :=
  inferInstanceAs (Std.TransCmp (compareLex (compareOn NotificationKey.bundle)
    (compareLex (compareOn NotificationKey.id) (compareOn NotificationKey.label))))

instance : Std.LawfulEqOrd NotificationKey where
  eq_of_compare {a b} h := by
    obtain ⟨hbundle, hrest⟩ := Ordering.then_eq_eq.1 h
    obtain ⟨hid, hlabel⟩ := Ordering.then_eq_eq.1 hrest
    have hbundle : a.bundle = b.bundle := Std.LawfulEqCmp.eq_of_compare hbundle
    have hid : a.id = b.id := Std.LawfulEqCmp.eq_of_compare hid
    have hlabel : a.label = b.label := Std.LawfulEqCmp.eq_of_compare hlabel
    cases a
    cases b
    simp_all

/-- A key as a JSON value. -/
def toJson (k : NotificationKey) : Json :=
  .object [("bundle", .text k.bundle), ("id", .int k.id.toInt), ("label", .text k.label)]

end NotificationKey

/-! ## Notifications -/

/-- A request of a bundle and how it is presented. -/
structure Notification where
  /-- Who shows it. -/
  bundle : Bundle
  /-- What is shown. -/
  request : NotificationRequest
  /-- Whether it makes a sound. -/
  sounds : Bool := false
  /-- Whether it lights up. -/
  lights : Bool := false
  /-- Whether it vibrates. -/
  vibrates : Bool := false
  /-- The sound of its slot. -/
  sound : String := ""
  /-- The colour of the light of its slot. -/
  lightColor : UInt32 := 0
  /-- The pattern of the vibration of its slot. -/
  vibration : List Int64 := []
deriving DecidableEq, Inhabited

namespace Notification

/-- What the notification is known by. -/
def key (n : Notification) : NotificationKey := ⟨n.bundle.name, n.request.id, n.request.label⟩

/-- The notification without sound, light and vibration. -/
def silence (n : Notification) : Notification :=
  { n with sounds := false, lights := false, vibrates := false }

/-- The notification of a request, presented as a slot says.  A request that
leaves its visibility open takes that of the slot. -/
def present (bundle : Bundle) (request : NotificationRequest) (slot : Slot) : Notification where
  bundle := bundle
  request :=
    if request.visibility = .noOverride then { request with visibility := slot.visibility }
    else request
  sounds := slot.sounds
  lights := slot.lights
  vibrates := slot.vibrates
  sound := slot.sound
  lightColor := slot.lightColor
  vibration := slot.vibration

/-- A notification as a JSON value. -/
def toJson (n : Notification) : Json :=
  .object [
    ("bundle", n.bundle.toJson),
    ("request", n.request.toJson),
    ("enableSound", .bool n.sounds),
    ("enableLight", .bool n.lights),
    ("enableVibration", .bool n.vibrates),
    ("sound", .text n.sound),
    ("lightColor", .int n.lightColor.toNat),
    ("vibrationValues", .list (fun v => .int v.toInt) n.vibration)]

/-- The notification that a JSON value holds. -/
def ofJson? (value : Json) : Option Notification := do
  let fields ← Json.fields? [.needed "bundle", .needed "request", .needed "enableSound",
    .needed "enableLight", .needed "enableVibration", .needed "sound", .needed "lightColor",
    .needed "vibrationValues"] value
  let bundle ← fields.required "bundle" Bundle.ofJson?
  let request ← fields.required "request" NotificationRequest.ofJson?
  let sounds ← fields.required "enableSound" Json.bool?
  let lights ← fields.required "enableLight" Json.bool?
  let vibrates ← fields.required "enableVibration" Json.bool?
  let sound ← fields.required "sound" Json.text?
  let lightColor ← fields.required "lightColor" Json.uint32?
  let vibration ← fields.required "vibrationValues" (Json.list? Json.int64?)
  return { bundle, request, sounds, lights, vibrates, sound, lightColor, vibration }

end Notification

end Reminders
