import Reminders.Quiet
import Reminders.Slot.Registry

/-!
# The notification service

The service holds the slots of all bundles and the notifications that are
active, each under its key.  A bundle may notify unless its name or its user was
barred.  A notification is presented as its slot says, and a missing slot is made
with the defaults of its type.  During quiet hours a notification may have to do
without sound, light and vibration.

Subscribers are told of each notification that appears or goes away, and of new
quiet hours unless they do not care.  `told` holds all that they were told so
far, in order.
-/

namespace Reminders

/-! ## Subscribers -/

/-- Someone who is told what happens. -/
structure Subscriber where
  /-- The number of the subscriber. -/
  number : Nat
  /-- Whether the subscriber does not care about quiet hours. -/
  ignoresQuiet : Bool := false
deriving Repr, DecidableEq, Inhabited

/-- What a subscriber is told. -/
inductive Notice where
  /-- A notification appeared. -/
  | consumed (n : Notification)
  /-- A notification went away. -/
  | canceled (n : Notification)
  /-- The quiet hours changed. -/
  | quiet (hours : QuietHours)
deriving DecidableEq, Inhabited

/-- Whether a subscriber wants to be told. -/
def Subscriber.wants (s : Subscriber) : Notice → Bool
  | .consumed _ | .canceled _ => true
  | .quiet _ => !s.ignoresQuiet

/-- What one subscriber was told. -/
structure Telling where
  /-- The number of the subscriber. -/
  who : Nat
  /-- What the subscriber was told. -/
  notice : Notice
deriving DecidableEq, Inhabited

/-! ## The service -/

/-- Slots, active notifications, permissions and quiet hours. -/
structure Service where
  /-- The slots of all bundles. -/
  slots : SlotRegistry := {}
  /-- The active notifications. -/
  active : Table NotificationKey Notification := {}
  /-- The names of the bundles that are barred. -/
  barredNames : Table String Unit := {}
  /-- The users that are barred. -/
  barredUsers : Table Int32 Unit := {}
  /-- What the quiet hours let through. -/
  mode : QuietMode := .allowAll
  /-- The quiet hours. -/
  hours : QuietHours := {}
  /-- Who is told what happens, in the order in which they are told. -/
  subscribers : List Subscriber := []
  /-- All that subscribers were told. -/
  told : List Telling := []
deriving Inhabited

namespace Service

/-! ## Telling -/

/-- What the subscribers are told by a notice. -/
def tellings (subscribers : List Subscriber) (notice : Notice) : List Telling :=
  (subscribers.filter fun s => s.wants notice).map fun s => ⟨s.number, notice⟩

/-- Tells the subscribers some notices, one after another. -/
def tell (s : Service) (notices : List Notice) : Service :=
  { s with told := s.told ++ notices.flatMap (tellings s.subscribers) }

/-- Adds a subscriber behind the others. -/
def subscribe (s : Service) (subscriber : Subscriber) : Service :=
  { s with subscribers := s.subscribers ++ [subscriber] }

/-! ## Permissions -/

/-- Whether a user may notify. -/
def isUserAllowed (s : Service) (uid : Int32) : Bool := (s.barredUsers.get? uid).isNone

/-- Whether a bundle may notify. -/
def isEnabled (s : Service) (bundle : Bundle) : Bool :=
  (s.barredNames.get? bundle.name).isNone && bundle.uid.all s.isUserAllowed

/-- Lets the bundles of a name notify, or bars them. -/
def enable (s : Service) (bundle : Bundle) (enabled : Bool) : Service :=
  { s with
    barredNames :=
      if enabled then s.barredNames.erase bundle.name else s.barredNames.insert bundle.name () }

/-- Lets a user notify, or bars the user. -/
def allowUser (s : Service) (uid : Int32) (allowed : Bool) : Service :=
  { s with
    barredUsers := if allowed then s.barredUsers.erase uid else s.barredUsers.insert uid () }

/-! ## Slots -/

/-- Adds a slot of a bundle. -/
def addSlot (s : Service) (bundle : Bundle) (slot : Slot) : Except Error Service :=
  (s.slots.add bundle slot).map fun slots => { s with slots }

/-- Adds the slots of a list, unless one of them is of the unknown type. -/
def addSlots (s : Service) (bundle : Bundle) (slots : List Slot) : Outcome Service Unit :=
  let (slots, result) := s.slots.addAll bundle slots
  ({ s with slots }, result)

/-- Drops the slot of a type, and says whether there was one. -/
def removeSlot (s : Service) (bundle : Bundle) (type : SlotType) : Service × Bool :=
  ({ s with slots := s.slots.remove bundle type }, s.slots.has bundle type)

/-- Drops all slots of a bundle, and says how many they were. -/
def removeSlots (s : Service) (bundle : Bundle) : Service × Nat :=
  ({ s with slots := s.slots.removeAll bundle }, s.slots.count bundle)

/-- The slot of a type, and the registry that has it.  A missing slot is made,
unless its type is unknown. -/
def slotFor (slots : SlotRegistry) (bundle : Bundle) (type : SlotType) :
    Except Error (SlotRegistry × Slot) :=
  match slots.get? bundle type with
  | some slot => .ok (slots, slot)
  | none =>
      if type = .unknown then .error (.noSlot type)
      else
        let slot := Slot.ofType type
        (slots.add bundle slot).map fun slots => (slots, slot)

/-! ## Notifications -/

/-- Whether a bundle may publish a notification, and the slot it belongs to. -/
def permit (s : Service) (bundle : Bundle) (type : SlotType) :
    Except Error (SlotRegistry × Slot) := do
  bundle.validate
  if s.isEnabled bundle then slotFor s.slots bundle type else throw (.notAllowed bundle.name)

/-- Shows a notification in place of the one with its key. -/
def put (s : Service) (n : Notification) : Service :=
  { s with active := s.active.insert n.key n }.tell [.consumed n]

/-- Shows what a bundle asks to be shown. -/
def publish (s : Service) (bundle : Bundle) (request : NotificationRequest) (now : DateTime) :
    Attempt Service (Except Error Unit) :=
  match s.permit bundle request.slotType with
  | .error e => (s, .ok (.error e))
  | .ok (slots, slot) =>
      let s := { s with slots }
      let n := Notification.present bundle request slot
      match s.hours.allowsAlert s.mode now (some slot) n.request with
      | .error overflow => (s, .error overflow)
      | .ok (.error e) => (s, .ok (.error e))
      | .ok (.ok true) => (s.put n, .ok (.ok ()))
      | .ok (.ok false) => (s.put n.silence, .ok (.ok ()))

/-- Takes a notification away. -/
def cancel (s : Service) (bundle : Bundle) (id : Int32) (label : String) : Except Error Service :=
  let key : NotificationKey := ⟨bundle.name, id, label⟩
  match s.active.get? key with
  | some n => .ok ({ s with active := s.active.erase key }.tell [.canceled n])
  | none => .error (.noNotification id label)

/-- The notifications of a bundle, in the order of their keys. -/
def activeOf (s : Service) (bundle : Bundle) : List Notification :=
  s.active.values.filter fun n => n.bundle.name == bundle.name

/-- How many notifications a bundle has. -/
def countOf (s : Service) (bundle : Bundle) : Nat :=
  s.active.keys.countP fun key => key.bundle == bundle.name

/-- All notifications, in the order of their keys. -/
def all (s : Service) : List Notification := s.active.values

/-- Takes all notifications of a bundle away, and says how many they were. -/
def cancelAll (s : Service) (bundle : Bundle) : Service × Nat :=
  let removed := (s.active.filter fun key => key.bundle == bundle.name).values
  let kept := s.active.filter fun key => key.bundle != bundle.name
  ({ s with active := kept }.tell (removed.map .canceled), removed.length)

/-! ## Quiet hours -/

/-- Sets the quiet hours. -/
def setHours (s : Service) (hours : QuietHours) : Except Error Service := do
  hours.validate
  return { s with hours }.tell [.quiet hours]

/-- Sets what the quiet hours let through. -/
def setMode (s : Service) (mode : QuietMode) : Service := { s with mode }

/-- Whether quiet hours have modes. -/
def supportsModes (_ : Service) : Bool := true

end Service

end Reminders
