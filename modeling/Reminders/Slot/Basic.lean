import Reminders.Coded

/-!
# Slots

A *slot* says how the notifications of one type are presented: how prominent
they are, what the lock screen shows of them, and whether they sound, light up
and vibrate.  Every type has presentation defaults, which `Slot.ofType` gives.
-/

namespace Reminders

/-! ## Types, levels and visibilities -/

/-- What the notifications of a slot are about. -/
inductive SlotType where
  | unknown
  | socialCommunication
  | serviceInformation
  | contentInformation
  | other
deriving Repr, DecidableEq, Inhabited

/-- How prominent the notifications of a slot are. -/
inductive SlotLevel where
  | none
  | min
  | low
  | normal
  | high
deriving Repr, DecidableEq, Inhabited

/-- What the lock screen shows of a notification. -/
inductive Visibility where
  | noOverride
  | shown
  | secret
  | hidden
deriving Repr, DecidableEq, Inhabited

instance : Coded SlotType where
  title := "slot type"
  choices := [.unknown, .socialCommunication, .serviceInformation, .contentInformation, .other]
  number
    | .unknown => 0
    | .socialCommunication => 1
    | .serviceInformation => 2
    | .contentInformation => 3
    | .other => 65535
  name
    | .unknown => "UnknownType"
    | .socialCommunication => "SocialCommunication"
    | .serviceInformation => "ServiceInformation"
    | .contentInformation => "ContentInformation"
    | .other => "OtherTypes"
  find_number a := by cases a <;> rfl

instance : Coded SlotLevel where
  title := "slot level"
  choices := [.none, .min, .low, .normal, .high]
  number
    | .none => 0
    | .min => 1
    | .low => 2
    | .normal => 3
    | .high => 4
  name
    | .none => "None"
    | .min => "Min"
    | .low => "Low"
    | .normal => "Default"
    | .high => "High"
  find_number a := by cases a <;> rfl

instance : Coded Visibility where
  title := "visibility"
  choices := [.noOverride, .shown, .secret, .hidden]
  number
    | .noOverride => 0
    | .shown => 1
    | .secret => 2
    | .hidden => 3
  name
    | .noOverride => "NoOverride"
    | .shown => "Public"
    | .secret => "Secret"
    | .hidden => "Private"
  find_number a := by cases a <;> rfl

/-! ## Slots -/

/-- How the notifications of one type are presented. -/
structure Slot where
  /-- The type of the notifications. -/
  type : SlotType
  /-- How prominent they are. -/
  level : SlotLevel
  /-- What the owner says about them. -/
  description : String
  /-- Whether they count on the badge. -/
  badge : Bool
  /-- Whether quiet hours do not mute them. -/
  bypassesQuiet : Bool
  /-- What the lock screen shows of them. -/
  visibility : Visibility
  /-- Whether they vibrate. -/
  vibrates : Bool
  /-- The sound they make, empty for none. -/
  sound : String
  /-- Whether they light up. -/
  lights : Bool
  /-- The colour of the light. -/
  lightColor : UInt32
  /-- The pattern of the vibration. -/
  vibration : List Int64
deriving DecidableEq, Inhabited

namespace Slot

/-- The slot with the presentation defaults of a type. -/
def ofType (type : SlotType) : Slot :=
  let (visibility, vibrates, level) : Visibility × Bool × SlotLevel :=
    match type with
    | .socialCommunication => (.shown, true, .high)
    | .serviceInformation => (.shown, true, .normal)
    | .contentInformation => (.secret, false, .low)
    | .other => (.secret, false, .min)
    | .unknown => (.noOverride, false, .none)
  { type, level, visibility, vibrates
    description := ""
    badge := true
    bypassesQuiet := false
    sound := ""
    lights := false
    lightColor := 0
    vibration := [] }

/-- Whether the notifications make a sound. -/
def sounds (s : Slot) : Bool := s.sound ≠ ""

/-! ## In JSON -/

/-- The parts of a slot in their order. -/
def parts : List Json.Part :=
  ["type", "level", "desc", "badgeFlag", "bypassDnd", "lockscreenVisibility", "vibrationEnabled",
    "sound", "lightEnabled", "lightColor", "vibrationValues"].map .needed

/-- A slot as a JSON value. -/
def toJson (s : Slot) : Json :=
  .object [
    ("type", Coded.toJson s.type),
    ("level", Coded.toJson s.level),
    ("desc", .text s.description),
    ("badgeFlag", .bool s.badge),
    ("bypassDnd", .bool s.bypassesQuiet),
    ("lockscreenVisibility", Coded.toJson s.visibility),
    ("vibrationEnabled", .bool s.vibrates),
    ("sound", .text s.sound),
    ("lightEnabled", .bool s.lights),
    ("lightColor", .int s.lightColor.toNat),
    ("vibrationValues", .list (fun n => .int n.toInt) s.vibration)]

/-- The slot that a JSON value holds in full. -/
def ofJson? (value : Json) : Option Slot := do
  let fields ← Json.fields? parts value
  let type ← fields.required "type" Coded.ofJson?
  let level ← fields.required "level" Coded.ofJson?
  let description ← fields.required "desc" Json.text?
  let badge ← fields.required "badgeFlag" Json.bool?
  let bypassesQuiet ← fields.required "bypassDnd" Json.bool?
  let visibility ← fields.required "lockscreenVisibility" Coded.ofJson?
  let vibrates ← fields.required "vibrationEnabled" Json.bool?
  let sound ← fields.required "sound" Json.text?
  let lights ← fields.required "lightEnabled" Json.bool?
  let lightColor ← fields.required "lightColor" Json.uint32?
  let vibration ← fields.required "vibrationValues" (Json.list? Json.int64?)
  return { type, level, description, badge, bypassesQuiet, visibility, vibrates, sound, lights,
           lightColor, vibration }

end Slot

end Reminders
