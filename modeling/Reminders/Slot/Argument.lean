import Reminders.Error

/-!
# Slots as arguments

Where a slot is wanted, a caller may give the number of a type, which stands for
the slot with the defaults of that type, or an object that describes a slot.  An
object needs only the `type`.  A part that is missing or null keeps the default
of the type.
-/

namespace Reminders

/-- What a caller gave in place of a slot. -/
inductive SlotArgument where
  /-- A slot described in full or in part. -/
  | described (slot : Slot)
  /-- A type alone. -/
  | typed (type : SlotType)
deriving DecidableEq

/-- A slot described in part. -/
structure SlotDescription where
  /-- The number of the type. -/
  type : Int
  /-- The number of the level. -/
  level : Option Int
  /-- What the owner says about the slot. -/
  description : Option String
  /-- Whether the notifications count on the badge. -/
  badge : Option Bool
  /-- Whether quiet hours do not mute them. -/
  bypassesQuiet : Option Bool
  /-- The number of the visibility. -/
  visibility : Option Int
  /-- Whether they vibrate. -/
  vibrates : Option Bool
  /-- The sound they make. -/
  sound : Option String
  /-- Whether they light up. -/
  lights : Option Bool
  /-- The colour of the light. -/
  lightColor : Option UInt32
  /-- The pattern of the vibration. -/
  vibration : Option (List Int64)

namespace SlotDescription

/-- A 32-bit integer, before it is known what it stands for. -/
def code? (value : Json) : Option Int := value.int32?.map Int32.toInt

/-- The description that the fields of an object give. -/
def ofFields? (fields : Json.Fields) : Option SlotDescription := do
  let part {α : Type} (name : String) (read : Json → Option α) : Option (Option α) :=
    fields.defaulted name (Json.nullable read) none
  let type ← fields.required "type" code?
  let level ← part "level" code?
  let description ← part "desc" Json.text?
  let badge ← part "badgeFlag" Json.bool?
  let bypassesQuiet ← part "bypassDnd" Json.bool?
  let visibility ← part "lockscreenVisibility" code?
  let vibrates ← part "vibrationEnabled" Json.bool?
  let sound ← part "sound" Json.text?
  let lights ← part "lightEnabled" Json.bool?
  let lightColor ← part "lightColor" Json.uint32?
  let vibration ← part "vibrationValues" (Json.list? Json.int64?)
  return { type, level, description, badge, bypassesQuiet, visibility, vibrates, sound, lights,
           lightColor, vibration }

/-- The choice that an optional number stands for, or a default. -/
def chosen {α : Type} [Coded α] (n : Option Int) (default : α) : Except Error α :=
  match n with
  | some n => Coded.ofNumber n
  | none => .ok default

/-- The slot described, with the defaults of its type for what is not said. -/
def toSlot (d : SlotDescription) : Except Error Slot := do
  let type ← Coded.ofNumber d.type
  let base := Slot.ofType type
  let level ← chosen d.level base.level
  let visibility ← chosen d.visibility base.visibility
  return {
    type, level, visibility
    description := d.description.getD base.description
    badge := d.badge.getD base.badge
    bypassesQuiet := d.bypassesQuiet.getD base.bypassesQuiet
    vibrates := d.vibrates.getD base.vibrates
    sound := d.sound.getD base.sound
    lights := d.lights.getD base.lights
    lightColor := d.lightColor.getD base.lightColor
    vibration := d.vibration.getD base.vibration }

end SlotDescription

namespace SlotArgument

/-- The argument that a number is. -/
def ofNumber (n : Number) : Except Error SlotArgument :=
  let code := match n with
    | .integer i => (int32? i).map Int32.toInt
    | .double _ => none
  match code with
  | some code => (Coded.ofNumber code).map .typed
  | none => .error (.invalid (.slotTypeRange n))

/-- The argument that an object with these fields is. -/
def ofFields (fields : Json.Fields) : Except Error SlotArgument :=
  match Json.objectFields? (Slot.parts.map (·.name)) (.object fields) with
  | none => .error (.invalid .slotDescription)
  | some fields =>
      match SlotDescription.ofFields? fields with
      | none => .error (.invalid .slotDescription)
      | some description => description.toSlot.map .described

/-- The argument that a JSON value is. -/
def ofJson : Json → Except Error SlotArgument
  | .null => .error (.invalid .nullSlot)
  | .number n => ofNumber n
  | .object fields => ofFields fields
  | value => .error (.invalid (.slotArgument value))

/-- The slot that is meant. -/
def slot : SlotArgument → Slot
  | .described slot => slot
  | .typed type => Slot.ofType type

end SlotArgument

end Reminders
