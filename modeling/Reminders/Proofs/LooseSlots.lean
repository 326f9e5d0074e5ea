import Reminders.Proofs.AddedFields
import Reminders.Proofs.RequestRecords
import Reminders.Slot.Argument

/-!
# Slots that say less

An object in place of a slot may leave out any of its settings, or give null for them.  What it
then means is the slot with those settings reset to the defaults of its type, however the fields
are ordered and whatever others stand among them (`SlotArgument.ofJson_looseFields`).  So an
object that leaves nothing out is read back, as the strict reader does.

A number means what an object means that gives it as its type and says no more
(`SlotArgument.ofJson_number_alike`).
-/

namespace Reminders

/-! ## Settings -/

namespace Slot

/-- What a slot says besides its type. -/
inductive Setting where
  | level
  | description
  | badge
  | bypassesQuiet
  | visibility
  | vibrates
  | sound
  | lights
  | lightColor
  | vibration
deriving DecidableEq

namespace Setting

/-- All settings, in the order of their fields. -/
def all : List Setting :=
  [.level, .description, .badge, .bypassesQuiet, .visibility, .vibrates, .sound, .lights,
    .lightColor, .vibration]

/-- The name of the field of a setting. -/
def name : Setting → String
  | .level => "level"
  | .description => "desc"
  | .badge => "badgeFlag"
  | .bypassesQuiet => "bypassDnd"
  | .visibility => "lockscreenVisibility"
  | .vibrates => "vibrationEnabled"
  | .sound => "sound"
  | .lights => "lightEnabled"
  | .lightColor => "lightColor"
  | .vibration => "vibrationValues"

theorem mem_all (setting : Setting) : setting ∈ all := by
  cases setting <;> decide

theorem name_inj {a b : Setting} (h : a.name = b.name) : a = b := by
  cases a <;> cases b <;> first | rfl | exact absurd h (by decide)

end Setting

/-- The slot with the chosen settings reset to the defaults of its type. -/
def reset (s : Slot) (chosen : Setting → Prop) [DecidablePred chosen] : Slot where
  type := s.type
  level := if chosen .level then (ofType s.type).level else s.level
  description := if chosen .description then (ofType s.type).description else s.description
  badge := if chosen .badge then (ofType s.type).badge else s.badge
  bypassesQuiet := if chosen .bypassesQuiet then (ofType s.type).bypassesQuiet else s.bypassesQuiet
  visibility := if chosen .visibility then (ofType s.type).visibility else s.visibility
  vibrates := if chosen .vibrates then (ofType s.type).vibrates else s.vibrates
  sound := if chosen .sound then (ofType s.type).sound else s.sound
  lights := if chosen .lights then (ofType s.type).lights else s.lights
  lightColor := if chosen .lightColor then (ofType s.type).lightColor else s.lightColor
  vibration := if chosen .vibration then (ofType s.type).vibration else s.vibration

/-! ## Objects that say less -/

/-- A setting as a JSON value. -/
def settingJson (s : Slot) : Setting → Json
  | .level => Coded.toJson s.level
  | .description => .text s.description
  | .badge => .bool s.badge
  | .bypassesQuiet => .bool s.bypassesQuiet
  | .visibility => Coded.toJson s.visibility
  | .vibrates => .bool s.vibrates
  | .sound => .text s.sound
  | .lights => .bool s.lights
  | .lightColor => .int s.lightColor.toNat
  | .vibration => .list (fun n => .int n.toInt) s.vibration

theorem settingJson_ne_null (s : Slot) (setting : Setting) : s.settingJson setting ≠ .null := by
  cases setting <;> simp [settingJson, Coded.toJson, Json.int, Json.list]

/-- How an object gives a setting. -/
inductive Given where
  /-- As it is. -/
  | full
  /-- As null. -/
  | null
  /-- Not at all. -/
  | missing
deriving DecidableEq

/-- A setting as an object gives it. -/
def givenJson (s : Slot) (given : Setting → Given) (setting : Setting) : Json :=
  if given setting = .null then .null else s.settingJson setting

/-- The fields of a slot, some of which are null or left out. -/
def looseFields (s : Slot) (given : Setting → Given) : Json.Fields :=
  ("type", Coded.toJson s.type) ::
    (Setting.all.filter fun setting => given setting ≠ .missing).map fun setting =>
      (setting.name, s.givenJson given setting)

theorem toJson_eq (s : Slot) : s.toJson = .object (s.looseFields fun _ => .full) := rfl

/-- The names of the fields of a slot. -/
def names : List String := parts.map Json.Part.name

theorem names_eq : names = "type" :: Setting.all.map Setting.name := rfl

/-- No field of a slot comes twice, whichever are left out. -/
theorem nodup_looseFields (s : Slot) (given : Setting → Given) :
    ((s.looseFields given).map Prod.fst).Nodup := by
  have hsub : ((s.looseFields given).map Prod.fst).Sublist names := by
    rw [looseFields, List.map_cons, List.map_map, names_eq]
    exact (List.filter_sublist.map Setting.name).cons_cons "type"
  exact hsub.nodup (by decide)

/-- Under the name of a setting stands what the object gives of it. -/
theorem get?_map_name (f : Setting → Json) (settings : List Setting) (setting : Setting) :
    Json.Fields.get? (settings.map fun a => (a.name, f a)) setting.name =
      if setting ∈ settings then some (f setting) else none := by
  rw [Json.Fields.get?]
  induction settings with
  | nil => rfl
  | cons a rest ih =>
    by_cases h : setting = a
    · simp [h]
    · have hname : setting.name ≠ a.name := fun heq => h (Setting.name_inj heq)
      simp [List.lookup_cons, beq_eq_false_iff_ne.2 hname, ih, h]

variable {s : Slot} {given : Setting → Given} {α : Type} {read : Json → Option α} {a : α}

/-- A setting that is null or left out is not known, and any other is read as it was written. -/
theorem defaulted_looseFields (setting : Setting)
    (hread : read (s.settingJson setting) = some a) :
    (s.looseFields given).defaulted setting.name (Json.nullable read) none =
      some (if given setting ≠ .full then none else some a) := by
  have htype : setting.name ≠ "type" := by cases setting <;> decide
  rw [looseFields, Json.Fields.defaulted_cons_of_ne htype, Json.Fields.defaulted, get?_map_name]
  cases hgiven : given setting with
  | full =>
    rw [if_pos (by simp [setting.mem_all, hgiven])]
    simp [givenJson, hgiven, Json.nullable_of_ne_null (s.settingJson_ne_null setting), hread]
  | null =>
    rw [if_pos (by simp [setting.mem_all, hgiven])]
    simp [givenJson, hgiven, Json.nullable]
  | missing => simp [hgiven]

end Slot

/-! ## Descriptions -/

/-- A code number is read back. -/
theorem Coded.ofNumber_number {α : Type} [Coded α] (a : α) :
    (ofNumber (number a) : Except Error α) = .ok a := by
  rw [ofNumber, ofNumber?_number]

namespace SlotDescription

theorem code?_slotType (type : SlotType) :
    code? (Coded.toJson type) = some (Coded.number type) := by
  cases type <;> rfl

theorem code?_slotLevel (level : SlotLevel) :
    code? (Coded.toJson level) = some (Coded.number level) := by
  cases level <;> rfl

theorem code?_visibility (visibility : Visibility) :
    code? (Coded.toJson visibility) = some (Coded.number visibility) := by
  cases visibility <;> rfl

theorem chosen_ite {α : Type} [Coded α] (p : Prop) [Decidable p] (a default : α) :
    chosen (if p then none else some (Coded.number a)) default =
      .ok (if p then default else a) := by
  split
  · rfl
  · exact Coded.ofNumber_number a

theorem getD_ite {α : Type} (p : Prop) [Decidable p] (a default : α) :
    (if p then none else some a).getD default = if p then default else a := by
  split <;> rfl

/-- What an object says that gives the settings of a slot in these ways. -/
def ofGiven (s : Slot) (given : Slot.Setting → Slot.Given) : SlotDescription where
  type := Coded.number s.type
  level := if given .level ≠ .full then none else some (Coded.number s.level)
  description := if given .description ≠ .full then none else some s.description
  badge := if given .badge ≠ .full then none else some s.badge
  bypassesQuiet := if given .bypassesQuiet ≠ .full then none else some s.bypassesQuiet
  visibility := if given .visibility ≠ .full then none else some (Coded.number s.visibility)
  vibrates := if given .vibrates ≠ .full then none else some s.vibrates
  sound := if given .sound ≠ .full then none else some s.sound
  lights := if given .lights ≠ .full then none else some s.lights
  lightColor := if given .lightColor ≠ .full then none else some s.lightColor
  vibration := if given .vibration ≠ .full then none else some s.vibration

variable {s : Slot} {given : Slot.Setting → Slot.Given} {fields added : Json.Fields}

/-- Whatever is added, an object says just what it gives of the slot. -/
theorem ofFields?_looseFields (h : fields.Extends Slot.names (s.looseFields given) added) :
    ofFields? fields = some (ofGiven s given) := by
  have hown := s.nodup_looseFields given
  have hpart : ∀ {α : Type} {read : Json → Option α} {a : α} (name : String)
      (setting : Slot.Setting), setting.name = name → read (s.settingJson setting) = some a →
      fields.defaulted name (Json.nullable read) none =
        some (if given setting ≠ .full then none else some a) := by
    rintro α read a _ setting rfl hread
    have hname : setting.name ∈ Slot.names :=
      List.mem_cons_of_mem _ (List.mem_map_of_mem setting.mem_all)
    rw [h.defaulted_eq hown hname, Slot.defaulted_looseFields setting hread]
  have htype : fields.required "type" code? = some (Coded.number s.type) := by
    rw [h.required_eq hown (by decide), Slot.looseFields, Json.Fields.required_cons, code?_slotType]
  have hcolor : Json.uint32? (s.settingJson .lightColor) = some s.lightColor := by
    rw [Slot.settingJson, Json.uint32?, Json.int, Json.int?, Option.bind_some, uint32?_toNat]
  have hvibration : Json.list? Json.int64? (s.settingJson .vibration) = some s.vibration :=
    Json.list?_list Json.int64?_int s.vibration
  simp only [ofFields?, htype,
    hpart "level" .level rfl (code?_slotLevel s.level),
    hpart "desc" .description rfl (Json.text?_text s.description),
    hpart "badgeFlag" .badge rfl (Json.bool?_bool s.badge),
    hpart "bypassDnd" .bypassesQuiet rfl (Json.bool?_bool s.bypassesQuiet),
    hpart "lockscreenVisibility" .visibility rfl (code?_visibility s.visibility),
    hpart "vibrationEnabled" .vibrates rfl (Json.bool?_bool s.vibrates),
    hpart "sound" .sound rfl (Json.text?_text s.sound),
    hpart "lightEnabled" .lights rfl (Json.bool?_bool s.lights),
    hpart "lightColor" .lightColor rfl hcolor,
    hpart "vibrationValues" .vibration rfl hvibration]
  rfl

/-- This means the slot with the settings reset that are not given. -/
theorem toSlot_ofGiven (s : Slot) (given : Slot.Setting → Slot.Given) :
    (ofGiven s given).toSlot = .ok (s.reset fun setting => given setting ≠ .full) := by
  simp only [toSlot, ofGiven, Coded.ofNumber_number, chosen_ite, getD_ite, bind, Except.bind,
    pure, Except.pure]
  rfl

/-- What an object says that gives a type alone. -/
def ofCode (code : Int) : SlotDescription :=
  ⟨code, none, none, none, none, none, none, none, none, none, none⟩

/-- A description with nothing but a type is that of the type. -/
theorem ofFields?_type (value : Json) :
    ofFields? [("type", value)] = (code? value).map ofCode := by
  rw [ofFields?, Json.Fields.required_cons]
  cases code? value <;> rfl

/-- Such a description makes the slot of the type. -/
theorem toSlot_ofCode (code : Int) :
    (ofCode code).toSlot = (Coded.ofNumber code).map Slot.ofType := by
  rw [toSlot, ofCode]
  cases (Coded.ofNumber code : Except Error SlotType) <;> rfl

end SlotDescription

/-! ## Arguments -/

namespace SlotArgument

variable {s : Slot} {given : Slot.Setting → Slot.Given} {fields added : Json.Fields}

/-- An object means the slot with the settings reset that it does not give. -/
theorem ofJson_looseFields (h : fields.Extends Slot.names (s.looseFields given) added) :
    ofJson (.object fields) =
      .ok (.described (s.reset fun setting => given setting ≠ .full)) := by
  have hopen : Json.objectFields? (Slot.parts.map (·.name)) (.object fields) = some fields :=
    h.objectFields?_eq (s.nodup_looseFields given) fun _ hname => hname
  rw [ofJson, ofFields, hopen]
  simp only [SlotDescription.ofFields?_looseFields h, SlotDescription.toSlot_ofGiven]
  rfl

/-- The strict form of a slot is read back. -/
theorem ofJson_toJson (s : Slot) : ofJson s.toJson = .ok (.described s) := by
  rw [Slot.toJson_eq, ofJson_looseFields (.refl _ Slot.names)]
  rfl

/-! ## A type alone -/

/-- Two answers about an argument are alike if both refuse its content, or both allow it and mean
the same slot. -/
def Alike : Except Error SlotArgument → Except Error SlotArgument → Prop
  | .ok a, .ok b => a.slot = b.slot
  | .error (.invalid _), .error (.invalid _) => True
  | _, _ => False

/-- An argument that is a number is a type, if there is one with it. -/
theorem ofJson_number (n : Number) :
    ofJson (.number n) = match SlotDescription.code? (.number n) with
      | some code => (Coded.ofNumber code).map .typed
      | none => .error (.invalid (.slotTypeRange n)) := by
  cases n <;> rfl

/-- An argument with nothing but a type is the slot of that type, if there is one. -/
theorem ofJson_type (value : Json) :
    ofJson (.object [("type", value)]) = match SlotDescription.code? value with
      | some code => ((Coded.ofNumber code).map Slot.ofType).map .described
      | none => .error (.invalid .slotDescription) := by
  have hopen : Json.objectFields? (Slot.parts.map (·.name)) (.object [("type", value)]) =
      some [("type", value)] := Json.objectFields?_object (by simp) _
  rw [ofJson, ofFields, hopen]
  simp only [SlotDescription.ofFields?_type]
  cases SlotDescription.code? value with
  | none => rfl
  | some code => exact congrArg (Except.map _) (SlotDescription.toSlot_ofCode code)

/-- A number means what it means as the type in an object that says no more. -/
theorem ofJson_number_alike (n : Number) :
    Alike (ofJson (.number n)) (ofJson (.object [("type", .number n)])) := by
  rw [ofJson_number, ofJson_type]
  cases SlotDescription.code? (.number n) with
  | none => trivial
  | some code =>
    dsimp only [Coded.ofNumber]
    cases (Coded.ofNumber? code : Option SlotType) with
    | none => trivial
    | some type => rfl

/-! ## The main statement -/

/-- An object that keeps the type of a slot, and makes some of its settings null or leaves them
out, means the slot with just these reset to the defaults of the type, whatever fields are added.
So the strict form is read back.  A number and an object that gives it as the type alone are
both refused, or both mean the same slot. -/
theorem extends_strict (h : fields.Extends Slot.names (s.looseFields given) added) :
    ofJson (.object fields) =
        .ok (.described (s.reset fun setting => given setting ≠ .full)) ∧
      ofJson s.toJson = .ok (.described s) ∧
      ∀ n : Number, Alike (ofJson (.number n)) (ofJson (.object [("type", .number n)])) :=
  ⟨ofJson_looseFields h, ofJson_toJson s, ofJson_number_alike⟩

/-- A slot for chats that differs from the defaults of its type. -/
def quietChat : Slot :=
  { Slot.ofType .socialCommunication with
    level := .low, description := "chat", vibrates := false, sound := "pling", vibration := [3, 7] }

/-- Leaves out whether the notifications vibrate, and does not say how prominent they are. -/
def partlyGiven : Slot.Setting → Slot.Given
  | .level => .null
  | .vibrates => .missing
  | _ => .full

/-- A field that no slot has. -/
def chatTag : Json.Fields := [("tag", .array [.text "new"])]

/-- A chat behind a tag becomes prominent and vibrates again. -/
theorem extends_strict_quietChat :
    (chatTag ++ quietChat.looseFields partlyGiven).Extends Slot.names
        (quietChat.looseFields partlyGiven) chatTag ∧
      ofJson (.object (chatTag ++ quietChat.looseFields partlyGiven)) =
        .ok (.described { quietChat with level := .high, vibrates := true }) ∧
      ofJson quietChat.toJson = .ok (.described quietChat) ∧
      ∀ n : Number, Alike (ofJson (.number n)) (ofJson (.object [("type", .number n)])) := by
  have h : (chatTag ++ quietChat.looseFields partlyGiven).Extends Slot.names
      (quietChat.looseFields partlyGiven) chatTag := ⟨List.perm_append_comm, by decide⟩
  exact ⟨h, extends_strict h⟩

end SlotArgument

end Reminders
