import Reminders.Proofs.Moments
import Reminders.Proofs.Printed
import Reminders.Schedule.Written

/-!
# Records are read back

Every record of a schedule is written as an object with a field for each of its parts, and each
is read back from the value that was written for it.  Three things carry this.

* The names of the fields differ, so no part comes twice (`Json.fields?_object`).
* A part is found behind parts with other names (`Json.Fields.required_cons_of_ne`).  In a
  request the fields of the kind stand in front of the others, and none of them has the name of
  another field (`ReminderRequest.disjoint_names`).
* Lists and missing parts are read back where their items are (`Json.list?_list`,
  `Json.nullable_option`).

The values written are plain, whatever the record, so that their texts can be read back too.
-/

namespace Reminders

/-! ## Parts of records -/

namespace Json

@[simp]
theorem int32?_int (n : Int32) : int32? (.int n.toInt) = some n := by
  rw [int32?, int, int?, Option.bind_some, Reminders.int32?_toInt]

@[simp]
theorem uint8?_int (n : UInt8) : uint8? (.int n.toNat) = some n := by
  rw [uint8?, int, int?, Option.bind_some, Reminders.uint8?_toNat]

@[simp]
theorem uint64?_int (n : UInt64) : uint64? (.int n.toNat) = some n := by
  rw [uint64?, int, int?, Option.bind_some, Reminders.uint64?_toNat]

section Combinators

variable {α : Type} {read : Json → Option α} {write : α → Json}

/-- A list is read back if its items are. -/
theorem list?_list (h : ∀ a, read (write a) = some a) (items : List α) :
    list? read (.list write items) = some items := by
  rw [list, list?]
  induction items with
  | nil => rfl
  | cons a items ih => simp [h, ih]

theorem nullable_of_ne_null {value : Json} (h : value ≠ .null) :
    nullable read value = (read value).map some := by
  rw [nullable]
  exact h

/-- A missing part is written as null, which no part that is there is written as. -/
theorem nullable_option (h : ∀ a, read (write a) = some a) (hne : ∀ a, write a ≠ .null)
    (item : Option α) : nullable read (.option write item) = some item := by
  cases item with
  | none => rfl
  | some a => rw [option, nullable_of_ne_null (hne a), h, Option.map_some]

end Combinators

/-- Where the names of the fields differ none of them comes twice. -/
theorem unrepeated_of_nodup {fields : Fields} (h : (fields.map Prod.fst).Nodup)
    (names : List String) : fields.unrepeated names = true := by
  rw [Fields.unrepeated, List.all_eq_true]
  intro name _
  rw [decide_eq_true_eq, Fields.count]
  have hcount := List.nodup_iff_count_le_one.1 h name
  rw [List.count_eq_length_filter, List.filter_map, List.length_map] at hcount
  exact hcount

/-- An object whose names differ is taken as it is. -/
theorem objectFields?_object {fields : Fields} (h : (fields.map Prod.fst).Nodup)
    (names : List String) : objectFields? names (.object fields) = some fields := by
  rw [objectFields?, if_pos (unrepeated_of_nodup h names)]

/-- So is one with a record merged into it, if its other fields can be read. -/
theorem mergedFields?_object {fields : Fields} {names : List String}
    (h : (fields.map Prod.fst).Nodup) (hreadable : fields.othersReadable names = true)
    (others : List String) : mergedFields? names others (.object fields) = some fields := by
  rw [mergedFields?, objectFields?_object h, Option.bind_eq_bind, Option.bind_some,
    if_pos hreadable]

theorem fields?_object {fields : Fields} (h : (fields.map Prod.fst).Nodup) (parts : List Part) :
    fields? parts (.object fields) = some fields := objectFields?_object h _

namespace Fields

variable {α : Type} {fields : Fields} {name other : String} {value : Json}
  {read : Json → Option α} {default : α}

@[simp]
theorem required_cons : required ((name, value) :: fields) name read = read value := by
  simp [required, get?]

@[simp]
theorem required_cons_of_ne (h : name ≠ other) :
    required ((other, value) :: fields) name read = fields.required name read := by
  simp [required, get?, List.lookup, beq_eq_false_iff_ne.2 h]

@[simp]
theorem defaulted_nil : defaulted [] name read default = some default := rfl

@[simp]
theorem defaulted_cons : defaulted ((name, value) :: fields) name read default = read value := by
  simp [defaulted, get?]

@[simp]
theorem defaulted_cons_of_ne (h : name ≠ other) :
    defaulted ((other, value) :: fields) name read default =
      fields.defaulted name read default := by
  simp [defaulted, get?, List.lookup, beq_eq_false_iff_ne.2 h]

/-- A part is looked for behind the fields with other names. -/
theorem defaulted_append_of_ne {front : Fields} (h : ∀ field ∈ front, name ≠ field.1) :
    defaulted (front ++ fields) name read default = fields.defaulted name read default := by
  induction front with
  | nil => rfl
  | cons field front ih =>
    rw [List.cons_append, defaulted_cons_of_ne (h field (by simp)),
      ih fun other hother => h other (by simp [hother])]

end Fields

end Json

/-! ## Plain parts -/

namespace Json

section Plain

variable {depth : Nat}

theorem Plain.int32 (n : Int32) : Plain depth (.int n.toInt) := by
  have hlow := n.le_toInt
  have hhigh := n.toInt_lt
  exact .int ⟨by omega, by omega⟩

theorem Plain.uint8 (n : UInt8) : Plain depth (.int n.toNat) := by
  have hhigh := n.toNat_lt
  exact .int ⟨by omega, by omega⟩

theorem Plain.uint64 (n : UInt64) : Plain depth (.int n.toNat) := by
  have hhigh := n.toNat_lt
  exact .int ⟨by omega, by omega⟩

theorem Plain.list {α : Type} {write : α → Json} (h : ∀ a, Plain depth (write a))
    (items : List α) : Plain (depth + 1) (.list write items) := by
  refine .array fun item hitem => ?_
  obtain ⟨a, -, rfl⟩ := List.mem_map.1 hitem
  exact h a

theorem Plain.option {α : Type} {write : α → Json} (h : ∀ a, Plain depth (write a))
    (item : Option α) : Plain depth (.option write item) := by
  cases item with
  | none => exact .null
  | some a => exact h a

/-- An object is plain one level above its fields. -/
theorem plain_object_iff {fields : Fields} :
    Plain (depth + 1) (.object fields) ↔ ∀ field ∈ fields, Plain depth field.2 := by
  refine ⟨?_, .object⟩
  rintro ⟨⟩
  assumption

attribute [simp] Plain.bool Plain.text Plain.int32 Plain.uint8 Plain.uint64 plain_object_iff

end Plain

end Json

/-! ## The records of a request -/

@[simp]
theorem Ability.plain (depth : Nat) (a : Ability) : Json.Plain (depth + 1) a.toJson := by
  simp [toJson]

@[simp]
theorem Ability.ofJson?_toJson (a : Ability) : ofJson? a.toJson = some a := by
  rw [ofJson?, toJson, Json.fields?_object (by simp)]
  simp [Json.text?]

@[simp]
theorem ActionButton.plain (depth : Nat) (b : ActionButton) : Json.Plain (depth + 1) b.toJson := by
  have htype : Json.Plain depth (Coded.toJson b.type) :=
    .int (by cases b.type <;> exact ⟨by decide, by decide⟩)
  simp [toJson, htype]

@[simp]
theorem ActionButton.ofJson?_toJson (b : ActionButton) : ofJson? b.toJson = some b := by
  rw [ofJson?, toJson, Json.fields?_object (by simp)]
  simp [Json.text?, Coded.ofJson?_toJson]

@[simp]
theorem LocalDateTime.plain (depth : Nat) (t : LocalDateTime) :
    Json.Plain (depth + 1) t.toJson := by
  simp [toJson]

@[simp]
theorem LocalDateTime.ofJson?_toJson (t : LocalDateTime) : ofJson? t.toJson = some t := by
  rw [ofJson?, toJson, Json.fields?_object (by simp)]
  simp

@[simp]
theorem Bundle.plain (depth : Nat) (b : Bundle) : Json.Plain (depth + 1) b.toJson := by
  obtain ⟨name, uid⟩ := b
  cases uid <;> simp [toJson]

@[simp]
theorem Bundle.ofJson?_toJson (b : Bundle) : ofJson? b.toJson = some b := by
  obtain ⟨name, uid⟩ := b
  cases uid with
  | none =>
    rw [toJson, ofJson?, Json.fields?_object (by simp)]
    simp [Json.text?]
  | some uid =>
    have huid : Json.nullable Json.int32? (.int uid.toInt) = some (some uid) := by
      rw [Json.nullable_of_ne_null (by simp [Json.int]), Json.int32?_int, Option.map_some]
    rw [toJson, ofJson?, Json.fields?_object (by simp)]
    simp [Json.text?, huid]

namespace ReminderKind

@[simp]
theorem numbers?_numbers (ns : List UInt8) : Json.list? Json.uint8? (numbers ns) = some ns :=
  Json.list?_list Json.uint8?_int ns

theorem type?_typeName (type : ReminderType) : type? (.text (typeName type)) = some type := by
  cases type <;> rfl

/-- The fields of a kind with its name in front. -/
def taggedFields (kind : ReminderKind) : Json.Fields :=
  (tag, .text (typeName kind.type)) :: kind.fields

@[simp]
theorem plain_numbers (depth : Nat) (ns : List UInt8) : Json.Plain (depth + 1) (numbers ns) :=
  .list Json.Plain.uint8 ns

theorem plain_taggedFields (depth : Nat) (kind : ReminderKind) :
    ∀ field ∈ kind.taggedFields, Json.Plain (depth + 1) field.2 := by
  cases kind <;> simp [taggedFields, fields]

/-- The fields of a kind are its tag and the names of its type. -/
theorem map_taggedFields (kind : ReminderKind) :
    kind.taggedFields.map Prod.fst = tag :: names kind.type := by
  cases kind <;> rfl

theorem nodup_taggedFields (kind : ReminderKind) : (kind.taggedFields.map Prod.fst).Nodup := by
  rw [map_taggedFields]
  cases kind.type <;> decide

theorem required_tag (kind : ReminderKind) :
    kind.taggedFields.required tag type? = some kind.type := by
  rw [taggedFields, Json.Fields.required_cons, type?_typeName]

/-- A kind is read back from its own fields, once its tag is known. -/
theorem ofType?_taggedFields (kind : ReminderKind) :
    ofType? kind.type kind.taggedFields = some kind := by
  cases kind <;> simp [type, ofType?, taggedFields, fields, tag]

/-- A kind is read from its own fields. -/
theorem ofFields?_taggedFields (kind : ReminderKind) : ofFields? kind.taggedFields = some kind := by
  rw [ofFields?, kind.required_tag, Option.bind_eq_bind, Option.bind_some,
    if_pos (Json.unrepeated_of_nodup kind.nodup_taggedFields _), kind.ofType?_taggedFields]

end ReminderKind

namespace ReminderRequest

@[simp]
theorem buttons?_buttons (buttons : List ActionButton) :
    Json.list? ActionButton.ofJson? (.list ActionButton.toJson buttons) = some buttons :=
  Json.list?_list ActionButton.ofJson?_toJson buttons

@[simp]
theorem ability?_ability (ability : Option Ability) :
    Json.nullable Ability.ofJson? (.option Ability.toJson ability) = some ability :=
  Json.nullable_option Ability.ofJson?_toJson (by simp [Ability.toJson]) ability

/-- The fields of a request besides those of its kind. -/
def ownFields (r : ReminderRequest) : Json.Fields := [
  ("actionButtons", .list ActionButton.toJson r.actionButtons),
  ("wantAgent", .option Ability.toJson r.wantAgent),
  ("maxScreenWantAgent", .option Ability.toJson r.maxScreenWantAgent),
  ("ringDuration", .int r.ringDuration.toNat),
  ("snoozeTimes", .int r.snoozeTimes.toNat),
  ("timeInterval", .int r.timeInterval.toNat),
  ("title", .text r.title),
  ("content", .text r.content),
  ("expiredContent", .text r.expiredContent),
  ("snoozeContent", .text r.snoozeContent),
  ("notificationId", .int r.notificationId.toInt),
  ("slotType", Coded.toJson r.slotType)]

theorem toJson_eq (r : ReminderRequest) : r.toJson = .object (r.kind.taggedFields ++ r.ownFields) :=
  rfl

theorem map_ownFields (r : ReminderRequest) : r.ownFields.map Prod.fst = names := rfl

/-- No field of a kind has the name of another field. -/
theorem disjoint_names (type : ReminderType) :
    List.Disjoint (ReminderKind.tag :: ReminderKind.names type) names := by
  have every : ∀ type : ReminderType,
      ∀ name ∈ ReminderKind.tag :: ReminderKind.names type, name ∉ names := by
    intro type
    cases type <;> decide
  exact every type

/-- No two fields of a request have one name. -/
theorem nodup_fields (r : ReminderRequest) :
    ((r.kind.taggedFields ++ r.ownFields).map Prod.fst).Nodup := by
  rw [List.map_append, map_ownFields, ReminderKind.map_taggedFields]
  cases r.kind.type <;> decide

/-- The fields of the kind have names of their own. -/
theorem not_mem_names {r : ReminderRequest} {field : String × Json}
    (h : field ∈ r.kind.taggedFields) : field.1 ∉ names := by
  have hname := List.mem_map_of_mem (f := Prod.fst) h
  rw [ReminderKind.map_taggedFields] at hname
  exact disjoint_names r.kind.type hname

/-- What is left for the kind is what the kind wrote. -/
theorem filter_fields (r : ReminderRequest) :
    (r.kind.taggedFields ++ r.ownFields).filter (fun field => !names.contains field.1) =
      r.kind.taggedFields := by
  rw [List.filter_append, List.filter_eq_self.2, List.filter_eq_nil_iff.2, List.append_nil]
  · intro field hfield
    have hname := List.mem_map_of_mem (f := Prod.fst) hfield
    rw [map_ownFields] at hname
    simp [hname]
  · intro field hfield
    simp [not_mem_names hfield]

/-- The fields of the kind stand in front of the others and do not hide them. -/
theorem defaulted_fields {α : Type} (r : ReminderRequest) {name : String} (h : name ∈ names)
    (read : Json → Option α) (default : α) :
    Json.Fields.defaulted (r.kind.taggedFields ++ r.ownFields) name read default =
      r.ownFields.defaulted name read default := by
  refine Json.Fields.defaulted_append_of_ne fun field hfield => ?_
  rintro rfl
  exact not_mem_names hfield h

@[simp]
theorem plain (depth : Nat) (r : ReminderRequest) : Json.Plain (depth + 3) r.toJson := by
  have hslot : Json.Plain (depth + 2) (Coded.toJson r.slotType) :=
    .int (by cases r.slotType <;> exact ⟨by decide, by decide⟩)
  have hbuttons : Json.Plain (depth + 2) (.list ActionButton.toJson r.actionButtons) :=
    .list (ActionButton.plain depth) _
  have hwant : ∀ ability, Json.Plain (depth + 2) (.option Ability.toJson ability) :=
    fun ability => .option (Ability.plain (depth + 1)) ability
  rw [toJson_eq, Json.plain_object_iff, List.forall_mem_append]
  refine ⟨r.kind.plain_taggedFields (depth + 1), ?_⟩
  simp [ownFields, hslot, hbuttons, hwant]

@[simp]
theorem ofJson?_toJson (r : ReminderRequest) : ofJson? r.toJson = some r := by
  have hreadable : r.kind.taggedFields.all (fun field => field.2.readable) = true :=
    List.all_eq_true.2 fun field hfield => (r.kind.plain_taggedFields 0 field hfield).readable
  rw [ofJson?, toJson_eq, Json.objectFields?_object r.nodup_fields, Option.bind_eq_bind,
    Option.bind_some, ofFields?]
  simp only [filter_fields, hreadable, ReminderKind.ofFields?_taggedFields]
  simp (disch := decide) only [defaulted_fields]
  simp [ownFields, Json.text?, Coded.ofJson?_toJson]

end ReminderRequest

/-! ## Entries and schedules -/

@[simp]
theorem ReminderStatus.plain (depth : Nat) (status : ReminderStatus) :
    Json.Plain (depth + 2) status.toJson := by
  cases status <;> simp [toJson]

/-- A status is read back, whether the JSON came as text or as a value. -/
@[simp]
theorem ReminderStatus.ofJson?_toJson (source : JsonSource) (status : ReminderStatus) :
    ofJson? source status.toJson = some status := by
  cases status with
  | active => rfl
  | snoozed => rfl
  | showing alerting =>
    cases source <;> rfl

/-- The moments of an entry are read back, also where there is none. -/
@[simp]
theorem Entry.moment?_moment (moment : Option DateTime) :
    Json.nullable DateTime.ofJson? (.option DateTime.toJson moment) = some moment :=
  Json.nullable_option DateTime.ofJson?_toJson (by simp [DateTime.toJson]) moment

@[simp]
theorem Entry.plain_moment (depth : Nat) (moment : Option DateTime) :
    Json.Plain depth (.option DateTime.toJson moment) :=
  .option (fun _ => .text _) moment

theorem Entry.plain (depth : Nat) (e : Entry) : Json.Plain (depth + 4) e.toJson := by
  simp [toJson]

/-- Entries are read back, their moments to the nanosecond. -/
theorem Entry.ofJson?_toJson (source : JsonSource) (e : Entry) :
    ofJson? source e.toJson = some e := by
  rw [ofJson?, toJson, Json.fields?_object (by simp)]
  simp [Json.bool?]

/-- A schedule is plain, and at most six levels deep. -/
theorem Schedule.plain (depth : Nat) (s : Schedule) : Json.Plain (depth + 6) s.toJson := by
  have hentries : Json.Plain (depth + 5) (.list Entry.toJson s.entries) :=
    .list (Entry.plain depth) _
  simp [toJson, hentries]

/-- A schedule is read back from its value, wherever that value comes from. -/
theorem Schedule.ofJson?_toJson (source : JsonSource) (s : Schedule) :
    ofJson? source s.toJson = some s := by
  rw [ofJson?, toJson, Json.fields?_object (by simp)]
  simp [Json.list?_list (Entry.ofJson?_toJson source)]

end Reminders
