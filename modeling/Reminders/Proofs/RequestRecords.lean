import Reminders.Proofs.AddedFields

/-!
# Requests are read back

What an application asks for is a JSON object.  A request for a notification and a request for
a reminder are each read back from the object that was written for them.

* A content stands beside its kind, and the fields of its basic content stand among its own.
  Their names differ for every kind (`Content.ofBody?_body`).
* Neither is disturbed by fields that were added to the object, in any order and under any
  names but those of the request (`NotificationRequest.ofJson?_of_extends`,
  `ReminderRequest.ofJson?_of_extends`).  The fields of a kind of reminder are looked for among
  all fields that are no others of the request.  So every added one must have a value, which an
  unreadable part of a text has not.
* Both are plain, so that they are read back from their texts too.
-/

namespace Reminders

/-! ## Words -/

namespace Json

@[simp]
theorem text?_text (s : String) : text? (.text s) = some s := rfl

@[simp]
theorem bool?_bool (b : Bool) : bool? (.bool b) = some b := rfl

@[simp]
theorem int64?_int (n : Int64) : int64? (.int n.toInt) = some n := by
  rw [int64?, int, int?, Option.bind_some, Reminders.int64?_toInt]

@[simp]
theorem Plain.int64 {depth : Nat} (n : Int64) : Plain depth (.int n.toInt) := by
  have hlow := n.le_toInt
  have hhigh := n.toInt_lt
  exact .int ⟨by omega, by omega⟩

@[simp]
theorem texts?_texts (texts : List String) : list? text? (.list .text texts) = some texts :=
  list?_list text?_text texts

@[simp]
theorem text?_option (text : Option String) : nullable text? (.option .text text) = some text :=
  nullable_option text?_text nofun text

@[simp]
theorem time?_option (time : Option Int64) :
    nullable int64? (.option (fun t => .int t.toInt) time) = some time :=
  nullable_option int64?_int nofun time

end Json

/-! ## Contents -/

theorem BasicContent.ofJson?_toJson (c : BasicContent) : ofJson? c.toJson = some c := by
  rw [ofJson?, toJson, Json.fields?_object (by simp [fields])]
  simp [ofFields?, fields]

/-- A long text is read back, its own parts and the basic ones. -/
theorem LongText.ofJson?_toJson (c : LongText) : ofJson? c.toJson = some c := by
  rw [ofJson?, toJson, Json.mergedFields?_object (by simp [BasicContent.fields]) rfl]
  simp [BasicContent.ofFields?, BasicContent.fields]

theorem MultiLine.ofJson?_toJson (c : MultiLine) : ofJson? c.toJson = some c := by
  rw [ofJson?, toJson, Json.mergedFields?_object (by simp [BasicContent.fields]) rfl]
  simp [BasicContent.ofFields?, BasicContent.fields]

theorem Picture.ofJson?_toJson (c : Picture) : ofJson? c.toJson = some c := by
  rw [ofJson?, toJson, Json.mergedFields?_object (by simp [BasicContent.fields]) rfl]
  simp [BasicContent.ofFields?, BasicContent.fields]

@[simp]
theorem Participant.ofJson?_toJson (p : Participant) : ofJson? p.toJson = some p := by
  rw [ofJson?, toJson, Json.fields?_object (by simp)]
  simp

@[simp]
theorem ConversationMessage.ofJson?_toJson (m : ConversationMessage) :
    ofJson? m.toJson = some m := by
  rw [ofJson?, toJson, Json.fields?_object (by simp)]
  simp

/-- A conversation is read back with its participants and messages. -/
theorem Conversation.ofJson?_toJson (c : Conversation) : ofJson? c.toJson = some c := by
  rw [ofJson?, toJson, Json.mergedFields?_object (by simp [BasicContent.fields]) rfl]
  simp [BasicContent.ofFields?, BasicContent.fields,
    Json.list?_list ConversationMessage.ofJson?_toJson]

namespace Content

/-- A content is read from what stands beside the name of its kind. -/
theorem ofBody?_body (c : Content) : ofBody? ⟨c.kind, none⟩ c.body = some c := by
  cases c with
  | basicText content => exact congrArg (Option.map _) content.ofJson?_toJson
  | longText content => exact congrArg (Option.map _) content.ofJson?_toJson
  | multiLine content => exact congrArg (Option.map _) content.ofJson?_toJson
  | picture content => exact congrArg (Option.map _) content.ofJson?_toJson
  | conversation content => exact congrArg (Option.map _) content.ofJson?_toJson

/-- A content is read back through its tag. -/
@[simp]
theorem ofJson?_toJson (c : Content) : ofJson? c.toJson = some c := by
  rw [ofJson?, toJson, Json.fields?_object (by simp)]
  simp [Json.variant?, Json.Fields.standsBefore, ofBody?_body]

end Content

/-! ## Requests for a notification -/

namespace NotificationRequest

/-- The fields of a request. -/
def fields (r : NotificationRequest) : Json.Fields := [
  ("id", .int r.id.toInt),
  ("label", .text r.label),
  ("slotType", Coded.toJson r.slotType),
  ("content", r.content.toJson),
  ("wantAgent", .option Ability.toJson r.wantAgent),
  ("isOngoing", .bool r.isOngoing),
  ("isUnremovable", .bool r.isUnremovable),
  ("tapDismissed", .bool r.tapDismissed),
  ("autoDeletedTime", .option (fun t => .int t.toInt) r.autoDeletedTime),
  ("classification", .option .text r.classification),
  ("deliveryTime", .option (fun t => .int t.toInt) r.deliveryTime),
  ("showDeliveryTime", .bool r.showDeliveryTime),
  ("actionButtons", .list ActionButton.toJson r.actionButtons),
  ("visibility", Coded.toJson r.visibility)]

theorem toJson_eq (r : NotificationRequest) : r.toJson = .object r.fields := rfl

theorem map_fields (r : NotificationRequest) :
    r.fields.map Prod.fst = parts.map Json.Part.name := rfl

/-- No two fields of a notification request have one name. -/
theorem nodup_fields (r : NotificationRequest) : (r.fields.map Prod.fst).Nodup := by
  rw [map_fields]
  decide

variable {r : NotificationRequest} {fields added : Json.Fields}

/-- A request is read back among added fields. -/
theorem ofJson?_of_extends (h : fields.Extends (r.fields.map Prod.fst) r.fields added) :
    ofJson? (.object fields) = some r := by
  have hown := r.nodup_fields
  rw [map_fields] at h
  have hfields : Json.fields? parts (.object fields) = some fields :=
    h.objectFields?_eq hown fun _ hname => hname
  rw [ofJson?, hfields, Option.bind_eq_bind, Option.bind_some]
  simp (disch := decide) only [h.required_eq hown, h.defaulted_eq hown]
  simp [NotificationRequest.fields, Coded.ofJson?_toJson]

end NotificationRequest

/-! ## Requests for a reminder -/

namespace ReminderKind

variable {kind : ReminderKind} {fields added : Json.Fields}

/-- A kind is read from its own fields among others. -/
theorem ofFields?_of_extends
    (h : fields.Extends (tag :: names kind.type) kind.taggedFields added) :
    ofFields? fields = some kind := by
  have hown := kind.nodup_taggedFields
  have hparts : ofType? kind.type fields = ofType? kind.type kind.taggedFields := by
    cases kind <;> simp only [type, names, ofType?] at h ⊢ <;>
      simp (disch := decide) only [h.required_eq hown, h.defaulted_eq hown]
  rw [ofFields?, h.required_eq hown List.mem_cons_self, kind.required_tag, Option.bind_eq_bind,
    Option.bind_some, if_pos (h.unrepeated_eq hown fun _ hname => hname), hparts,
    kind.ofType?_taggedFields]

end ReminderKind

namespace ReminderRequest

/-- The fields of a request. -/
def fields (r : ReminderRequest) : Json.Fields := r.kind.taggedFields ++ r.ownFields

theorem map_fields (r : ReminderRequest) :
    r.fields.map Prod.fst = ReminderKind.tag :: ReminderKind.names r.type ++ names := by
  rw [fields, List.map_append, ReminderKind.map_taggedFields, map_ownFields]
  rfl

variable {r : ReminderRequest} {fields added : Json.Fields}

/-- The fields that are no others of the request are those of the kind and the added ones. -/
theorem others_extends (h : fields.Extends (r.fields.map Prod.fst) r.fields added) :
    Json.Fields.Extends (fields.filter fun field => !names.contains field.1)
      (ReminderKind.tag :: ReminderKind.names r.kind.type) r.kind.taggedFields added := by
  have hfresh : ∀ field ∈ added,
      field.1 ∉ ReminderKind.tag :: ReminderKind.names r.type ∧ field.1 ∉ names := by
    intro field hfield
    have hname := h.fresh field hfield
    rwa [map_fields, List.mem_append, not_or] at hname
  have hadded : (added.filter fun field => !names.contains field.1) = added := by
    rw [List.filter_eq_self]
    intro field hfield
    simp [(hfresh field hfield).2]
  have hperm := h.perm.filter fun field => !names.contains field.1
  rw [List.filter_append, hadded, ReminderRequest.fields, filter_fields] at hperm
  exact ⟨hperm, fun field hfield => (hfresh field hfield).1⟩

/-- A request is read back among added fields, if each of them has a value. -/
theorem ofJson?_of_extends (h : fields.Extends (r.fields.map Prod.fst) r.fields added) :
    ofJson? (.object fields) =
      if ∀ field ∈ added, field.2.readable = true then some r else none := by
  have hown : (r.fields.map Prod.fst).Nodup := r.nodup_fields
  have hothers := others_extends h
  have hnames : ∀ name ∈ names, name ∈ r.fields.map Prod.fst := by
    intro name hname
    rw [map_fields]
    exact List.mem_append_right _ hname
  have hreadable : (fields.filter fun field => !names.contains field.1).all
      (fun field => field.2.readable) = true ↔ ∀ field ∈ added, field.2.readable = true := by
    rw [List.all_eq_true]
    constructor
    · intro hall field hfield
      exact hall field (hothers.perm.mem_iff.2 (List.mem_append_right _ hfield))
    · intro hadded field hfield
      rcases List.mem_append.1 (hothers.perm.mem_iff.1 hfield) with hkind | hfield
      · exact (r.kind.plain_taggedFields 0 field hkind).readable
      · exact hadded field hfield
  have hread : ∀ {α : Type} {name : String} (read : Json → Option α) (default : α),
      name ∈ names → fields.defaulted name read default = r.ownFields.defaulted name read default :=
    fun read default hname =>
      (h.defaulted_eq hown (hnames _ hname)).trans (r.defaulted_fields hname read default)
  rw [ofJson?, h.objectFields?_eq hown hnames, Option.bind_eq_bind, Option.bind_some, ofFields?]
  simp only [ReminderKind.ofFields?_of_extends hothers, hreadable]
  simp (disch := decide) only [hread]
  simp [ownFields, Coded.ofJson?_toJson]

end ReminderRequest

/-! ## Texts -/

section Texts

variable {depth : Nat}

@[simp]
theorem Json.plain_texts (texts : List String) : Json.Plain (depth + 1) (.list .text texts) :=
  .list (fun s => .text s) texts

@[simp]
theorem Json.plain_textOption (text : Option String) : Json.Plain depth (.option .text text) :=
  .option (fun s => .text s) text

@[simp]
theorem Json.plain_timeOption (time : Option Int64) :
    Json.Plain depth (.option (fun t => .int t.toInt) time) :=
  .option (fun t => .int64 t) time

@[simp]
theorem Participant.plain (p : Participant) : Json.Plain (depth + 1) p.toJson := by
  simp [toJson]

@[simp]
theorem ConversationMessage.plain (m : ConversationMessage) :
    Json.Plain (depth + 2) m.toJson := by
  simp [toJson]

/-- The body of a content is plain, whichever of the five it is. -/
@[simp]
theorem Content.plain_body (c : Content) : Json.Plain (depth + 4) c.body := by
  cases c with
  | basicText content => simp [body, BasicContent.toJson, BasicContent.fields]
  | longText content => simp [body, LongText.toJson, BasicContent.fields]
  | multiLine content => simp [body, MultiLine.toJson, BasicContent.fields]
  | picture content => simp [body, Picture.toJson, BasicContent.fields]
  | conversation content =>
    have hmessages : Json.Plain (depth + 3) (.list ConversationMessage.toJson content.messages) :=
      .list (fun m => m.plain) content.messages
    simp [body, Conversation.toJson, BasicContent.fields, hmessages]

@[simp]
theorem Content.plain (c : Content) : Json.Plain (depth + 5) c.toJson := by
  simp [toJson]

/-- A notification request is plain, whatever its content. -/
theorem NotificationRequest.plain (r : NotificationRequest) : Json.Plain (depth + 6) r.toJson := by
  have hslot : Json.Plain (depth + 5) (Coded.toJson r.slotType) :=
    .int (by cases r.slotType <;> exact ⟨by decide, by decide⟩)
  have hvisibility : Json.Plain (depth + 5) (Coded.toJson r.visibility) :=
    .int (by cases r.visibility <;> exact ⟨by decide, by decide⟩)
  have hbuttons : Json.Plain (depth + 5) (.list ActionButton.toJson r.actionButtons) :=
    .list (fun b => b.plain (depth + 3)) _
  have hwant : Json.Plain (depth + 5) (.option Ability.toJson r.wantAgent) :=
    .option (fun a => a.plain (depth + 4)) _
  simp [toJson, hslot, hvisibility, hbuttons, hwant]

end Texts

/-- A plain value is read from its text as from itself. -/
theorem Json.bind_read?_pretty {α : Type} {value : Json} (h : Plain greatestDepth value)
    (read : Json → Option α) : (read? value.pretty).bind read = read value := by
  rw [read?_pretty h, Option.bind_some]

/-! ## The main statement -/

/-- Every request is read back from its value and from its text.  So it is among added fields
with other names than its own, whatever they are in a request for a notification, and whatever
value they have in one for a reminder. -/
theorem requests_readBack {n : NotificationRequest} {r : ReminderRequest}
    {nFields nAdded rFields rAdded : Json.Fields}
    (hn : nFields.Extends (n.fields.map Prod.fst) n.fields nAdded)
    (hr : rFields.Extends (r.fields.map Prod.fst) r.fields rAdded) :
    (NotificationRequest.ofJson? n.toJson = some n ∧
      (Json.read? n.toJson.pretty).bind NotificationRequest.ofJson? = some n ∧
      NotificationRequest.ofJson? (.object nFields) = some n) ∧
    (ReminderRequest.ofJson? r.toJson = some r ∧
      (Json.read? r.toJson.pretty).bind ReminderRequest.ofJson? = some r ∧
      (ReminderRequest.ofJson? (.object rFields) = some r ↔
        ∀ field ∈ rAdded, field.2.readable = true)) := by
  have hnotification : NotificationRequest.ofJson? n.toJson = some n := by
    rw [NotificationRequest.toJson_eq]
    exact NotificationRequest.ofJson?_of_extends (.refl n.fields _)
  refine ⟨⟨hnotification, ?_, NotificationRequest.ofJson?_of_extends hn⟩,
    r.ofJson?_toJson, ?_, ?_⟩
  · rw [Json.bind_read?_pretty n.plain, hnotification]
  · rw [Json.bind_read?_pretty (r.plain 124), r.ofJson?_toJson]
  · rw [ReminderRequest.ofJson?_of_extends hr]
    split
    case isTrue hadded => exact iff_of_true rfl hadded
    case isFalse hadded => exact iff_of_false nofun hadded

/-- A message from someone who is known by a key. -/
def tableMessage : NotificationRequest where
  id := 7
  slotType := .socialCommunication
  content := .conversation
    { basic := { title := "kitchen", text := "tea?" }
      user := ⟨"cook", "", "", false, true⟩
      messages := [⟨"tea?", 5, ⟨"guest", "table 4", "", false, false⟩, none, some "photo"⟩]
      isGroup := false
      title := none }

/-- A timer. -/
def eggTimer : ReminderRequest where
  kind := .timer 240
  title := "eggs"

/-- What the table adds to its message. -/
def tableNote : Json.Fields := [("note", .object [("id", .null)])]

/-- Fields of an alarm, one of which could not be one. -/
def alarmFields : Json.Fields := [("hour", .text "noon"), ("daysOfWeek", .array [])]

/-- A message is read back behind a note, and a timer behind fields of an alarm. -/
theorem requests_readBack_kitchen :
    (tableNote ++ tableMessage.fields).Extends (tableMessage.fields.map Prod.fst)
        tableMessage.fields tableNote ∧
      (alarmFields ++ eggTimer.fields).Extends (eggTimer.fields.map Prod.fst)
        eggTimer.fields alarmFields ∧
      (NotificationRequest.ofJson? tableMessage.toJson = some tableMessage ∧
        (Json.read? tableMessage.toJson.pretty).bind NotificationRequest.ofJson? =
          some tableMessage ∧
        NotificationRequest.ofJson? (.object (tableNote ++ tableMessage.fields)) =
          some tableMessage) ∧
      (ReminderRequest.ofJson? eggTimer.toJson = some eggTimer ∧
        (Json.read? eggTimer.toJson.pretty).bind ReminderRequest.ofJson? = some eggTimer ∧
        (ReminderRequest.ofJson? (.object (alarmFields ++ eggTimer.fields)) = some eggTimer ↔
          ∀ field ∈ alarmFields, field.2.readable = true)) := by
  have hmessage : (tableNote ++ tableMessage.fields).Extends (tableMessage.fields.map Prod.fst)
      tableMessage.fields tableNote := ⟨List.perm_append_comm, by decide⟩
  have htimer : (alarmFields ++ eggTimer.fields).Extends (eggTimer.fields.map Prod.fst)
      eggTimer.fields alarmFields := ⟨List.perm_append_comm, by decide⟩
  exact ⟨hmessage, htimer, requests_readBack hmessage htimer⟩

end Reminders
