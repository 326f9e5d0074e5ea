import Reminders.Json.Record
import Reminders.Json.Variant

/-!
# What a notification says

A content is a plain text, a long text, several lines, a picture or a
conversation.  Each of them has a *basic content*, which is what a small display
shows.

In JSON a content stands under `content`, beside its kind under `contentType`,
which is an alternative that carries nothing.
The basic content of the richer kinds has no place of its own: its fields stand
among theirs, and no other field of theirs may be unreadable.
-/

namespace Reminders

/-! ## Basic contents -/

/-- A title and a text. -/
structure BasicContent where
  /-- The title. -/
  title : String
  /-- The text. -/
  text : String
  /-- A further text, empty for none. -/
  additional : String := ""
deriving DecidableEq, Inhabited

namespace BasicContent

/-- The fields of a basic content. -/
def fields (c : BasicContent) : Json.Fields :=
  [("title", .text c.title), ("text", .text c.text), ("additionalText", .text c.additional)]

/-- A basic content as a JSON value. -/
def toJson (c : BasicContent) : Json := .object c.fields

/-- The names of its fields. -/
def names : List String := ["title", "text", "additionalText"]

/-- The basic content that stands among some fields. -/
def ofFields? (fields : Json.Fields) : Option BasicContent := do
  let title ← fields.required "title" Json.text?
  let text ← fields.required "text" Json.text?
  let additional ← fields.defaulted "additionalText" Json.text? ""
  return { title, text, additional }

/-- The basic content that a JSON value holds. -/
def ofJson? (value : Json) : Option BasicContent := do
  let fields ← Json.fields? [.needed "title", .needed "text", .optional "additionalText"] value
  ofFields? fields

end BasicContent

/-! ## Long texts, lines and pictures -/

/-- A text that a large display shows in full. -/
structure LongText where
  /-- What a small display shows. -/
  basic : BasicContent
  /-- The full text. -/
  text : String
  /-- The text in brief. -/
  brief : String
  /-- The title of the full text. -/
  expandedTitle : String
deriving DecidableEq, Inhabited

namespace LongText

/-- A long text as a JSON value. -/
def toJson (c : LongText) : Json :=
  .object (c.basic.fields ++
    [("longText", .text c.text), ("briefText", .text c.brief),
      ("expandedTitle", .text c.expandedTitle)])

/-- The long text that a JSON value holds. -/
def ofJson? (value : Json) : Option LongText := do
  let fields ← Json.mergedFields? ["longText", "briefText", "expandedTitle"]
    BasicContent.names value
  let basic ← BasicContent.ofFields? fields
  let text ← fields.required "longText" Json.text?
  let brief ← fields.required "briefText" Json.text?
  let expandedTitle ← fields.required "expandedTitle" Json.text?
  return { basic, text, brief, expandedTitle }

end LongText

/-- Several lines of text. -/
structure MultiLine where
  /-- What a small display shows. -/
  basic : BasicContent
  /-- The text in brief. -/
  brief : String
  /-- The title above the lines. -/
  longTitle : String
  /-- The lines. -/
  lines : List String
deriving DecidableEq, Inhabited

namespace MultiLine

/-- Several lines as a JSON value. -/
def toJson (c : MultiLine) : Json :=
  .object (c.basic.fields ++
    [("briefText", .text c.brief), ("longTitle", .text c.longTitle),
      ("lines", .list .text c.lines)])

/-- The lines that a JSON value holds. -/
def ofJson? (value : Json) : Option MultiLine := do
  let fields ← Json.mergedFields? ["briefText", "longTitle", "lines"] BasicContent.names value
  let basic ← BasicContent.ofFields? fields
  let brief ← fields.required "briefText" Json.text?
  let longTitle ← fields.required "longTitle" Json.text?
  let lines ← fields.required "lines" (Json.list? Json.text?)
  return { basic, brief, longTitle, lines }

end MultiLine

/-- A picture, known by its address. -/
structure Picture where
  /-- What a small display shows. -/
  basic : BasicContent
  /-- The text in brief. -/
  brief : String
  /-- The title above the picture. -/
  expandedTitle : String
  /-- The address of the picture. -/
  address : String
deriving DecidableEq, Inhabited

namespace Picture

/-- A picture as a JSON value. -/
def toJson (c : Picture) : Json :=
  .object (c.basic.fields ++
    [("briefText", .text c.brief), ("expandedTitle", .text c.expandedTitle),
      ("picture", .text c.address)])

/-- The picture that a JSON value holds. -/
def ofJson? (value : Json) : Option Picture := do
  let fields ← Json.mergedFields? ["briefText", "expandedTitle", "picture"]
    BasicContent.names value
  let basic ← BasicContent.ofFields? fields
  let brief ← fields.required "briefText" Json.text?
  let expandedTitle ← fields.required "expandedTitle" Json.text?
  let address ← fields.required "picture" Json.text?
  return { basic, brief, expandedTitle, address }

end Picture

/-! ## Conversations -/

/-- Someone who takes part in a conversation. -/
structure Participant where
  /-- The name. -/
  name : String
  /-- A key that identifies the participant, empty for none. -/
  key : String
  /-- An address, empty for none. -/
  uri : String
  /-- Whether the participant is a machine. -/
  isMachine : Bool
  /-- Whether the participant is important to the user. -/
  isImportant : Bool
deriving DecidableEq, Inhabited

namespace Participant

/-- A participant as a JSON value. -/
def toJson (p : Participant) : Json :=
  .object [("name", .text p.name), ("key", .text p.key), ("uri", .text p.uri),
    ("isMachine", .bool p.isMachine), ("isUserImportant", .bool p.isImportant)]

/-- The participant that a JSON value holds. -/
def ofJson? (value : Json) : Option Participant := do
  let fields ← Json.fields? [.needed "name", .optional "key", .optional "uri",
    .optional "isMachine", .optional "isUserImportant"] value
  let name ← fields.required "name" Json.text?
  let key ← fields.defaulted "key" Json.text? ""
  let uri ← fields.defaulted "uri" Json.text? ""
  let isMachine ← fields.defaulted "isMachine" Json.bool? false
  let isImportant ← fields.defaulted "isUserImportant" Json.bool? false
  return { name, key, uri, isMachine, isImportant }

end Participant

/-- A message of a conversation. -/
structure ConversationMessage where
  /-- What it says. -/
  text : String
  /-- When it was sent. -/
  timestamp : Int64
  /-- Who sent it. -/
  sender : Participant
  /-- The type of what is attached. -/
  mimeType : Option String
  /-- The address of what is attached. -/
  uri : Option String
deriving DecidableEq, Inhabited

namespace ConversationMessage

/-- A message as a JSON value. -/
def toJson (m : ConversationMessage) : Json :=
  .object [("text", .text m.text), ("timestamp", .int m.timestamp.toInt),
    ("sender", m.sender.toJson), ("mimeType", .option .text m.mimeType),
    ("uri", .option .text m.uri)]

/-- The message that a JSON value holds. -/
def ofJson? (value : Json) : Option ConversationMessage := do
  let fields ← Json.fields? [.needed "text", .needed "timestamp", .needed "sender",
    .optional "mimeType", .optional "uri"] value
  let text ← fields.required "text" Json.text?
  let timestamp ← fields.required "timestamp" Json.int64?
  let sender ← fields.required "sender" Participant.ofJson?
  let mimeType ← fields.defaulted "mimeType" (Json.nullable Json.text?) none
  let uri ← fields.defaulted "uri" (Json.nullable Json.text?) none
  return { text, timestamp, sender, mimeType, uri }

end ConversationMessage

/-- Messages between the user and others. -/
structure Conversation where
  /-- What a small display shows. -/
  basic : BasicContent
  /-- The user's part in the conversation. -/
  user : Participant
  /-- The messages. -/
  messages : List ConversationMessage
  /-- Whether more than two take part. -/
  isGroup : Bool
  /-- The title of the conversation. -/
  title : Option String
deriving DecidableEq, Inhabited

namespace Conversation

/-- A conversation as a JSON value. -/
def toJson (c : Conversation) : Json :=
  .object (c.basic.fields ++
    [("user", c.user.toJson), ("messages", .list ConversationMessage.toJson c.messages),
      ("conversationGroup", .bool c.isGroup), ("conversationTitle", .option .text c.title)])

/-- The conversation that a JSON value holds. -/
def ofJson? (value : Json) : Option Conversation := do
  let fields ← Json.mergedFields? ["user", "messages", "conversationGroup", "conversationTitle"]
    BasicContent.names value
  let basic ← BasicContent.ofFields? fields
  let user ← fields.required "user" Participant.ofJson?
  let messages ← fields.required "messages" (Json.list? ConversationMessage.ofJson?)
  let isGroup ← fields.defaulted "conversationGroup" Json.bool? false
  let title ← fields.defaulted "conversationTitle" (Json.nullable Json.text?) none
  return { basic, user, messages, isGroup, title }

end Conversation

/-! ## Contents -/

/-- What a notification says. -/
inductive Content where
  | basicText (content : BasicContent)
  | longText (content : LongText)
  | multiLine (content : MultiLine)
  | picture (content : Picture)
  | conversation (content : Conversation)
deriving DecidableEq, Inhabited

namespace Content

/-- The name of the kind. -/
def kind : Content → String
  | .basicText _ => "BasicText"
  | .longText _ => "LongText"
  | .multiLine _ => "MultiLine"
  | .picture _ => "Picture"
  | .conversation _ => "Conversation"

/-- What a small display shows. -/
def basic : Content → BasicContent
  | .basicText content => content
  | .longText content => content.basic
  | .multiLine content => content.basic
  | .picture content => content.basic
  | .conversation content => content.basic

/-- The title. -/
def title (c : Content) : String := c.basic.title

/-- The part of a content that stands beside its kind. -/
def body : Content → Json
  | .basicText content => content.toJson
  | .longText content => content.toJson
  | .multiLine content => content.toJson
  | .picture content => content.toJson
  | .conversation content => content.toJson

/-- A content as a JSON value. -/
def toJson (c : Content) : Json :=
  .object [("contentType", .text c.kind), ("content", c.body)]

/-- The content that a JSON value holds, beside its kind, which is an alternative
that carries nothing. -/
def ofBody? (kind : Json.Variant) (body : Json) : Option Content :=
  if kind.isBare then
    match kind.name with
    | "BasicText" => (BasicContent.ofJson? body).map .basicText
    | "LongText" => (LongText.ofJson? body).map .longText
    | "MultiLine" => (MultiLine.ofJson? body).map .multiLine
    | "Picture" => (Picture.ofJson? body).map .picture
    | "Conversation" => (Conversation.ofJson? body).map .conversation
    | _ => none
  else none

/-- The content that a JSON value holds, beside its kind.  What stands before its kind must be
readable in every part. -/
def ofJson? (value : Json) : Option Content := do
  let fields ← Json.fields? [.needed "contentType", .needed "content"] value
  let kind ← fields.required "contentType" Json.variant?
  fields.required "content" fun body =>
    if fields.standsBefore "contentType" "content" || body.readable then ofBody? kind body
    else none

end Content

end Reminders
