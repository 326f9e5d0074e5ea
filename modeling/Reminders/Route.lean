import Reminders.Json.Record
import Reminders.Locale

/-!
# Parameters of the dialog

A page is opened with parameters: a message, the labels that it may show, and the
id of the user who is asked.  Each of them may be missing.  The id is a text, and
a number in its place is taken as it is written.
-/

namespace Reminders

/-- What the page of the dialog is opened with. -/
structure RouteParams where
  /-- What the application says. -/
  message : Option String := none
  /-- The question. -/
  question : Option String := none
  /-- The label of the button that allows. -/
  allowButton : Option String := none
  /-- The label of the button that refuses. -/
  cancelButton : Option String := none
  /-- The id of the user. -/
  uid : Option String := none
deriving Repr, DecidableEq, Inhabited

namespace RouteParams

/-- An id as a text or as a number. -/
def uid? : Json → Option String
  | .text s => some s
  | .number n => some (String.ofList (Json.numberChars n))
  | _ => none

/-- The parameters that a JSON value holds. -/
def ofJson? (value : Json) : Option RouteParams := do
  let fields ← Json.fields? (["message", "requestNotification", "allowButton", "cancelButton",
    "uid"].map .optional) value
  let part (name : String) (read : Json → Option String) : Option (Option String) :=
    fields.defaulted name (Json.nullable read) none
  let message ← part "message" Json.text?
  let question ← part "requestNotification" Json.text?
  let allowButton ← part "allowButton" Json.text?
  let cancelButton ← part "cancelButton" Json.text?
  let uid ← part "uid" uid?
  return { message, question, allowButton, cancelButton, uid }

/-- The parameters of a JSON value. -/
def ofJson (value : Json) : Except DialogError RouteParams :=
  match ofJson? value with
  | some params => .ok params
  | none => .error .invalidParameters

/-- The parameters of a JSON text. -/
def parse (text : String) : Except DialogError RouteParams :=
  match Json.read? text with
  | some value => ofJson value
  | none => .error .invalidParameters

/-- The id of the user, which a dialog needs. -/
def requiredUid (params : RouteParams) : Except DialogError String :=
  match params.uid with
  | some uid => .ok uid
  | none => .error .missingUid

end RouteParams

end Reminders
