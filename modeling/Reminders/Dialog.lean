import Reminders.Permission
import Reminders.Route

/-!
# The permission dialog

The dialog shows a message, a question and two buttons, and waits for the user to
click one of them.  The first click is sent to the host, as the name of an event
and the id of the user.  Later clicks do nothing.
-/

namespace Reminders

/-- What the dialog says, apart from its message. -/
structure DialogLabels where
  /-- The question. -/
  question : String
  /-- The label of the button that allows. -/
  allowButton : String
  /-- The label of the button that refuses. -/
  cancelButton : String
deriving Repr, DecidableEq, Inhabited

/-- Where the labels come from. -/
inductive LabelSource where
  /-- From a locale. -/
  | localized (locale : Locale)
  /-- From the parameters, as they are. -/
  | routed

/-- The labels that a dialog with some parameters has. -/
def DialogLabels.resolve (params : RouteParams) : LabelSource → DialogLabels
  | .localized locale =>
      { question := locale.translate Locale.questionKey
        allowButton := locale.translate Locale.allowKey
        cancelButton := locale.translate Locale.cancelKey }
  | .routed =>
      { question := params.question.getD ""
        allowButton := params.allowButton.getD ""
        cancelButton := params.cancelButton.getD "" }

/-- How far a dialog has come. -/
inductive DialogState where
  /-- No button was clicked. -/
  | awaitingInput
  /-- The answer was sent. -/
  | dispatched (answer : PermissionAnswer)
deriving Repr, DecidableEq, Inhabited

/-- What a dialog sends to the host. -/
structure HostCall where
  /-- The name of the event. -/
  event : String
  /-- The id of the user. -/
  uid : String
deriving Repr, DecidableEq, Inhabited

/-- A dialog that is open. -/
structure Dialog where
  /-- What the application says. -/
  message : String
  /-- What the dialog says. -/
  labels : DialogLabels
  /-- The id of the user. -/
  uid : String
  /-- How far the dialog has come. -/
  state : DialogState
deriving Repr, DecidableEq, Inhabited

namespace Dialog

/-- Opens a dialog. -/
def openWith (params : RouteParams) (source : LabelSource) : Except DialogError Dialog := do
  let uid ← params.requiredUid
  return {
    message := params.message.getD ""
    labels := .resolve params source
    uid
    state := .awaitingInput }

/-- A click on the button for an answer, and what is sent because of it. -/
def click (d : Dialog) (answer : PermissionAnswer) : Dialog × Option HostCall :=
  match d.state with
  | .awaitingInput => ({ d with state := .dispatched answer }, some ⟨answer.event, d.uid⟩)
  | .dispatched _ => (d, none)

end Dialog

/-- The name of an answer. -/
def PermissionAnswer.name : PermissionAnswer → String
  | .allow => "Allow"
  | .cancel => "Cancel"

/-- A state in words. -/
def DialogState.shown : DialogState → String
  | .awaitingInput => "AwaitingInput"
  | .dispatched answer => "Dispatched(" ++ answer.name ++ ")"

/-- A call takes effect on the service. -/
def Service.handle (s : Service) (call : HostCall) : Service := s.answered call.event call.uid

end Reminders
