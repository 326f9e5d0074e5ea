import Reminders.Service
import Reminders.Text.Decimal

/-!
# Answers to the question for permission

A user is asked whether an application may notify, and allows or refuses it.  The
answer travels as the name of an event and the id of the user as a text.  The
service takes it as the permission of that user.  An event of another name, or a
text that is no id, changes nothing.
-/

namespace Reminders

/-- What the user answered. -/
inductive PermissionAnswer where
  | allow
  | cancel
deriving Repr, DecidableEq, Inhabited

namespace PermissionAnswer

/-- The name of the event that carries an answer. -/
def event : PermissionAnswer → String
  | .allow => "EVENT_ALLOW"
  | .cancel => "EVENT_CANCEL"

/-- The answer that an event carries. -/
def ofEvent? (name : String) : Option PermissionAnswer :=
  [allow, cancel].find? fun answer => answer.event == name

theorem ofEvent?_event (answer : PermissionAnswer) : ofEvent? answer.event = some answer := by
  cases answer <;> decide

end PermissionAnswer

/-- The id of a user that a text holds, white space around it aside. -/
def userId? (s : String) : Option Int32 := (Text.integer? (Text.trim s)).bind int32?

/-- An answer takes effect. -/
def Service.answered (s : Service) (event uid : String) : Service :=
  match userId? uid, PermissionAnswer.ofEvent? event with
  | some uid, some answer => s.allowUser uid (answer = .allow)
  | _, _ => s

/-- The users of a list that may not notify. -/
def Service.deniedAmong (s : Service) (uids : List Int32) : List Int32 :=
  uids.filter fun uid => !s.isUserAllowed uid

end Reminders
