import Reminders.Json.Reader
import Reminders.Store

/-!
# Locales

A *locale* is a table of texts in some language.  Its resource is a JSON object
whose objects nest, and a text in it has a *dotted key*: the names on the way to
it, with dots between them.  The names are walked in ascending order, and where
two texts come to one key the later one counts.  A key without a text stands for
itself.
-/

namespace Reminders

/-- Why a dialog cannot be shown. -/
inductive DialogError where
  /-- The parameters are not those of a dialog. -/
  | invalidParameters
  /-- The parameters say nothing about the user. -/
  | missingUid
  /-- The resource of a locale is no JSON text. -/
  | invalidLocale
  /-- The file with the resource cannot be read. -/
  | unreadableLocale (path : String)
deriving Repr, DecidableEq, Inhabited

/-- The cause in words. -/
def DialogError.message : DialogError → String
  | .invalidParameters => "invalid dialog route parameters"
  | .missingUid => "dialog route parameters carry no uid"
  | .invalidLocale => "invalid locale resource"
  | .unreadableLocale path => "failed to read locale resource " ++ path

/-- Texts under their dotted keys. -/
structure Locale where
  /-- The texts. -/
  texts : Table String String := {}
deriving Inhabited

namespace Locale

/-- The dotted key of a name behind a path. -/
def dotted (path name : String) : String := if path = "" then name else path ++ "." ++ name

mutual

/-- The texts of a value behind a path, with their dotted keys. -/
def flatten (path : String) : Json → List (String × String)
  | .object fields => flattenFields path fields
  | .text s => [(path, s)]
  | _ => []

/-- The texts of some fields behind a path, with their dotted keys. -/
def flattenFields (path : String) : List (String × Json) → List (String × String)
  | [] => []
  | (name, value) :: rest => flatten (dotted path name) value ++ flattenFields path rest

end

/-- The locale of a value. -/
def ofJson (value : Json) : Locale := ⟨Table.ofList (flatten "" value)⟩

/-- The locale of a JSON text. -/
def parse (resource : String) : Except DialogError Locale :=
  match Json.parse? resource with
  | some value => .ok (ofJson value)
  | none => .error .invalidLocale

/-- The locale of a file. -/
def ofFile (path : String) (place : Store) : Except DialogError Locale :=
  match place.content? with
  | some resource => parse resource
  | none => .error (.unreadableLocale path)

/-- The text under a key, or the key if there is none. -/
def translate (locale : Locale) (key : String) : String := (locale.texts.get? key).getD key

/-! ## The texts of the dialog -/

/-- The key of the question. -/
def questionKey : String := "message.requestNotification"

/-- The key of the button that allows. -/
def allowKey : String := "message.allowButton"

/-- The key of the button that refuses. -/
def cancelKey : String := "message.cancelButton"

/-- The resource for English. -/
def englishResource : Json :=
  .object [("message", .object [
    ("requestNotification", .text "Allow this app to send notifications?"),
    ("allowButton", .text "Allow"),
    ("cancelButton", .text "Don't allow")])]

/-- The texts in English. -/
def english : Locale := ofJson englishResource

example : english.translate allowKey = "Allow" := by decide +kernel

end Locale

end Reminders
