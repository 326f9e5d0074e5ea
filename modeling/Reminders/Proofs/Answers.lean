import Reminders.Dialog
import Reminders.Proofs.Moments
import Reminders.Proofs.ServiceRun

/-!
# What the permission dialogs decide

Dialogs are opened one after another over one service, and each is clicked as often as its user
likes.  Only the first click on a dialog is sent, with the id of the user as the dialog was opened
with it (`Asking.Answered`).  The service takes it as the permission of that user, if the text is
an id.  So a user who was allowed may notify behind all of them unless the last dialog for this
user that was clicked was first clicked to refuse (`Service.askAll_decides`).

A number in place of the text is written out when the parameters are read, and then read back.
An integer is written the way it is read, so it names the user of that number
(`userId?_decimal`).
-/

namespace Reminders

/-! ## The id of a user -/

namespace Text

theorem skipSpace_eq_self {cs : List Char} (h : ∀ c ∈ cs, isSpace c = false) :
    skipSpace cs = cs := by
  cases cs with
  | nil => rfl
  | cons c rest => exact skipSpace_cons (h c (by simp)) rest

theorem trim_eq_self {s : String} (h : ∀ c ∈ s.toList, isSpace c = false) : trim s = s := by
  have hreverse : ∀ c ∈ s.toList.reverse, isSpace c = false :=
    fun c hc => h c (List.mem_reverse.1 hc)
  rw [trim, trimChars, skipSpace_eq_self h, skipSpace_eq_self hreverse, List.reverse_reverse,
    String.ofList_toList]

theorem trim_decimal (n : Int) : trim (decimal n) = decimal n := by
  apply trim_eq_self
  intro c hc
  rw [decimal, String.toList_ofList] at hc
  rcases eq_or_isDigit_of_mem_decimalChars hc with rfl | hdigit
  · decide
  · exact isSpace_of_isDigit hdigit

end Text

/-- The number of a user, as a text, is the id of the user. -/
theorem userId?_decimal (uid : Int32) : userId? (Text.decimal uid.toInt) = some uid := by
  rw [userId?, Text.trim_decimal, Text.integer?_decimal]
  exact int32?_toInt uid

/-- Whether a JSON value gives a number as the id of the user, under its name or in its place. -/
inductive Json.RoutesUser (n : Int) : Json → Prop where
  | named {fields : Json.Fields} : fields.get? "uid" = some (.int n) → RoutesUser n (.object fields)
  | placed (message question allowButton cancelButton : Json) :
      RoutesUser n (.array [message, question, allowButton, cancelButton, .int n])

namespace RouteParams

/-- Whether parameters were read from a value, or from a text that holds it. -/
def ReadFrom (params : RouteParams) (value : Json) : Prop :=
  ofJson value = .ok params ∨ ∃ text, Json.read? text = some value ∧ parse text = .ok params

variable {params : RouteParams} {value : Json}

theorem ReadFrom.ofJson_eq (h : params.ReadFrom value) : ofJson value = .ok params := by
  obtain h | ⟨text, hread, h⟩ := h
  · exact h
  · rw [parse, hread] at h
    exact h

/-- The number is found among the parts of the value. -/
theorem get?_of_routesUser {fields : Json.Fields} {n : Int} (hroutes : value.RoutesUser n)
    (h : Json.fields? (["message", "requestNotification", "allowButton", "cancelButton",
      "uid"].map .optional) value = some fields) : fields.get? "uid" = some (.int n) := by
  cases hroutes with
  | named hget =>
    obtain ⟨-, hfields⟩ := Option.ite_none_right_eq_some.1 h
    cases hfields
    exact hget
  | placed message question allowButton cancelButton =>
    cases h
    rfl

/-- A number is taken as it is written. -/
theorem ReadFrom.uid_eq (h : params.ReadFrom value) {n : Int} (hroutes : value.RoutesUser n) :
    params.uid = some (Text.decimal n) := by
  have hjson := h.ofJson_eq
  rw [ofJson] at hjson
  split at hjson
  case h_2 => cases hjson
  case h_1 hsome =>
    cases hjson
    simp only [ofJson?, Option.bind_eq_bind, Option.bind_eq_some_iff] at hsome
    obtain ⟨fields, hfields, _, -, _, -, _, -, _, -, uid, huid, hparams⟩ := hsome
    cases hparams
    rw [Json.Fields.defaulted, get?_of_routesUser hroutes hfields] at huid
    exact (Option.some.inj huid).symm

end RouteParams

/-! ## One dialog -/

/-- A dialog that is to be opened, and the clicks on it. -/
structure Asking where
  /-- What it is opened with. -/
  params : RouteParams
  /-- Where its labels come from. -/
  source : LabelSource
  /-- The clicks, first to last. -/
  clicks : List PermissionAnswer

/-- The user who is asked, if the text is an id. -/
def Asking.user? (a : Asking) : Option Int32 := a.params.uid.bind userId?

/-- What came of a dialog. -/
structure Asked where
  /-- The service when the dialog was opened. -/
  before : Service
  /-- The dialog before the first click. -/
  opened : Dialog
  /-- The dialog behind each click, and what the click sent. -/
  clicks : List (Dialog × Option HostCall)
  /-- The service behind the last click. -/
  after : Service

namespace Asked

/-- What the dialog sent. -/
def calls (r : Asked) : List HostCall := r.clicks.filterMap Prod.snd

/-- Whether each of the clicks was sent. -/
def sent (r : Asked) : List Bool := r.clicks.map fun click => click.2.isSome

/-- How far the dialog had come behind each of the clicks. -/
def states (r : Asked) : List DialogState := r.clicks.map fun click => click.1.state

end Asked

namespace Service

/-- Clicks on a dialog, one after another.  What is sent takes effect at once. -/
def clickAll (s : Service) (d : Dialog) :
    List PermissionAnswer → Service × List (Dialog × Option HostCall)
  | [] => (s, [])
  | answer :: rest =>
      let (d, call) := d.click answer
      let (s, clicks) := (call.elim s s.handle).clickAll d rest
      (s, (d, call) :: clicks)

/-- Opens a dialog and clicks it. -/
def ask (s : Service) (a : Asking) : Except DialogError Asked := do
  let opened ← Dialog.openWith a.params a.source
  let (after, clicks) := s.clickAll opened a.clicks
  return { before := s, opened, clicks, after }

/-- Opens dialogs and clicks them, one after another. -/
def askAll (s : Service) : List Asking → Except DialogError (Service × List Asked)
  | [] => .ok (s, [])
  | a :: rest => do
      let r ← s.ask a
      let (s, behind) ← r.after.askAll rest
      return (s, r :: behind)

variable {s s' : Service} {d : Dialog}

/-- A dialog that was answered does nothing any more. -/
theorem clickAll_of_dispatched {answer : PermissionAnswer} (h : d.state = .dispatched answer)
    (clicks : List PermissionAnswer) :
    s.clickAll d clicks = (s, clicks.map fun _ => (d, none)) := by
  induction clicks with
  | nil => rfl
  | cons click rest ih =>
    have hclick : d.click click = (d, none) := by rw [Dialog.click, h]
    simp only [clickAll, hclick, Option.elim_none, ih, List.map_cons]

/-- Of the clicks on a dialog the first is sent. -/
theorem clickAll_cons (h : d.state = .awaitingInput) (first : PermissionAnswer)
    (rest : List PermissionAnswer) :
    let answered := { d with state := .dispatched first }
    let call : HostCall := ⟨first.event, d.uid⟩
    s.clickAll d (first :: rest) =
      (s.handle call, (answered, some call) :: rest.map fun _ => (answered, none)) := by
  have hclick : d.click first =
      ({ d with state := .dispatched first }, some ⟨first.event, d.uid⟩) := by
    rw [Dialog.click, h]
  simp only [clickAll, hclick, Option.elim_some]
  rw [clickAll_of_dispatched rfl]

/-- The service takes an answer as the permission of the user, if there is one. -/
theorem handle_event (s : Service) (answer : PermissionAnswer) (uid : String) :
    s.handle ⟨answer.event, uid⟩ =
      ((userId? uid).map fun user => s.allowUser user (answer = .allow)).getD s := by
  rw [handle, answered, PermissionAnswer.ofEvent?_event]
  cases userId? uid <;> rfl

end Service

/-- What comes of a dialog.  It sends the first of its clicks, with the id that it was opened
with, and nothing else.  This is the answer that it keeps, and the one that the service takes. -/
structure Asking.Answered (a : Asking) (r : Asked) : Prop where
  uid_eq : a.params.uid = some r.opened.uid
  awaiting : r.opened.state = .awaitingInput
  calls_eq : r.calls = (a.clicks.head?.map fun first => ⟨first.event, r.opened.uid⟩).toList
  sent_eq : r.sent = a.clicks.mapIdx fun i _ => i == 0
  states_eq : ∀ state ∈ r.states, a.clicks.head?.map .dispatched = some state
  after_eq : r.after =
    match a.user?, a.clicks.head? with
    | some user, some first => r.before.allowUser user (first = .allow)
    | _, _ => r.before

namespace Service

/-- A dialog that names its user is answered as its clicks say. -/
theorem ask_answered (s : Service) {a : Asking} (hasUid : a.params.uid.isSome) :
    ∃ r, s.ask a = .ok r ∧ r.before = s ∧ a.Answered r := by
  obtain ⟨uid, huid⟩ := Option.isSome_iff_exists.1 hasUid
  have huser : a.user? = userId? uid := by rw [Asking.user?, huid, Option.bind_some]
  have hopen : Dialog.openWith a.params a.source = .ok
      { message := a.params.message.getD "", labels := .resolve a.params a.source, uid,
        state := .awaitingInput } := by
    rw [Dialog.openWith, RouteParams.requiredUid, huid]
    rfl
  rw [ask, hopen]
  refine ⟨_, rfl, rfl, ?_⟩
  cases hclicks : a.clicks with
  | nil =>
    refine ⟨huid, rfl, ?_, ?_, ?_, ?_⟩ <;>
      simp [hclicks, clickAll, Asked.calls, Asked.sent, Asked.states]
  | cons first rest =>
    simp only [clickAll_cons]
    refine ⟨huid, rfl, ?_, ?_, ?_, ?_⟩
    · simp [hclicks, Asked.calls]
    · have hlater : rest.map (fun _ => false) = rest.mapIdx fun i _ => i + 1 == 0 :=
        List.ext_getElem (by simp) (by simp)
      simpa [hclicks, Asked.sent, Function.comp_def] using hlater
    · simp [hclicks, Asked.states]
    · rw [handle_event, huser]
      cases userId? uid <;> simp [hclicks]

end Service

/-! ## Several dialogs -/

/-- Whether a dialog is for a user and was clicked. -/
def Asking.isClickedFor (a : Asking) (uid : Int32) : Bool :=
  a.user? == some uid && !a.clicks.isEmpty

/-- The last dialog for a user that was clicked. -/
def lastClicked? (askings : List Asking) (uid : Int32) : Option Asking :=
  (askings.filter fun a => a.isClickedFor uid).getLast?

/-- The dialogs behind decide before the first one does. -/
theorem lastClicked?_cons (a : Asking) (rest : List Asking) (uid : Int32) :
    lastClicked? (a :: rest) uid =
      (lastClicked? rest uid).or (if a.isClickedFor uid then some a else none) := by
  rw [lastClicked?, lastClicked?]
  cases hclicked : a.isClickedFor uid with
  | false => simp [hclicked]
  | true =>
    rw [List.filter_cons, hclicked, if_pos rfl, List.getLast?_cons]
    cases (rest.filter fun a => a.isClickedFor uid).getLast? <;> rfl

theorem isClickedFor_of_lastClicked? {askings : List Asking} {uid : Int32} {a : Asking}
    (h : lastClicked? askings uid = some a) : a.isClickedFor uid :=
  (List.mem_filter.1 (List.mem_of_getLast? h)).2

/-- A dialog whose text is no id changes nothing. -/
theorem Asking.Answered.after_eq_before {a : Asking} {r : Asked} (h : a.Answered r)
    (hnone : a.user? = none) : r.after = r.before := by
  rw [h.after_eq, hnone]

namespace Service

/-- A dialog for a user that is clicked decides about this user, and about nobody else. -/
theorem isUserAllowed_of_answered {a : Asking} {r : Asked} (h : a.Answered r) (uid : Int32) :
    r.after.isUserAllowed uid =
      if a.isClickedFor uid then a.clicks.head? == some .allow else r.before.isUserAllowed uid := by
  rw [h.after_eq, Asking.isClickedFor]
  cases huser : a.user? with
  | none => simp
  | some user =>
    cases hclicks : a.clicks with
    | nil => simp
    | cons first rest => simp [isUserAllowed_allowUser, beq_eq_decide]

/-- Whatever is asked, each dialog is answered, and the last one that was clicked decides. -/
theorem askAll_run (s : Service) {askings : List Asking}
    (hasUid : ∀ a ∈ askings, a.params.uid.isSome) :
    ∃ s' records, s.askAll askings = .ok (s', records) ∧
      List.Forall₂ Asking.Answered askings records ∧
      s :: records.map Asked.after = records.map Asked.before ++ [s'] ∧
      ∀ uid, s'.isUserAllowed uid =
        ((lastClicked? askings uid).map fun a => a.clicks.head? == some .allow).getD
          (s.isUserAllowed uid) := by
  induction askings generalizing s with
  | nil => exact ⟨s, [], rfl, .nil, rfl, fun _ => rfl⟩
  | cons a rest ih =>
    obtain ⟨r, hask, rfl, hanswered⟩ := s.ask_answered (hasUid a (by simp))
    obtain ⟨s', records, hrest, hrecords, hchain, hallowed⟩ :=
      ih r.after fun b hb => hasUid b (by simp [hb])
    refine ⟨s', r :: records, ?_, .cons hanswered hrecords, ?_, fun uid => ?_⟩
    · simp only [askAll, hask, hrest, bind, Except.bind, pure, Except.pure]
    · rw [List.map_cons, List.map_cons, List.cons_append, ← hchain]
    · rw [hallowed uid, lastClicked?_cons, isUserAllowed_of_answered hanswered]
      cases lastClicked? rest uid with
      | some b => rfl
      | none => cases a.isClickedFor uid <;> rfl

/-- Each dialog sends its first click alone.  A user who was allowed is refused behind them if and
only if the last dialog for this user that was clicked was first clicked to refuse.  A text that is
no id changes nothing, and a number names its user. -/
theorem askAll_decides (s : Service) {askings : List Asking}
    (hasUid : ∀ a ∈ askings, a.params.uid.isSome) :
    ∃ s' records, s.askAll askings = .ok (s', records) ∧
      List.Forall₂ Asking.Answered askings records ∧
      s :: records.map Asked.after = records.map Asked.before ++ [s'] ∧
      (∀ uid, s.isUserAllowed uid → (s'.isUserAllowed uid = false ↔
        ∃ a, lastClicked? askings uid = some a ∧ a.clicks.head? = some .cancel)) ∧
      List.Forall₂ (fun a r => a.user? = none → r.after = r.before) askings records ∧
      ∀ a ∈ askings, ∀ value uid, a.params.ReadFrom value → value.RoutesUser uid.toInt →
        a.user? = some uid := by
  obtain ⟨s', records, hask, hrecords, hchain, hallowed⟩ := s.askAll_run hasUid
  refine ⟨s', records, hask, hrecords, hchain, fun uid hbefore => ?_, ?_, ?_⟩
  · rw [hallowed uid, hbefore]
    cases hlast : lastClicked? askings uid with
    | none => simp
    | some a =>
      have hclicked := isClickedFor_of_lastClicked? hlast
      cases hclicks : a.clicks with
      | nil => simp [Asking.isClickedFor, hclicks] at hclicked
      | cons first rest => cases first <;> simp [hclicks]
  · exact List.Forall₂.imp (fun _ _ => Asking.Answered.after_eq_before) hrecords
  · intro a _ value uid hread hroutes
    rw [Asking.user?, hread.uid_eq hroutes, Option.bind_some, userId?_decimal]

/-- Two users are asked, one of them with blanks around the id, and the other one twice, by number
and by text. -/
def questions : List Asking :=
  [{ params := { uid := some " 7\n" }, source := .routed, clicks := [.cancel, .allow] },
    { params := { uid := some "8" }, source := .routed, clicks := [.cancel] },
    { params := { uid := some "+8" }, source := .routed, clicks := [.allow, .cancel] },
    { params := { uid := some "7" }, source := .routed, clicks := [] },
    { params := { uid := some "seven" }, source := .routed, clicks := [.allow] }]

/-- The first user is refused, and the second one is allowed in the end. -/
theorem askAll_decides_questions :
    (∀ a ∈ questions, a.params.uid.isSome) ∧
      RouteParams.ReadFrom { uid := some "8" } (.object [("uid", .int 8)]) ∧
      ∃ s' records, board.askAll questions = .ok (s', records) ∧
        questions.map Asking.user? = [some 7, some 8, some 8, some 7, none] ∧
        s'.isUserAllowed 7 = false ∧ s'.isUserAllowed 8 = true := by
  have hasUid : ∀ a ∈ questions, a.params.uid.isSome := by simp [questions]
  obtain ⟨s', records, hask, -, -, hrefused, -⟩ := board.askAll_decides hasUid
  refine ⟨hasUid, .inl (by cbv), s', records, hask, by cbv, (hrefused 7 rfl).2 ⟨_, rfl, rfl⟩, ?_⟩
  rw [← Bool.not_eq_false, hrefused 8 rfl]
  rintro ⟨a, hlast, hfirst⟩
  cases hlast
  cases hfirst

end Service

end Reminders
