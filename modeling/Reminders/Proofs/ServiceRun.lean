import Reminders.Proofs.Notices

/-!
# Runs of a service

A *call* is what applications, the system and its users have the service do.  Looking
something up changes nothing and is no call.  `Service.perform` carries a call out, unless it
overflows, and a call that is refused leaves the service as it was.

`Service.Effect` lists the outcomes of the calls.  `perform_effect` is the only place where
the calls are taken apart.

Two kinds of calls grant or deny a permission, one to the bundles of a name and one to a
user.  Both are *grants* to a principal, and the last one counts: a principal may notify
unless the last grant of the run says no (`Run.mayNotify_eq`).  No call ever registers a slot
of the unknown type (`Run.known`).
-/

namespace Reminders

/-! ## Slots of unknown type -/

namespace SlotRegistry

/-- Whether no bundle has a slot of the unknown type. -/
def Known (r : SlotRegistry) : Prop := ∀ bundle, r.get? bundle .unknown = none

variable {r r' : SlotRegistry} {bundle : Bundle}

/-- Writing a slot of a known type lets no unknown one in. -/
theorem Known.put (h : r.Known) {slot : Slot} (hslot : slot.type ≠ .unknown) :
    (r.put bundle slot).Known := by
  intro owner
  rw [get?, SlotRegistry.put, Table.get?_insert, if_neg]
  · exact h owner
  · intro hkey
    exact hslot (congrArg SlotKey.type hkey).symm

theorem Known.ensure (h : r.Known) {type : SlotType} (htype : type ≠ .unknown) :
    (r.ensure bundle type).Known := by
  rw [SlotRegistry.ensure]
  split
  · exact h
  · exact h.put htype

theorem Known.add (h : r.Known) {slot : Slot} (hadd : r.add bundle slot = .ok r') : r'.Known := by
  obtain ⟨-, hslot, rfl⟩ := add_eq_ok_iff.1 hadd
  exact h.put hslot

theorem Known.addEach (h : r.Known) (slots : List Slot) : (r.addEach bundle slots).1.Known := by
  induction slots generalizing r with
  | nil => exact h
  | cons slot rest ih =>
    rw [SlotRegistry.addEach]
    split
    case h_1 hadd => exact ih (h.add hadd)
    case h_2 => exact h

theorem Known.addAll (h : r.Known) (slots : List Slot) : (r.addAll bundle slots).1.Known := by
  rw [SlotRegistry.addAll]
  split
  · exact h
  · exact h.addEach slots

/-- Dropping slots adds none. -/
theorem Known.filter (h : r.Known) (p : SlotKey → Bool) : Known ⟨r.slots.filter p⟩ := by
  intro owner
  rw [get?, Table.get?_filter]
  split
  · exact h owner
  · rfl

end SlotRegistry

/-- A table of those who are barred, after one of them was allowed or barred. -/
theorem Table.isNone_get?_bar {κ : Type} [Ord κ] [Std.TransOrd κ] [Std.LawfulEqOrd κ]
    [DecidableEq κ] (barred : Table κ Unit) (key key' : κ) (allowed : Bool) :
    ((if allowed then barred.erase key else barred.insert key ()).get? key').isNone =
      if key = key' then allowed else (barred.get? key').isNone := by
  by_cases hkey : key' = key
  · cases allowed <;> simp [get?_insert, get?_erase, hkey]
  · have hne : key ≠ key' := fun heq => hkey heq.symm
    cases allowed <;> simp [get?_insert, get?_erase, hkey, hne]

namespace Service

/-! ## Calls -/

/-- A call of a service. -/
inductive Call where
  | publish (bundle : Bundle) (request : NotificationRequest) (now : DateTime)
  | cancel (bundle : Bundle) (id : Int32) (label : String)
  | cancelAll (bundle : Bundle)
  | addSlot (bundle : Bundle) (slot : Slot)
  | addSlots (bundle : Bundle) (slots : List Slot)
  | removeSlot (bundle : Bundle) (type : SlotType)
  | removeSlots (bundle : Bundle)
  | enable (bundle : Bundle) (enabled : Bool)
  | allowUser (uid : Int32) (allowed : Bool)
  | setHours (hours : QuietHours)
  | setMode (mode : QuietMode)
  | subscribe (subscriber : Subscriber)

/-- The service behind a call that may be refused. -/
def orRefuse (s : Service) : Except Error Service → Service
  | .ok s' => s'
  | .error _ => s

/-- Carries a call out, unless it overflows. -/
def perform (s : Service) : Call → Except Overflow Service
  | .publish bundle request now =>
      (s.publish bundle request now).2.map fun _ => (s.publish bundle request now).1
  | .cancel bundle id label => .ok (s.orRefuse (s.cancel bundle id label))
  | .cancelAll bundle => .ok (s.cancelAll bundle).1
  | .addSlot bundle slot => .ok (s.orRefuse (s.addSlot bundle slot))
  | .addSlots bundle slots => .ok (s.addSlots bundle slots).1
  | .removeSlot bundle type => .ok (s.removeSlot bundle type).1
  | .removeSlots bundle => .ok (s.removeSlots bundle).1
  | .enable bundle enabled => .ok (s.enable bundle enabled)
  | .allowUser uid allowed => .ok (s.allowUser uid allowed)
  | .setHours hours => .ok (s.orRefuse (s.setHours hours))
  | .setMode mode => .ok (s.setMode mode)
  | .subscribe subscriber => .ok (s.subscribe subscriber)

/-! ## Steps and runs -/

/-- A call that was carried out. -/
structure Step where
  /-- The service before it. -/
  before : Service
  /-- What was called. -/
  call : Call
  /-- The service behind it. -/
  after : Service

/-- The steps from one service to another. -/
inductive Run (start : Service) : List Step → Service → Prop where
  | start : Run start [] start
  | step {steps : List Step} {s s' : Service} {call : Call} :
      Run start steps s → s.perform call = .ok s' → Run start (steps ++ [⟨s, call, s'⟩]) s'

/-- Carries calls out one after the other. -/
def performAll (s : Service) : List Call → Except Overflow (List Step × Service)
  | [] => .ok ([], s)
  | call :: rest => do
      let s' ← s.perform call
      let (steps, last) ← s'.performAll rest
      return (⟨s, call, s'⟩ :: steps, last)

/-- Calls carried out one after the other are a run. -/
theorem Run.performAll {start s s' : Service} {steps steps' : List Step} {calls : List Call}
    (run : Run start steps s) (h : s.performAll calls = .ok (steps', s')) :
    Run start (steps ++ steps') s' := by
  induction calls generalizing steps s steps' with
  | nil =>
    cases h
    rw [List.append_nil]
    exact run
  | cons call rest ih =>
    obtain ⟨s₁, hperform, h⟩ := Except.bind_eq_ok.1 h
    obtain ⟨⟨behind, last⟩, hrest, h⟩ := Except.bind_eq_ok.1 h
    cases h
    have hrun := ih (run.step hperform) hrest
    rw [List.append_assoc] at hrun
    exact hrun

/-- Whether the service was just built, with some subscribers and a mode for quiet hours. -/
def IsNew (s : Service) : Prop := s = { mode := s.mode, subscribers := s.subscribers }

/-! ## Permissions -/

/-- Who may be granted a permission. -/
inductive Principal where
  /-- The bundles of a name. -/
  | name (name : String)
  /-- A user. -/
  | user (uid : Int32)
deriving DecidableEq

/-- Whether a principal may notify. -/
def mayNotify (s : Service) : Principal → Bool
  | .name name => (s.barredNames.get? name).isNone
  | .user uid => s.isUserAllowed uid

/-- Lets a principal notify, or bars it. -/
def grant (s : Service) (principal : Principal) (allowed : Bool) : Service :=
  match principal with
  | .name name => s.enable { name } allowed
  | .user uid => s.allowUser uid allowed

/-- Whom a call grants or denies a permission. -/
def Call.grant? : Call → Option (Principal × Bool)
  | .enable bundle enabled => some (.name bundle.name, enabled)
  | .allowUser uid allowed => some (.user uid, allowed)
  | _ => none

/-- What a call says about the permission of a principal, if it says anything. -/
def Call.grantTo? (call : Call) (principal : Principal) : Option Bool :=
  (call.grant?.filter fun grant => grant.1 = principal).map Prod.snd

/-- What the last grant to a principal said, if there was any. -/
def lastGrant? (steps : List Step) (principal : Principal) : Option Bool :=
  (steps.filterMap fun step => step.call.grantTo? principal).getLast?

/-- The last step decides, if it grants anything to the principal. -/
theorem lastGrant?_append_step (steps : List Step) (step : Step) (principal : Principal) :
    lastGrant? (steps ++ [step]) principal =
      (step.call.grantTo? principal).or (lastGrant? steps principal) := by
  rw [lastGrant?, List.filterMap_append, List.getLast?_append]
  cases hgrant : step.call.grantTo? principal <;> simp [hgrant, lastGrant?]

/-! ## The outcome of each call -/

/-- The outcomes of the calls of a service. -/
inductive Effect (s : Service) : Call → Service → Prop where
  /-- What grants nothing may be refused, or have nothing to do. -/
  | kept {call : Call} : call.grant? = none → Effect s call s
  | slotted {call : Call} {slots : SlotRegistry} :
      call.grant? = none → (s.slots.Known → slots.Known) → Effect s call { s with slots }
  | published {bundle : Bundle} {request : NotificationRequest} {now : DateTime}
      {slots : SlotRegistry} {n : Notification} :
      (s.slots.Known → slots.Known) → n.Shows bundle request →
      Effect s (.publish bundle request now) ({ s with slots }.put n)
  | canceled {bundle : Bundle} {id : Int32} {label : String} {n : Notification} :
      s.active.get? ⟨bundle.name, id, label⟩ = some n →
      Effect s (.cancel bundle id label)
        ({ s with active := s.active.erase ⟨bundle.name, id, label⟩ }.tell [.canceled n])
  | canceledAll {bundle : Bundle} : Effect s (.cancelAll bundle) (s.cancelAll bundle).1
  | granted {call : Call} {principal : Principal} {allowed : Bool} :
      call.grant? = some (principal, allowed) → Effect s call (s.grant principal allowed)
  | hoursSet {hours : QuietHours} :
      Effect s (.setHours hours) ({ s with hours }.tell [.quiet hours])
  | modeSet {mode : QuietMode} : Effect s (.setMode mode) (s.setMode mode)
  | subscribed {subscriber : Subscriber} :
      Effect s (.subscribe subscriber) (s.subscribe subscriber)

variable {s s' : Service} {bundle : Bundle}

/-- A slot that publishing adds is of a known type. -/
theorem permit_known {slots : SlotRegistry} {type : SlotType} {slot : Slot}
    (h : s.permit bundle type = .ok (slots, slot)) (known : s.slots.Known) : slots.Known := by
  obtain ⟨rfl, -, hslot⟩ := of_permit_ok h
  exact known.ensure fun htype => by
    have hhas := hslot htype
    rw [htype, SlotRegistry.has, known bundle] at hhas
    cases hhas

/-- Publishing may add the slot it asks for, and touches no grant. -/
theorem publish_effect {request : NotificationRequest} {now : DateTime}
    {result : Except Error Unit} (h : s.publish bundle request now = (s', .ok result)) :
    s.Effect (.publish bundle request now) s' := by
  obtain ⟨_, -, -, rfl⟩ | ⟨slots, slot, n, hpermit, -, hshows, rfl⟩ := publish_cases h
  · exact .kept rfl
  · exact .published (permit_known hpermit) hshows

theorem cancel_effect (s : Service) (bundle : Bundle) (id : Int32) (label : String) :
    s.Effect (.cancel bundle id label) (s.orRefuse (s.cancel bundle id label)) := by
  rw [cancel]
  split
  case h_1 hget => exact .canceled hget
  case h_2 => exact .kept rfl

theorem addSlot_effect (s : Service) (bundle : Bundle) (slot : Slot) :
    s.Effect (.addSlot bundle slot) (s.orRefuse (s.addSlot bundle slot)) := by
  rw [addSlot]
  cases hadd : s.slots.add bundle slot with
  | error cause => exact .kept rfl
  | ok slots => exact .slotted rfl fun known => known.add hadd

theorem setHours_effect (s : Service) (hours : QuietHours) :
    s.Effect (.setHours hours) (s.orRefuse (s.setHours hours)) := by
  rw [setHours]
  cases hours.validate with
  | error cause => exact .kept rfl
  | ok => exact .hoursSet

/-- Whatever the call, it has one of the effects above. -/
theorem perform_effect {call : Call} (h : s.perform call = .ok s') : s.Effect call s' := by
  cases call with
  | publish bundle request now =>
    obtain ⟨result, hresult, rfl⟩ := Except.map_eq_ok.1 h
    exact publish_effect (Prod.ext rfl hresult)
  | cancel bundle id label =>
    cases h
    exact cancel_effect s bundle id label
  | cancelAll bundle =>
    cases h
    exact .canceledAll
  | addSlot bundle slot =>
    cases h
    exact addSlot_effect s bundle slot
  | addSlots bundle slots =>
    cases h
    exact .slotted rfl fun known => known.addAll slots
  | removeSlot bundle type =>
    cases h
    exact .slotted rfl fun known => known.filter _
  | removeSlots bundle =>
    cases h
    exact .slotted rfl fun known => known.filter _
  | enable bundle enabled =>
    cases h
    exact @Effect.granted s (.enable bundle enabled) (.name bundle.name) enabled rfl
  | allowUser uid allowed =>
    cases h
    exact @Effect.granted s (.allowUser uid allowed) (.user uid) allowed rfl
  | setHours hours =>
    cases h
    exact setHours_effect s hours
  | setMode mode =>
    cases h
    exact .modeSet
  | subscribe subscriber =>
    cases h
    exact .subscribed

/-! ## What a run leaves behind -/

/-- An answer for one user says nothing about the others. -/
theorem isUserAllowed_allowUser (s : Service) (uid other : Int32) (allowed : Bool) :
    (s.allowUser uid allowed).isUserAllowed other =
      if uid = other then allowed else s.isUserAllowed other :=
  Table.isNone_get?_bar s.barredUsers uid other allowed

/-- A grant is to one principal. -/
theorem mayNotify_grant (s : Service) (principal other : Principal) (allowed : Bool) :
    (s.grant principal allowed).mayNotify other =
      if principal = other then allowed else s.mayNotify other := by
  cases principal with
  | name name =>
    cases other with
    | name name' =>
      simp only [grant, enable, mayNotify, Table.isNone_get?_bar, Principal.name.injEq]
    | user uid => rfl
  | user uid =>
    cases other with
    | name name => rfl
    | user uid' =>
      simp only [grant, mayNotify, isUserAllowed_allowUser, Principal.user.injEq]

/-- A call changes who may notify by what it grants, and by nothing else. -/
theorem Effect.mayNotify_eq {call : Call} (h : s.Effect call s') (principal : Principal) :
    s'.mayNotify principal = (call.grantTo? principal).getD (s.mayNotify principal) := by
  cases h with
  | kept hgrant => simp [Call.grantTo?, hgrant]
  | slotted hgrant =>
    rw [Call.grantTo?, hgrant]
    cases principal <;> rfl
  | granted hgrant =>
    rw [mayNotify_grant, Call.grantTo?, hgrant]
    split
    case isTrue hsame => simp [Option.filter_some, hsame]
    case isFalse hother => simp [Option.filter_some, hother]
  | _ => cases principal <;> rfl

/-- A principal may notify unless the last grant says no. -/
theorem Run.mayNotify_eq {start : Service} {steps : List Step} (new : start.IsNew)
    (run : Run start steps s) (principal : Principal) :
    s.mayNotify principal = (lastGrant? steps principal).getD true := by
  induction run with
  | start =>
    rw [new]
    cases principal <;> rfl
  | step _ hperform ih =>
    rw [(perform_effect hperform).mayNotify_eq, lastGrant?_append_step, ih]
    cases Call.grantTo? _ principal <;> rfl

/-- No call lets a slot of the unknown type in. -/
theorem Effect.known {call : Call} (h : s.Effect call s') (known : s.slots.Known) :
    s'.slots.Known := by
  cases h with
  | kept => exact known
  | slotted _ hslots => exact hslots known
  | published hslots => exact hslots known
  | @granted _ principal => cases principal <;> exact known
  | _ => exact known

/-- A service that was new has no slot of the unknown type after any run. -/
theorem Run.known {start : Service} {steps : List Step} (new : start.IsNew)
    (run : Run start steps s) : s.slots.Known := by
  induction run with
  | start =>
    rw [new]
    exact fun _ => rfl
  | step _ hperform ih => exact (perform_effect hperform).known ih

/-! ## A board of notes -/

/-- A service that a subscriber watches from the start. -/
def board : Service where
  subscribers := [{ number := 0 }]

theorem board_isNew : board.IsNew := rfl

end Service

/-- A request to show a text as a chat message. -/
def NotificationRequest.note (id : Int32) (text : String) : NotificationRequest where
  id := id
  slotType := .socialCommunication
  content := .basicText { title := "note", text }

end Reminders
