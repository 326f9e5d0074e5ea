import Reminders.Proofs.Calls
import Reminders.Proofs.Records

/-!
# What is saved is current

A schedule is kept as the text of its value, and is read back from it.  So what `save` puts at
a place is what `load` takes from there (`Store.load_save`).

An engine saves its schedule whenever a call has changed it.  Some calls change it and do not
save: a publishing that fails has dropped the reminders that are over, a close that fails has
taken its reminder off the screen, and a tick without alerts has dropped what is over.  None of
these changes anything in a run that started with nothing stored.  No reminder of its schedule
is over between two calls, and a valid request is never refused its next ring
(`Run.inOrder`).  So the store never falls behind the schedule (`Run.isSaved`).
-/

namespace Reminders

/-! ## Saving and loading -/

/-- The text of a schedule is read back. -/
theorem Store.schedule?_pretty (s : Schedule) : schedule? s.toJson.pretty = some s := by
  rw [schedule?, Json.read?_pretty (s.plain 121), Option.bind_some, Schedule.ofJson?_toJson]

/-- A store that holds the text of a schedule loads it. -/
theorem Store.load_text (s : Schedule) : (text s.toJson.pretty).load = .ok (some s) := by
  have hread : (text s.toJson.pretty).read = .ok (some s.toJson.pretty) := rfl
  rw [load, hread]
  simp only [bind, Except.bind, schedule?_pretty]
  rfl

/-- A schedule that is saved can be loaded, and the one that was loaded is saved as the same
text.  No place but a directory, and one where no file may be put, refuses it. -/
theorem Store.load_save (s : Schedule) :
    ∃ saved : Store, saved.content? = some s.toJson.pretty ∧
      (∀ place : Store, place.save s = .ok saved ∨ place = .directory ∨ place = .blocked) ∧
      saved.load = .ok (some s) ∧ saved.save s = .ok saved := by
  refine ⟨.text s.toJson.pretty, rfl, fun place => ?_, load_text s, rfl⟩
  cases place with
  | missing => exact .inl rfl
  | text content => exact .inl rfl
  | binary => exact .inl rfl
  | directory => exact .inr (.inl rfl)
  | blocked => exact .inr (.inr rfl)

/-! ## What changes nothing -/

namespace Schedule

variable {s s' : Schedule}

/-- A cancel that finds nothing leaves the schedule as it is. -/
theorem cancel_eq_self {caller : Bundle} {id : Int32} (h : (s.cancel caller id).2 = false) :
    (s.cancel caller id).1 = s := by
  rw [cancel, drop] at h
  have hnone : s.entries.countP (fun x => x.id == id && x.isOwnedBy caller) = 0 := by
    simpa using h
  have hentries : s.entries.filter (fun x => !(x.id == id && x.isOwnedBy caller)) = s.entries :=
    List.filter_eq_self.2 fun x hx => by
      rw [Bool.not_eq_true', ← Bool.not_eq_true]
      exact List.countP_eq_zero.1 hnone x hx
  rw [cancel, drop, hentries]

/-- A refused publish changes nothing where no reminder is over, since it may purge those. -/
theorem publish_error {bundle : Bundle} {request : ReminderRequest} {now : DateTime}
    {cause : Error} (hover : ∀ x ∈ s.entries, ¬ x.isOver)
    (h : s.publish bundle request now = (s', .ok (.error cause))) : s' = s := by
  cases publish_effect h with
  | refused => rfl
  | refusedThen => exact purge_eq_self hover

theorem silence_none [LocalTime] {id : Int32} (h : (s.silence id).2 = none) :
    (s.silence id).1 = s := by
  rw [silence] at h ⊢
  split at h
  case h_1 => rfl
  case h_2 =>
    split at h
    case isTrue => cases h
    case isFalse hquiet => simp [hquiet]

end Schedule

/-! ## Engines whose schedule is saved -/

namespace Engine

/-- Whether the store holds the schedule.  Nothing need be there as long as the schedule is
the one that an engine starts with. -/
def IsSaved (e : Engine) : Prop :=
  (e.store = some .missing ∧ e.schedule = {}) ∨
    ∃ place, e.store = some place ∧ place.load = .ok (some e.schedule)

variable {e e' : Engine} {caller : Bundle}

/-- What was saved still is, if neither the store nor the schedule changed. -/
theorem IsSaved.congr (h : e.IsSaved) (hstore : e'.store = e.store)
    (hschedule : e'.schedule = e.schedule) : e'.IsSaved := by
  rw [IsSaved, hstore, hschedule]
  exact h

/-- A schedule can be written at the place of another one that is saved. -/
theorem IsSaved.persist (h : e.IsSaved) (hstore : e'.store = e.store) : e'.persist.IsSaved := by
  have hplace : ∃ place, e'.store = some place ∧
      place.save e'.schedule = .ok (.text e'.schedule.toJson.pretty) := by
    rw [hstore]
    obtain ⟨hmissing, -⟩ | ⟨place, hplace, hload⟩ := h
    · exact ⟨.missing, hmissing, rfl⟩
    · refine ⟨place, hplace, ?_⟩
      cases place with
      | text content => rfl
      | missing => cases hload
      | binary => cases hload
      | directory => cases hload
      | blocked => cases hload
  obtain ⟨place, hplace, hsave⟩ := hplace
  refine .inr ⟨.text e'.schedule.toJson.pretty, ?_, ?_⟩
  · simp only [Engine.persist, hplace, hsave]
  · rw [persist_schedule]
    exact Store.load_text e'.schedule

theorem dismiss_store (e : Engine) (caller : Bundle) (notificationId : Int32) :
    (e.dismiss caller notificationId).store = e.store := by
  rw [dismiss]
  split <;> rfl

/-- Dismissing a notification is no matter of the store. -/
theorem IsSaved.dismiss (h : e.IsSaved) (caller : Bundle) (notificationId : Int32) :
    (e.dismiss caller notificationId).IsSaved :=
  h.congr (e.dismiss_store caller notificationId) (e.dismiss_schedule caller notificationId)

/-! ## What a call keeps -/

/-- Publishing saves what it took in; a refusal leaves nothing to save. -/
theorem publish_isSaved {request : ReminderRequest} {result : Except Error Int32}
    (hs : e.IsSaved) (hover : ∀ x ∈ e.schedule.entries, ¬ x.isOver)
    (h : e.publish caller request = (e', .ok result)) : e'.IsSaved := by
  rw [publish] at h
  split at h
  case isTrue =>
    simp only at h
    split at h
    case h_1 =>
      obtain ⟨rfl, -⟩ := Prod.mk.inj h
      exact hs.persist rfl
    case h_2 hrefused =>
      obtain ⟨rfl, hresult⟩ := Prod.mk.inj h
      obtain cause | id := result
      · exact hs.congr rfl (Schedule.publish_error hover (Prod.ext rfl hresult))
      · exact (hrefused id hresult).elim
  case isFalse =>
    cases h
    exact hs

/-- Cancelling saves what is left. -/
theorem cancel_isSaved (hs : e.IsSaved) (id : Int32) : (e.cancel caller id).IsSaved := by
  rw [cancel]
  simp only
  have hdropped : (if (e.schedule.cancel caller id).2 = true then
      { e with schedule := (e.schedule.cancel caller id).1 }.persist
      else { e with schedule := (e.schedule.cancel caller id).1 }).IsSaved := by
    split
    case isTrue => exact hs.persist rfl
    case isFalse hnone => exact hs.congr rfl (Schedule.cancel_eq_self (by simpa using hnone))
  split
  · exact hdropped.dismiss caller _
  · exact hdropped

theorem cancelAll_isSaved (hs : e.IsSaved) : (e.cancelAll caller).IsSaved := by
  rw [cancelAll]
  have hdropped : { e with schedule := (e.schedule.cancelAll caller).1 }.persist.IsSaved :=
    hs.persist rfl
  generalize { e with schedule := (e.schedule.cancelAll caller).1 }.persist = dropped at hdropped
  generalize e.schedule.entries.filter _ = showing
  induction showing generalizing dropped with
  | nil => exact hdropped
  | cons x rest ih => exact ih _ (hdropped.dismiss caller _)

/-- A snooze saves before it publishes, so it is saved even if that fails. -/
theorem snooze_isSaved [LocalTime] {id : Int32} {result : Except Error Unit} (hs : e.IsSaved)
    (h : e.snooze caller id = (e', .ok result)) : e'.IsSaved := by
  rw [snooze] at h
  split at h
  case isTrue =>
    split at h
    case h_1 =>
      cases h
      exact hs
    case h_2 =>
      simp only at h
      split at h
      case h_1 cause hcause =>
        cases h
        exact hs.congr rfl (Schedule.snooze_refused (Prod.ext rfl hcause))
      case h_2 =>
        obtain ⟨rfl, -⟩ := Prod.mk.inj h
        have hsnoozed : { e with schedule := (e.schedule.snooze id e.clock).1 }.persist.IsSaved :=
          hs.persist rfl
        exact hsnoozed.congr rfl rfl
  case isFalse =>
    cases h
    exact hs

/-- Closing saves the reminder as it ends or renews. -/
theorem close_isSaved {id : Int32} {result : Except Error Unit} (hs : e.IsSaved)
    (hsound : ∀ x ∈ e.schedule.entries, x.Sound)
    (h : e.close caller id = (e', .ok result)) : e'.IsSaved := by
  rw [close] at h
  split at h
  case h_1 =>
    cases h
    exact hs
  case h_2 x howned =>
    simp only at h
    split at h
    case h_1 => cases h
    case h_2 cause hcause =>
      have hget := (owned?_eq_some.1 howned).1
      have hvalid := hsound x (Schedule.mem_of_get? hget)
      exact (Schedule.close_ne_error hget hvalid (Prod.ext rfl hcause)).elim
    case h_3 =>
      cases h
      exact hs.persist rfl
    case h_4 =>
      cases h
      have hclosed : { e with schedule := (e.schedule.close id e.clock).1 }.persist.IsSaved :=
        hs.persist rfl
      exact hclosed.dismiss caller _

/-- If none of the ids rings, silencing them changes nothing. -/
theorem silenceAll_nil [LocalTime] {s s' : Schedule} {ids : List Int32}
    (h : silenceAll s ids = (s', [])) :
    s' = s := by
  induction ids generalizing s with
  | nil =>
    cases h
    rfl
  | cons id rest ih =>
    rw [silenceAll] at h
    simp only [Prod.mk.injEq, List.append_eq_nil_iff] at h
    obtain ⟨hs', hshown, hrest⟩ := h
    have hnone : (s.silence id).2 = none := by
      cases hget : s.get? id with
      | none => simp [Schedule.silence, hget]
      | some x =>
        cases hsilent : (s.silence id).2 with
        | none => rfl
        | some notification =>
          rw [hget, hsilent] at hshown
          cases hshown
    rw [Schedule.silence_none hnone] at hs' hrest
    exact ih (Prod.ext hs' hrest)

/-- A tick saves what rang or fell silent; an idle one has nothing to save. -/
theorem tick_isSaved [LocalTime] {now : DateTime} {alerts : List Alert} (hs : e.IsSaved)
    (hover : ∀ x ∈ e.schedule.entries, ¬ x.isOver) (h : e.tick now = (e', .ok alerts)) :
    e'.IsSaved := by
  rw [tick] at h
  split at h
  case h_1 => cases h
  case h_2 fired given hfire =>
    simp only at h
    obtain ⟨rfl, -⟩ := Prod.mk.inj h
    have hticked : (if (given.isEmpty &&
            (silenceAll fired (fired.ringElapsed now)).2.isEmpty) = true then
          { e with schedule := (silenceAll fired (fired.ringElapsed now)).1 }
        else
          { e with schedule := (silenceAll fired (fired.ringElapsed now)).1 }.persist).IsSaved := by
      split
      case isTrue hnone =>
        rw [Bool.and_eq_true, List.isEmpty_iff, List.isEmpty_iff] at hnone
        obtain ⟨rfl, hsilent⟩ := hnone
        refine hs.congr rfl ?_
        exact (silenceAll_nil (Prod.ext rfl hsilent)).trans (Schedule.fireDue_nil hover hfire)
      case isFalse => exact hs.persist rfl
    exact hticked.congr rfl rfl

/-- A call that touches the service only leaves the saved schedule as it was. -/
theorem orRefuse_isSaved {result : Except Error Engine} (hs : e.IsSaved)
    (h : ∀ e', result = .ok e' → e'.store = e.store ∧ e'.schedule = e.schedule) :
    (e.orRefuse result).1.IsSaved := by
  cases result with
  | error cause => exact hs
  | ok e' => exact hs.congr (h e' rfl).1 (h e' rfl).2

theorem addSlot_kept {argument : SlotArgument} (h : e.addSlot caller argument = .ok e') :
    e'.store = e.store ∧ e'.schedule = e.schedule := by
  obtain ⟨service, -, rfl⟩ := Except.map_eq_ok.1 h
  exact ⟨rfl, rfl⟩

/-- No call lets the store fall behind where the schedule is in order. -/
theorem perform_isSaved [LocalTime] {call : Call} {reply : Reply} (hs : e.IsSaved)
    (hsound : ∀ x ∈ e.schedule.entries, x.Sound) (hover : ∀ x ∈ e.schedule.entries, ¬ x.isOver)
    (h : e.perform call = .ok (e', reply)) : e'.IsSaved := by
  cases call with
  | publish caller request =>
    obtain ⟨result, hpublish, rfl⟩ := Attempt.settle_eq_ok.1 h
    exact publish_isSaved hs hover hpublish
  | cancel caller id =>
    cases h
    exact cancel_isSaved hs id
  | cancelAll caller =>
    cases h
    exact cancelAll_isSaved hs
  | valid caller =>
    cases h
    exact hs
  | snooze caller id =>
    obtain ⟨result, hsnooze, rfl⟩ := Attempt.settle_eq_ok.1 h
    exact snooze_isSaved hs hsnooze
  | close caller id =>
    obtain ⟨result, hclose, rfl⟩ := Attempt.settle_eq_ok.1 h
    exact close_isSaved hs hsound hclose
  | addSlot caller argument =>
    obtain ⟨rfl, rfl⟩ := Prod.mk.inj (Except.ok.inj h)
    exact orRefuse_isSaved hs fun _ => addSlot_kept
  | addSlotValue caller value =>
    obtain ⟨rfl, rfl⟩ := Prod.mk.inj (Except.ok.inj h)
    refine orRefuse_isSaved hs fun _ hadd => ?_
    obtain ⟨argument, -, hadd⟩ := Except.bind_eq_ok.1 hadd
    exact addSlot_kept hadd
  | removeSlot caller type =>
    cases h
    exact hs.congr rfl rfl
  | tick now =>
    obtain ⟨alerts, htick, rfl⟩ := Attempt.settle_eq_ok.1 h
    exact tick_isSaved hs hover htick
  | setClock clock =>
    cases h
    exact hs.congr rfl rfl
  | others service =>
    cases h
    exact hs.congr rfl rfl

/-! ## What a run keeps -/

theorem start_store {bundle : Bundle} {service : Service} {store : Option Store}
    {clock : DateTime} (h : start bundle service store clock = .ok (.ok e)) : e.store = store := by
  rw [start] at h
  split at h
  case h_1 => cases h
  case h_2 =>
    obtain ⟨restored, -, h⟩ := Except.bind_eq_ok.1 h
    obtain ⟨schedule, -, rfl⟩ := Except.map_eq_ok.1 (Except.ok.inj h)
    rfl

/-- Between two calls every reminder is in order, and none is over. -/
theorem Run.inOrder [LocalTime] {start e : Engine} {steps : List Step} (new : start.IsNew)
    (run : Run start steps e) :
    (∀ x ∈ e.schedule.entries, x.Sound) ∧ ∀ x ∈ e.schedule.entries, ¬ x.isOver := by
  obtain ⟨history, hrun, -, hkept⟩ := run.history_clockKept new
  exact ⟨hrun.sound, fun x hx => Entry.not_isOver_iff.2 (hrun.isShowing_of_expired hkept x hx)⟩

/-- An engine that was started where no file was saves its schedule whenever a call has
changed it. -/
theorem Run.isSaved [LocalTime] {bundle : Bundle} {service : Service} {clock : DateTime}
    {start e : Engine} {steps : List Step}
    (hstart : Engine.start bundle service (some .missing) clock = .ok (.ok start))
    (run : Run start steps e) : e.IsSaved ∧ ∀ step ∈ steps, step.after.IsSaved := by
  have new : start.IsNew := ⟨bundle, service, some .missing, clock, hstart, rfl⟩
  induction run with
  | start =>
    exact ⟨.inl ⟨start_store hstart, new.schedule_eq⟩, by simp⟩
  | step before hperform ih =>
    obtain ⟨hsaved, hsteps⟩ := ih
    obtain ⟨hsound, hover⟩ := before.inOrder new
    have hafter := perform_isSaved hsaved hsound hover hperform
    refine ⟨hafter, List.forall_mem_append.2 ⟨hsteps, ?_⟩⟩
    simpa using hafter

/-- A kitchen whose schedule is to be kept where no file is yet. -/
def storedKitchen : Engine := { kitchen with store := some .missing }

theorem start_storedKitchen :
    Engine.start .kitchen {} (some .missing) .first = .ok (.ok storedKitchen) := by cbv

/-- An alarm is published and rings, a reminder of the past is refused, the alarm is closed, and
a tick finds nothing to do. -/
def closedAlarm : List Call :=
  [.publish .kitchen { kind := .alarm 0 1 [1, 3], content := "tea \"green\"\n" },
    .tick (.sinceFirst 60),
    .publish .kitchen { kind := .calendar ⟨-262143, 1, 1, 0, 0, 0⟩ [] [] }, .close .kitchen 1,
    .tick (.sinceFirst 70)]

attribute [local instance] LocalTime.universal

/-- The alarm waits for its next ring, and the file says so. -/
theorem Run.isSaved_closedAlarm :
    ∃ steps e place, storedKitchen.performAll closedAlarm = .ok (steps, e) ∧
      Run storedKitchen steps e ∧ e.store = some place ∧ place.load = .ok (some e.schedule) ∧
      e.schedule.entries.map (fun x => (x.id, x.status, x.expired)) = [(1, .active, false)] := by
  have hend : (storedKitchen.performAll closedAlarm).map (fun r =>
      r.2.schedule.entries.map fun x => (x.id, x.status, x.expired)) =
      .ok [(1, .active, false)] := by decide +kernel
  obtain ⟨⟨steps, e⟩, hperform, hentries⟩ := Except.map_eq_ok.1 hend
  have run : Run storedKitchen steps e := Run.start.performAll hperform
  obtain ⟨-, hempty⟩ | ⟨place, hstore, hload⟩ := (run.isSaved start_storedKitchen).1
  · rw [hempty] at hentries
    cases hentries
  · exact ⟨steps, e, place, hperform, run, hstore, hload, hentries⟩

end Engine

end Reminders
