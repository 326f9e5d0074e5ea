import Mathlib
import Reminders.Proofs.Effect

/-!
# What every run keeps up

Whatever is called in whatever order, and however the clock is set, a run from the
empty schedule keeps it in order, as `Upkeep` says and `Run.upkeep` proves.

* The ids are given away in turn.  A refused request takes none.
* There are never more entries than may be, and each stems from an accepted
  publishing, in that order.
* Each entry is `Entry.Sound`: it is still valid, and what it does agrees with its
  trigger and with what is left to it.
* Unless the clock was set, what has expired is on screen.

Each of these is kept by every operation, and so by a run, as a lemma of its own.
An entry that waits and has expired occurs only after a `refresh`, which does not
drop what it makes expire.
-/

namespace Reminders

/-! ## Sound entries -/

/-- The fields of the entry agree with each other. -/
structure Entry.Sound (e : Entry) : Prop where
  bundle_valid : e.bundle.validate = .ok ()
  request_valid : e.request.validate = .ok ()
  /-- What has not expired rings at some moment. -/
  trigger_isSome : e.expired = false → e.trigger.isSome
  /-- What is snoozed will ring. -/
  snoozed_live : e.status = .snoozed → e.expired = false
  /-- What is on screen or snoozed has been shown. -/
  lastShown_isSome : e.status ≠ .active → e.lastShown.isSome
  /-- A timer on screen has rung. -/
  timer_expired : e.request.type = .timer → e.status.isShowing → e.expired ∧ e.trigger = none
  snoozesLeft_le : e.snoozesLeft ≤ e.request.snoozes

namespace Entry.Sound

variable {e : Entry}

/-- Covering keeps a reminder sound. -/
theorem offScreen (h : e.Sound) : Sound { e with status := .active } :=
  { h with
    snoozed_live := fun hstatus => by cases hstatus
    lastShown_isSome := fun hstatus => absurd rfl hstatus
    timer_expired := fun _ hshowing => by cases hshowing }

/-- A ring keeps a reminder sound. -/
theorem rung {r : Entry} {now : DateTime} (h : e.Sound) (hrung : e.rung now = (r, .ok ())) :
    r.Sound := by
  obtain ⟨-, rfl⟩ | ⟨htimer, ⟨-, hleft⟩, rfl⟩ | ⟨htimer, -, next, -, rfl⟩ := rung_cases hrung
  · exact
      { h with
        trigger_isSome := fun hlive => by cases hlive
        snoozed_live := fun hstatus => by cases hstatus
        lastShown_isSome := fun _ => rfl
        timer_expired := fun _ _ => ⟨rfl, rfl⟩ }
  · have hone : 1 ≤ e.snoozesLeft := by
      rw [UInt8.lt_iff_toNat_lt] at hleft
      exact UInt8.le_iff_toNat_le.2 hleft
    exact
      { h with
        trigger_isSome := trigger_isSome_of_movedTo
        snoozed_live := fun hstatus => by cases hstatus
        lastShown_isSome := fun _ => rfl
        timer_expired := fun htype => absurd htype htimer
        snoozesLeft_le := UInt8.le_trans (UInt8.sub_le hone) h.snoozesLeft_le }
  · exact
      { h with
        trigger_isSome := trigger_isSome_of_movedTo
        snoozed_live := fun hstatus => by cases hstatus
        lastShown_isSome := fun _ => rfl
        timer_expired := fun htype => absurd htype htimer
        snoozesLeft_le := UInt8.le_refl _ }

theorem fires {e' : Entry} {now : DateTime} (h : e.Sound) (hfires : e.Fires now e') :
    e'.Sound := by
  cases hfires with
  | kept => exact h
  | covered => exact h.offScreen
  | rang _ hrung => exact h.rung hrung
  | hidden _ hrung => exact (h.rung hrung).offScreen

theorem snoozed (h : e.Sound) (hshowing : e.status.isShowing) (t : DateTime) :
    Sound { e with trigger := some t, status := .snoozed, expired := false } :=
  { h with
    trigger_isSome := fun _ => rfl
    snoozed_live := fun _ => rfl
    lastShown_isSome := fun _ => h.lastShown_isSome fun hactive => by
      rw [hactive] at hshowing
      cases hshowing
    timer_expired := fun _ hshowing => by cases hshowing }

theorem ended (h : e.Sound) : Sound { e with status := .active, expired := true } :=
  { h.offScreen with
    trigger_isSome := fun hlive => by cases hlive
    snoozed_live := fun hstatus => by cases hstatus
    timer_expired := fun _ hshowing => by cases hshowing }

theorem renewed (h : e.Sound) (t : DateTime) :
    Sound { e with
      trigger := some t, status := .active, expired := false, snoozesLeft := e.request.snoozes } :=
  { h.offScreen with
    trigger_isSome := fun _ => rfl
    snoozed_live := fun _ => rfl
    timer_expired := fun _ hshowing => by cases hshowing
    snoozesLeft_le := UInt8.le_refl _ }

theorem quiet (h : e.Sound) (halerting : e.status = .showing true) :
    Sound { e with status := .showing false } :=
  { h with
    snoozed_live := fun hstatus => by cases hstatus
    lastShown_isSome := fun _ => h.lastShown_isSome (by simp [halerting])
    timer_expired := fun htimer _ => h.timer_expired htimer (by rw [halerting]; rfl) }

/-- A refresh keeps a reminder sound. -/
theorem refreshed {e' : Entry} {now : DateTime} (h : e.Sound)
    (hrefreshed : e.refreshed now = .ok e') : e'.Sound := by
  obtain ⟨-, rfl⟩ | ⟨⟨-, -, htimer, -⟩, t, -, rfl⟩ | ⟨⟨-, hactive, htimer, -⟩, -, rfl⟩ |
    ⟨-, -, rfl⟩ := refreshed_cases hrefreshed
  · exact h
  · exact
      { h with
        trigger_isSome := fun _ => rfl
        timer_expired := fun htype => absurd htype htimer }
  · exact
      { h with
        trigger_isSome := fun hlive => by cases hlive
        snoozed_live := fun hstatus => by
          rw [hactive] at hstatus
          cases hstatus
        timer_expired := fun htype => absurd htype htimer }
  · exact h

end Entry.Sound

/-! ## What a step keeps -/

namespace Schedule

variable {s s' : Schedule} {operation : Operation} {answer : Answer}

theorem mem_of_get? {id : Int32} {e : Entry} (h : s.get? id = some e) : e ∈ s.entries :=
  List.mem_of_find?_eq_some h

/-- A valid reminder can always be closed. -/
theorem close_ne_error {id : Int32} {now : DateTime} {e : Entry} {cause : Error}
    (hget : s.get? id = some e) (hsound : e.Sound) : s.close id now ≠ (s', .ok (.error cause)) := by
  intro h
  rw [close, hget] at h
  simp only at h
  split at h
  case isTrue =>
    split at h
    case h_1 => cases h
    case h_2 cause' hnext =>
      exact ReminderRequest.nextTrigger_ne_error hsound.request_valid now cause' hnext
    case h_3 => cases h
    case h_4 => cases h
  case isFalse => cases h

/-- What holds of all reminders, and of the new one, holds behind a publish. -/
theorem forall_mem_accept {p : Entry → Prop} {bundle : Bundle} {request : ReminderRequest}
    {trigger : DateTime} (hs : ∀ e ∈ s.entries, p e)
    (hnew : p ⟨idAfter s.lastId, bundle, request, some trigger, .active, false, request.snoozes,
      none⟩) : ∀ e ∈ (s.accept bundle request trigger).entries, p e := by
  intro e he
  rcases List.mem_append.1 he with he | he
  · exact hs e he
  · rw [List.mem_singleton.1 he]
    exact hnew

/-- Every operation keeps all reminders sound. -/
theorem Effect.sound (h : s.Effect operation answer s') (hs : ∀ e ∈ s.entries, e.Sound) :
    ∀ e ∈ s'.entries, e.Sound := by
  cases h with
  | refused => exact hs
  | refusedThen => exact forall_mem_drop _ hs
  | published hrequest _ _ =>
    obtain ⟨hbundle, hrequest⟩ := checkRequest_eq_ok.1 hrequest
    exact forall_mem_accept (forall_mem_drop _ hs)
      { bundle_valid := hbundle
        request_valid := hrequest
        trigger_isSome := fun _ => rfl
        snoozed_live := fun _ => rfl
        lastShown_isSome := fun hstatus => absurd rfl hstatus
        timer_expired := fun _ hshowing => by cases hshowing
        snoozesLeft_le := UInt8.le_refl _ }
  | cancelled => exact forall_mem_drop _ hs
  | cancelledAll => exact forall_mem_drop _ hs
  | fired hmoved => exact hmoved.forall_mem hs fun _ _ hfires _ hsound => hsound.fires hfires
  | notSnoozed => exact hs
  | snoozed hget hshowing _ hs' =>
    exact hs'.forall_mem hs fun _ => (hs _ (mem_of_get? hget)).snoozed hshowing _
  | notClosed => exact hs
  | closedOnly hget _ _ hs' =>
    exact hs'.forall_mem hs fun _ => (hs _ (mem_of_get? hget)).offScreen
  | ended hget _ _ hs' => exact hs'.forall_mem hs fun _ => (hs _ (mem_of_get? hget)).ended
  | renewed hget _ _ hs' => exact hs'.forall_mem hs fun _ => (hs _ (mem_of_get? hget)).renewed _
  | notSilenced => exact hs
  | silenced hget halerting hs' =>
    exact hs'.forall_mem hs fun _ => (hs _ (mem_of_get? hget)).quiet halerting
  | refreshed hmoved =>
    exact hmoved.forall_mem hs fun _ _ hrefreshed _ hsound => hsound.refreshed hrefreshed
  | purged => exact forall_mem_drop _ hs

/-- Only `refresh` leaves reminders behind that have expired and are off the screen.
`close` would, but a valid request is never refused its next ring. -/
theorem Effect.not_isOver (h : s.Effect operation answer s')
    (hrefresh : ∀ now, operation ≠ .refresh now) (hsound : ∀ e ∈ s.entries, e.Sound)
    (hs : ∀ e ∈ s.entries, ¬ e.isOver) : ∀ e ∈ s'.entries, ¬ e.isOver := by
  cases h with
  | refused => exact hs
  | refusedThen => exact forall_mem_drop _ hs
  | published => exact forall_mem_accept (forall_mem_drop _ hs) (by simp [Entry.isOver])
  | cancelled => exact forall_mem_drop _ hs
  | cancelledAll => exact forall_mem_drop _ hs
  | fired hmoved => exact hmoved.forall_mem hs fun _ _ _ hkeep _ => by simpa using hkeep
  | notSnoozed => exact hs
  | snoozed _ _ _ hs' => exact hs'.forall_mem hs fun _ => by simp [Entry.isOver]
  | notClosed => exact hs
  | @closedOnly _ now e cause _ _ hget _ hnext _ =>
    have hvalid := (hsound e (mem_of_get? hget)).request_valid
    exact absurd hnext (ReminderRequest.nextTrigger_ne_error hvalid now cause)
  | ended _ _ _ hs' => exact hs'.forall_mem hs fun hkeep => by simpa using hkeep
  | renewed _ _ _ hs' => exact hs'.forall_mem hs fun hkeep => by simpa using hkeep
  | notSilenced => exact hs
  | silenced _ _ hs' =>
    exact hs'.forall_mem hs fun _ => by simp [Entry.isOver, ReminderStatus.isShowing]
  | refreshed => exact absurd rfl (hrefresh _)
  | purged => exact fun e he => by simpa using List.of_mem_filter he

/-! ## Ids and room -/

/-- A reminder is taken in only below the limit. -/
theorem size_lt_of_checkRoom {bundle : Bundle} (h : s.checkRoom bundle = .ok ()) :
    s.size < 2000 := by
  rw [checkRoom] at h
  split at h
  case isTrue => cases h
  case isFalse hsize => exact Nat.not_le.1 hsize

/-- Ids count up, and come round to one behind the greatest. -/
theorem idAfter_toInt {id : Int32} (h : 0 ≤ id.toInt) :
    (idAfter id).toInt = id.toInt % (2 ^ 31 - 1) + 1 := by
  rw [idAfter]
  split
  case isTrue hmax =>
    subst hmax
    decide
  case isFalse hmax =>
    have hne : id.toInt ≠ 2 ^ 31 - 1 := fun heq => hmax (Int32.toInt_inj.1 heq)
    have hlt := id.toInt_lt
    have hone : (1 : Int32).toInt = 1 := rfl
    rw [Int32.toInt_add, hone, Int.bmod_eq_of_le_mul_two (by omega) (by omega),
      Int.emod_eq_of_lt h (by omega)]

end Schedule

/-! ## What a run keeps -/

/-- Whether no step of a run set the clock. -/
def ClockKept (steps : List Step) : Prop := ∀ step ∈ steps, ∀ now, step.operation ≠ .refresh now

/-- What holds of a schedule that a run from the empty one reached. -/
structure Upkeep (steps : List Step) (s : Schedule) : Prop where
  /-- The ids are given away in turn, from 1 to the greatest and then from 1 again. -/
  id_eq : ∀ (k : Nat) (p : Publication), (publications steps)[k]? = some p →
    p.id.toInt = k % (2 ^ 31 - 1) + 1
  lastId_eq : s.lastId = ((publications steps).getLast?.map Publication.id).getD 0
  size_le : s.size ≤ 2000
  /-- Each entry is one that was published, and is stored in that order. -/
  stem : (s.entries.map Entry.publication).Sublist (publications steps)
  sound : ∀ e ∈ s.entries, e.Sound
  /-- What has expired is on screen, unless the clock was set. -/
  isShowing_of_expired : ClockKept steps → ∀ e ∈ s.entries, e.expired → e.status.isShowing

/-- What is not over has not expired, or is still on screen. -/
theorem Entry.not_isOver_iff {e : Entry} : ¬ e.isOver ↔ (e.expired → e.status.isShowing) := by
  simp [isOver]

theorem publications_append (steps : List Step) (step : Step) :
    publications (steps ++ [step]) = publications steps ++ step.publication?.toList := by
  rw [publications, List.filterMap_append]
  cases h : step.publication? <;> simp [publications, h]

/-- Steps that publish nothing leave the publications as they were. -/
theorem publications_append_of_nil {steps more : List Step} (h : publications more = []) :
    publications (steps ++ more) = publications steps := by
  rw [publications, List.filterMap_append, ← publications, ← publications, h, List.append_nil]

/-! ### Ids -/

/-- Whether the ids were given away in turn, and the schedule knows the last one. -/
structure Numbered (steps : List Step) (s : Schedule) : Prop where
  id_eq : ∀ (k : Nat) (p : Publication), (publications steps)[k]? = some p →
    p.id.toInt = k % (2 ^ 31 - 1) + 1
  lastId_eq : s.lastId = ((publications steps).getLast?.map Publication.id).getD 0

namespace Numbered

variable {steps : List Step} {s s' : Schedule} {operation : Operation} {answer : Answer}

theorem start : Numbered [] {} where
  id_eq := fun k p hp => by simp [publications] at hp
  lastId_eq := rfl

/-- The id given away next, as a number. -/
theorem idAfter_lastId (h : Numbered steps s) :
    (Schedule.idAfter s.lastId).toInt = (publications steps).length % (2 ^ 31 - 1) + 1 := by
  rw [h.lastId_eq, List.getLast?_eq_getElem?]
  cases hlast : (publications steps)[(publications steps).length - 1]? with
  | none =>
    have hlength : (publications steps).length = 0 := by
      have hle := List.getElem?_eq_none_iff.1 hlast
      omega
    rw [hlength]
    decide
  | some p =>
    have hid := h.id_eq _ p hlast
    obtain ⟨hlt, -⟩ := List.getElem?_eq_some_iff.1 hlast
    rw [Option.map_some, Option.getD_some, Schedule.idAfter_toInt (by omega), hid]
    omega

/-- A step that publishes nothing gives no id away. -/
theorem unpublished {step : Step} (h : Numbered steps s) (hnone : step.publication? = none)
    (hlast : s'.lastId = s.lastId) : Numbered (steps ++ [step]) s' := by
  have hpublications : publications (steps ++ [step]) = publications steps := by
    rw [publications_append, hnone, Option.toList_none, List.append_nil]
  constructor
  · rw [hpublications]
    exact h.id_eq
  · rw [hpublications, hlast]
    exact h.lastId_eq

/-- A step that publishes gives the next id away. -/
theorem published {step : Step} {bundle : Bundle} {request : ReminderRequest}
    (h : Numbered steps s)
    (hsome : step.publication? = some ⟨Schedule.idAfter s.lastId, bundle, request⟩)
    (hlast : s'.lastId = Schedule.idAfter s.lastId) : Numbered (steps ++ [step]) s' := by
  have hpublications : publications (steps ++ [step]) =
      publications steps ++ [⟨Schedule.idAfter s.lastId, bundle, request⟩] := by
    rw [publications_append, hsome, Option.toList_some]
  constructor
  · intro k p hp
    rw [hpublications, List.getElem?_append] at hp
    split at hp
    case isTrue => exact h.id_eq k p hp
    case isFalse hk =>
      rw [List.getElem?_singleton] at hp
      split at hp
      case isTrue hlast =>
        cases hp
        have hk' : k = (publications steps).length := by omega
        rw [hk', h.idAfter_lastId]
      case isFalse => cases hp
  · rw [hpublications, List.getLast?_concat, hlast]
    rfl

theorem step (h : Numbered steps s) (heffect : s.Effect operation answer s') :
    Numbered (steps ++ [⟨s, operation, answer, s'⟩]) s' := by
  obtain ⟨hnone, hlast, -⟩ | ⟨bundle, request, now, trigger, rfl, rfl, -, -, -, rfl⟩ :=
    heffect.thins
  · exact h.unpublished hnone hlast
  · exact h.published rfl rfl

end Numbered

/-! ### Entries -/

namespace Schedule

variable {s s' : Schedule} {operation : Operation} {answer : Answer}

/-- An operation stores nothing but what it publishes, and that at the end. -/
theorem Effect.stem (h : s.Effect operation answer s') :
    (s'.entries.map Entry.publication).Sublist (s.entries.map Entry.publication ++
      (Step.publication? ⟨s, operation, answer, s'⟩).toList) := by
  obtain ⟨hnone, -, hthins⟩ | ⟨bundle, request, now, trigger, rfl, rfl, -, -, -, rfl⟩ := h.thins
  · rw [hnone, Option.toList_none, List.append_nil]
    exact hthins
  · rw [accept, List.map_append]
    exact (s.drop_thins _).append (List.Sublist.refl _)

theorem Effect.size_le (h : s.Effect operation answer s') (hs : s.size ≤ 2000) :
    s'.size ≤ 2000 := by
  obtain ⟨-, -, hthins⟩ | ⟨bundle, request, now, trigger, rfl, rfl, -, hroom, -, rfl⟩ := h.thins
  · have hlength := hthins.length_le
    rw [List.length_map, List.length_map] at hlength
    exact Nat.le_trans hlength hs
  · rw [size, accept, List.length_append, List.length_singleton]
    exact size_lt_of_checkRoom hroom

end Schedule

/-! ### Runs -/

namespace Run

variable [LocalTime] {steps : List Step} {s : Schedule}

theorem numbered (run : Run {} steps s) : Numbered steps s := by
  induction run with
  | start => exact .start
  | step _ hperform ih => exact ih.step (Schedule.perform_effect hperform)

/-- What is stored was published in that order. -/
theorem stem (run : Run {} steps s) :
    (s.entries.map Entry.publication).Sublist (publications steps) := by
  induction run with
  | start => exact List.Sublist.refl _
  | step _ hperform ih =>
    rw [publications_append]
    exact (Schedule.perform_effect hperform).stem.trans (ih.append (List.Sublist.refl _))

/-- Whatever is stored was published. -/
theorem publication_mem (run : Run {} steps s) {e : Entry} (he : e ∈ s.entries) :
    e.publication ∈ publications steps :=
  run.stem.subset (List.mem_map_of_mem he)

theorem size_le (run : Run {} steps s) : s.size ≤ 2000 := by
  induction run with
  | start => decide
  | step _ hperform ih => exact (Schedule.perform_effect hperform).size_le ih

theorem sound (run : Run {} steps s) : ∀ e ∈ s.entries, e.Sound := by
  induction run with
  | start => exact fun e he => by cases he
  | step _ hperform ih => exact (Schedule.perform_effect hperform).sound ih

/-- What has expired is on screen, as long as the clock was not set. -/
theorem isShowing_of_expired (run : Run {} steps s) (hclock : ClockKept steps) :
    ∀ e ∈ s.entries, e.expired → e.status.isShowing := by
  induction run with
  | start => exact fun e he => by cases he
  | @step steps s s' operation answer run hperform ih =>
    have hover := ih fun step hstep => hclock step (by simp [hstep])
    have hrefresh := hclock ⟨s, operation, answer, s'⟩ (by simp)
    simp only [← Entry.not_isOver_iff] at hover ⊢
    exact (Schedule.perform_effect hperform).not_isOver hrefresh run.sound hover

/-- Every run keeps the schedule in order. -/
theorem upkeep (run : Run {} steps s) : Upkeep steps s where
  id_eq := run.numbered.id_eq
  lastId_eq := run.numbered.lastId_eq
  size_le := run.size_le
  stem := run.stem
  sound := run.sound
  isShowing_of_expired := run.isShowing_of_expired

end Run

/-- The first of two timers with one notification is snoozed.  It rings again after the
second one, which leaves the screen and is dropped. -/
def kitchenMorning : List Operation :=
  [.publish .kitchen .minute .first, .publish { name := "" } .minute .first,
    .fireDue (.sinceFirst 60), .publish .kitchen .minute (.sinceFirst 65),
    .snooze 1 (.sinceFirst 70), .close 2 (.sinceFirst 80), .fireDue (.sinceFirst 400),
    .silence 1, .refresh (.sinceFirst 30), .purge]

attribute [local instance] LocalTime.universal

theorem Run.upkeep_kitchenMorning :
    ∃ steps s, Schedule.performAll {} kitchenMorning = .ok (steps, s) ∧ Run {} steps s ∧
      s.lastId = 2 ∧ s.size = 1 ∧ Upkeep steps s := by
  have hend : (Schedule.performAll {} kitchenMorning).map (fun r => (r.2.lastId, r.2.size)) =
      .ok (2, 1) := by cbv
  obtain ⟨⟨steps, s⟩, hperform, hs⟩ := Except.map_eq_ok.1 hend
  simp only [Prod.mk.injEq] at hs
  have run : Run {} steps s := Run.start.performAll hperform
  exact ⟨steps, s, hperform, run, hs.1, hs.2, run.upkeep⟩

end Reminders
