import Mathlib
import Reminders.Proofs.Namesakes
import Reminders.Proofs.Screen
import Reminders.Proofs.Survival

/-!
# How often a reminder rings

A reminder with an interval rings again by itself a few times, its *budget*, before its
kind finds the next ring and the budget is full again.  A timer has no budget, nor has a
reminder without an interval.  So the rings of a reminder come in rounds of one more than
its budget (`Publication.InRound`).

* Each ring of a round but the last is followed by another one after the interval.
* The last one is followed by the next ring of the kind, with a full budget.  Without such
  a ring the reminder has expired.

This holds along every run from the publication on, whatever other reminders do in between
(`Run.rings_inRounds`).  They may cover the reminder, and it may be silenced.  Only what would
change its rings is left out (`Step.LeavesAlone`).  A reminder whose kind finds no further
ring rings for one round at most.  It rings that often if it is asked to often enough while
it is due.

The invariant behind it is `Entry.InRound`: the snoozes that are left and the rings since the
round began come to the budget.

The rings of a reminder are those of the latest one with its id, up to the one after which it
has expired (`rings`).  An older one with the same id rings on its own.  Where there is none,
as before the counter of ids came round, the rings are just the alerts with the id (`Alone`).
-/

namespace Reminders

/-! ## Rounds -/

/-- How often a reminder rings again by itself before its kind finds the next ring. -/
def ReminderRequest.budget (r : ReminderRequest) : Nat :=
  if r.type ≠ .timer ∧ 0 < r.interval then r.snoozes.toNat else 0

/-- What rings again by itself waits for five minutes at least. -/
theorem ReminderRequest.interval_of_budget {r : ReminderRequest} (h : 0 < r.budget) :
    300 ≤ r.interval := by
  rw [budget] at h
  split at h
  case isTrue hboth =>
    have hpositive := hboth.2
    rw [interval] at hpositive ⊢
    split at hpositive
    case isTrue => exact absurd hpositive (Nat.lt_irrefl 0)
    case isFalse hinterval =>
      rw [if_neg hinterval]
      exact Nat.le_max_left _ _
  case isFalse => exact absurd h (Nat.lt_irrefl 0)

/-- How much of the budget is left. -/
def Entry.budgetLeft (e : Entry) : Nat :=
  if e.request.type ≠ .timer ∧ 0 < e.request.interval then e.snoozesLeft.toNat else 0

/-- Whether an entry of a publication waits for a ring that follows a number of others. -/
structure Entry.InRound (p : Publication) (count : Nat) (e : Entry) : Prop where
  publication_eq : e.publication = p
  live : e.expired = false
  /-- What is left and what was used up since the round began make the budget. -/
  budget_eq : e.budgetLeft + count % (p.request.budget + 1) = p.request.budget

/-- A ring of the reminder that got an id last. -/
structure RingEvent where
  /-- When it rang. -/
  moment : DateTime
  /-- The reminder as it was before. -/
  reminder : Entry
  /-- The step in which it rang. -/
  step : Step

/-- Whether the reminder has expired behind the ring. -/
def RingEvent.isFinal (ring : RingEvent) : Bool := (ring.reminder.rung ring.moment).1.expired

/-- Whether the latest reminder with the id of a publication stems from it, has not expired, and
waits for a ring with a number of snoozes left.  Its owner then finds it. -/
def Schedule.RingsNext (s : Schedule) (p : Publication) (t : DateTime) (left : Nat) : Prop :=
  (∃ e, s.latest? p.id = some e ∧ e.publication = p ∧ e.expired = false ∧ e.trigger = some t ∧
    e.snoozesLeft.toNat = left) ∧ ⟨p.id, p.request⟩ ∈ s.valid p.bundle

/-- Whether a ring leaves its reminder expired, which is the latest one with the id of a
publication. -/
structure RingEvent.Ends (p : Publication) (ring : RingEvent) : Prop where
  /-- It is dropped if it is off the screen.  The older ones with the id moved on their own. -/
  expired : ∃ front e,
    List.Forall₂ (Entry.Fires ring.moment) (ring.step.before.withId p.id).dropLast front ∧
      ring.step.after.withId p.id = (front ++ [e]).filter (fun e => !e.isOver) ∧
      e.publication = p ∧ e.expired
  /-- If its owner still finds the id, then an older one has it. -/
  valid : ∀ r ∈ ring.step.after.valid p.bundle, r.id = p.id →
    ∃ e ∈ (ring.step.before.withId p.id).dropLast, e.expired = false

/-- What a ring of a publication leaves behind that follows a number of others. -/
structure Publication.InRound [LocalTime] (p : Publication) (count : Nat) (ring : RingEvent) :
    Prop where
  /-- The step alerts with the reminder. -/
  alert : ring.reminder.publication = p ∧
    (ring.reminder.shownAt ring.moment).alert ∈ ring.step.alerts
  /-- A ring of the round that is not the last one. -/
  again : count % (p.request.budget + 1) < p.request.budget →
    300 ≤ p.request.interval ∧
      ∃ t, Recurrence.afterSeconds? ring.moment p.request.interval = some t ∧
        ring.step.after.RingsNext p t (p.request.budget - 1 - count % (p.request.budget + 1))
  /-- The last ring of the round. -/
  last : count % (p.request.budget + 1) = p.request.budget →
    (∃ t, p.request.nextTrigger ring.moment = .ok (.ok (some t)) ∧
      ring.step.after.RingsNext p t p.request.snoozes.toNat) ∨
    (p.request.nextTrigger ring.moment = .ok (.ok none) ∧ ring.Ends p)

/-! ### Counting -/

theorem add_one_mod_of_lt {count budget : Nat} (h : count % (budget + 1) < budget) :
    (count + 1) % (budget + 1) = count % (budget + 1) + 1 := by
  rw [Nat.add_mod, Nat.mod_eq_of_lt (a := 1) (by omega)]
  exact Nat.mod_eq_of_lt (by omega)

theorem add_one_mod_of_eq {count budget : Nat} (h : count % (budget + 1) = budget) :
    (count + 1) % (budget + 1) = 0 :=
  Nat.succ_mod_succ_eq_zero_iff.2 h

theorem UInt8.toNat_sub_one {n : UInt8} (h : 0 < n) : (n - 1).toNat = n.toNat - 1 := by
  have hpositive := UInt8.lt_iff_toNat_lt.1 h
  exact UInt8.toNat_sub_of_le _ _ (UInt8.le_iff_toNat_le.2 hpositive)

/-! ### One ring -/

theorem ReminderRequest.nextTrigger_of_timer {r : ReminderRequest} (h : r.type = .timer)
    (now : DateTime) : r.nextTrigger now = .ok (.ok none) := by
  rw [nextTrigger, if_neg fun hrepeats => ReminderKind.type_ne_timer_of_repeats hrepeats h]

namespace Entry

variable {p : Publication} {count : Nat} {now : DateTime} {e e' r : Entry}

theorem budgetLeft_of_hasSnooze (htype : e.request.type ≠ .timer) (h : e.hasSnooze) :
    e.budgetLeft = e.snoozesLeft.toNat ∧ 0 < e.snoozesLeft.toNat :=
  ⟨if_pos ⟨htype, h.1⟩, UInt8.lt_iff_toNat_lt.1 h.2⟩

theorem budgetLeft_of_not_hasSnooze (h : ¬ e.hasSnooze) : e.budgetLeft = 0 := by
  rw [budgetLeft]
  split
  case isTrue hboth =>
    by_contra hne
    exact h ⟨hboth.2, UInt8.lt_iff_toNat_lt.2 (Nat.pos_of_ne_zero hne)⟩
  case isFalse => rfl

/-- What a ring makes of an entry of a publication that follows a number of others. -/
structure Rang (p : Publication) (count : Nat) (now : DateTime) (r : Entry) : Prop where
  publication_eq : r.publication = p
  budget_eq : r.expired = false →
    r.budgetLeft + (count + 1) % (p.request.budget + 1) = p.request.budget
  again : count % (p.request.budget + 1) < p.request.budget →
    ∃ t, Recurrence.afterSeconds? now p.request.interval = some t ∧ r.trigger = some t ∧
      r.expired = false ∧
        r.snoozesLeft.toNat = p.request.budget - 1 - count % (p.request.budget + 1)
  last : count % (p.request.budget + 1) = p.request.budget →
    (∃ t, p.request.nextTrigger now = .ok (.ok (some t)) ∧ r.trigger = some t ∧
      r.expired = false ∧ r.snoozesLeft = p.request.snoozes) ∨
    (p.request.nextTrigger now = .ok (.ok none) ∧ r.expired)

/-- The status does not matter. -/
theorem Rang.offScreen (h : r.Rang p count now) : Rang p count now { r with status := .active } :=
  ⟨h.publication_eq, h.budget_eq, h.again, h.last⟩

/-- A reminder that lives on behind a ring is in its round. -/
theorem Rang.inRound (h : r.Rang p count now) (live : r.expired = false) :
    r.InRound p (count + 1) :=
  ⟨h.publication_eq, live, h.budget_eq live⟩

/-- It expires with the last ring of a round. -/
theorem Rang.eq_of_expired (h : r.Rang p count now) (hexpired : r.expired)
    (hle : count ≤ p.request.budget) : count = p.request.budget := by
  by_contra hne
  have hmod : count % (p.request.budget + 1) = count := Nat.mod_eq_of_lt (by omega)
  obtain ⟨t, -, -, live, -⟩ := h.again (by omega)
  rw [live] at hexpired
  cases hexpired

/-- One that never comes again lives on before that only. -/
theorem Rang.lt_of_live (h : r.Rang p count now) (live : r.expired = false)
    (hnever : ∀ now, p.request.nextTrigger now = .ok (.ok none))
    (hle : count ≤ p.request.budget) : count < p.request.budget := by
  refine Nat.lt_of_le_of_ne hle fun heq => ?_
  have hmod : count % (p.request.budget + 1) = count := Nat.mod_eq_of_lt (by omega)
  obtain ⟨t, ht, -⟩ | ⟨-, hexpired⟩ := h.last (by omega)
  · rw [hnever now] at ht
    cases ht
  · rw [live] at hexpired
    cases hexpired

/-- A timer has no budget, and its only ring is the last one. -/
theorem rang_timer (htimer : e.request.type = .timer) :
    Rang e.publication count now ((e.shownAt now).movedTo none) where
  publication_eq := rfl
  budget_eq := fun hlive => by cases hlive
  again := by
    have hzero : e.publication.request.budget = 0 := if_neg fun hboth => hboth.1 htimer
    rw [hzero]
    exact fun hlt => absurd hlt (Nat.not_lt_zero _)
  last := fun _ => .inr ⟨ReminderRequest.nextTrigger_of_timer htimer now, rfl⟩

/-- A snooze is used up. -/
theorem rang_snooze {t : DateTime} (htype : e.request.type ≠ .timer) (hsnooze : e.hasSnooze)
    (ht : Recurrence.afterSeconds? now e.request.interval = some t)
    (hbudget : e.budgetLeft + count % (e.publication.request.budget + 1) =
      e.publication.request.budget) :
    Rang e.publication count now
      ({ e.shownAt now with snoozesLeft := e.snoozesLeft - 1 }.movedTo (some t)) := by
  obtain ⟨hleft, hpositive⟩ := budgetLeft_of_hasSnooze htype hsnooze
  have hone := UInt8.toNat_sub_one hsnooze.2
  have hlt : count % (e.publication.request.budget + 1) < e.publication.request.budget := by omega
  refine ⟨rfl, fun _ => ?_, fun _ => ⟨t, ht, rfl, rfl, ?_⟩, fun hlast => ?_⟩
  · have hused : budgetLeft ({ e.shownAt now with snoozesLeft := e.snoozesLeft - 1 }.movedTo
        (some t)) = (e.snoozesLeft - 1).toNat := if_pos ⟨htype, hsnooze.1⟩
    rw [hused, add_one_mod_of_lt hlt]
    omega
  · change (e.snoozesLeft - 1).toNat = _
    omega
  · omega

/-- Nothing is left, so the round is over and the budget is full again. -/
theorem rang_renewed {found : Except Error (Option DateTime)}
    (hvalid : e.request.validate = .ok ()) (hsnooze : ¬ e.hasSnooze)
    (hfound : e.request.nextTrigger now = .ok found)
    (hbudget : e.budgetLeft + count % (e.publication.request.budget + 1) =
      e.publication.request.budget) :
    Rang e.publication count now
      ({ e.shownAt now with snoozesLeft := e.request.snoozes }.movedTo found.toOption.join) := by
  have hzero := budgetLeft_of_not_hasSnooze hsnooze
  have hlast : count % (e.publication.request.budget + 1) = e.publication.request.budget := by omega
  refine ⟨rfl, fun _ => ?_, fun hlt => ?_, fun _ => ?_⟩
  · have hfull : budgetLeft ({ e.shownAt now with snoozesLeft := e.request.snoozes }.movedTo
        found.toOption.join) = e.publication.request.budget := rfl
    rw [hfull, add_one_mod_of_eq hlast, Nat.add_zero]
  · omega
  · obtain cause | _ | t := found
    · exact absurd hfound (ReminderRequest.nextTrigger_ne_error hvalid now cause)
    · exact .inr ⟨hfound, rfl⟩
    · exact .inl ⟨t, hfound, rfl, rfl, rfl⟩

/-- A ring is the next of its round, or the first of another. -/
theorem InRound.rung (h : e.InRound p count) (hvalid : p.request.validate = .ok ())
    (hrange : (Recurrence.afterSeconds? now p.request.interval).isSome)
    (hrung : e.rung now = (r, .ok ())) : r.Rang p count now := by
  have hbudget := h.budget_eq
  obtain rfl := h.publication_eq
  obtain ⟨htimer, rfl⟩ | ⟨htype, hsnooze, rfl⟩ | ⟨-, hsnooze, found, hfound, rfl⟩ :=
    rung_cases hrung
  · exact rang_timer htimer
  · obtain ⟨t, ht⟩ := Option.isSome_iff_exists.1 hrange
    have ht' : Recurrence.afterSeconds? now e.request.interval = some t := ht
    rw [ht']
    exact rang_snooze htype hsnooze ht' hbudget
  · exact rang_renewed hvalid hsnooze hfound hbudget

/-- A batch lets a due entry ring, and may then take it off the screen. -/
theorem InRound.fires (h : e.InRound p count) (hvalid : p.request.validate = .ok ())
    (hrange : (Recurrence.afterSeconds? now p.request.interval).isSome) (hdue : e.isDue now)
    (hfires : e.Fires now e') : e'.Rang p count now := by
  cases hfires with
  | kept hahead => exact absurd hdue hahead
  | covered hahead => exact absurd hdue hahead
  | rang _ hrung => exact h.rung hvalid hrange hrung
  | hidden _ hrung => exact (h.rung hvalid hrange hrung).offScreen

/-- An entry that does not ring stays in its round. -/
theorem InRound.of_not_due (h : e.InRound p count) (hdue : ¬ e.isDue now)
    (hfires : e.Fires now e') : e'.InRound p count := by
  cases hfires with
  | kept => exact h
  | covered => exact ⟨h.publication_eq, h.live, h.budget_eq⟩
  | rang hdue' => exact absurd hdue' hdue
  | hidden hdue' => exact absurd hdue' hdue

theorem InRound.rests (h : e.InRound p count) (hrests : e.Rests e') : e'.InRound p count := by
  cases hrests with
  | same => exact h
  | silenced => exact ⟨h.publication_eq, h.live, h.budget_eq⟩

theorem Fires.expired_of_not_due (hdue : ¬ e.isDue now) (hfires : e.Fires now e') :
    e'.expired = e.expired := by
  cases hfires with
  | kept => rfl
  | covered => rfl
  | rang hdue' => exact absurd hdue' hdue
  | hidden hdue' => exact absurd hdue' hdue

/-- What is due expires as its own ring says, covered or not. -/
theorem Fires.expired_of_due (hdue : e.isDue now) (hfires : e.Fires now e') :
    e'.expired = (e.rung now).1.expired := by
  cases hfires with
  | kept hahead => exact absurd hdue hahead
  | covered hahead => exact absurd hdue hahead
  | rang _ hrung => rw [hrung]
  | hidden _ hrung => rw [hrung]

/-- What has not expired behind a batch had not expired before. -/
theorem Fires.live (hfires : e.Fires now e') (live : e'.expired = false) : e.expired = false := by
  by_cases hdue : e.isDue now
  case pos => exact live_of_isDue hdue
  case neg => rw [← hfires.expired_of_not_due hdue, live]

end Entry

/-! ### One batch -/

namespace Schedule

variable {s s' : Schedule} {p : Publication} {count : Nat} {now : DateTime} {alerts : List Alert}
  {e e' : Entry}

theorem ringsNext_of_latest? {t : DateTime} (h : s.latest? p.id = some e)
    (hpublication : e.publication = p) (live : e.expired = false) (ht : e.trigger = some t) :
    s.RingsNext p t e.snoozesLeft.toNat := by
  refine ⟨⟨e, h, hpublication, live, ht, rfl⟩,
    mem_valid.2 ⟨e, (mem_of_latest? h).1, live, ?_, ?_⟩⟩
  · rw [← hpublication, Entry.isOwnedBy]
    exact beq_self_eq_true _
  · rw [← hpublication]
    rfl

/-- What a batch makes of the reminders with an id, the latest one and those before it. -/
theorem fireDue_latest? [LocalTime] (hfire : s.fireDue now = (s', .ok alerts)) {id : Int32}
    (he : s.latest? id = some e) :
    ∃ front e', List.Forall₂ (Entry.Fires now) (s.withId id).dropLast front ∧ e.Fires now e' ∧
      s'.withId id = (front ++ [e']).filter fun e => !e.isOver := by
  obtain ⟨moved, hmoved, hs'⟩ := (fireDue_moved hfire).withId
    (fun _ _ hfires => congrArg Publication.id hfires.publication) id
  rw [← List.dropLast_append_getLast? e he] at hmoved
  obtain ⟨front, e', rfl, hfront, hfires⟩ := forall₂_concat_left hmoved
  exact ⟨front, e', hfront, hfires, hs'⟩

/-- A reminder that lives on stays the latest one behind a purge. -/
theorem latest?_of_withId {front : List Entry} {id : Int32}
    (h : s.withId id = (front ++ [e]).filter fun e => !e.isOver) (live : e.expired = false) :
    s.latest? id = some e := by
  rw [latest?, h, List.filter_append, List.filter_singleton, Entry.not_isOver_of_live live]
  exact List.getLast?_concat

theorem latest?_accept (s : Schedule) {bundle : Bundle} {request : ReminderRequest}
    {trigger : DateTime} :
    (s.accept bundle request trigger).latest? (idAfter s.lastId) =
      some ⟨idAfter s.lastId, bundle, request, some trigger, .active, false, request.snoozes,
        none⟩ := by
  rw [latest?, withId, accept, List.filter_append, List.filter_singleton, beq_self_eq_true]
  exact List.getLast?_concat

theorem alert_mem [LocalTime] (hfire : s.fireDue now = (s', .ok alerts)) (he : e ∈ s.entries)
    (hdue : e.isDue now) : (e.shownAt now).alert ∈ alerts := by
  obtain ⟨-, rfl, -⟩ := fireDue_eq hfire
  have hmem : e ∈ (s.ringing now).map (·.1) :=
    (s.ringing_perm now).mem_iff.2 (List.mem_filter.2 ⟨he, hdue⟩)
  obtain ⟨r, hr, rfl⟩ := List.mem_map.1 hmem
  exact List.mem_map_of_mem hr

end Schedule

/-- What a batch leaves behind once a reminder has rung in it. -/
theorem Publication.inRound_of_rang [LocalTime] {s s' : Schedule} {p : Publication} {count : Nat}
    {now : DateTime} {alerts : List Alert} {e e' : Entry} {front : List Entry}
    (hfire : s.fireDue now = (s', .ok alerts)) (he : s.latest? p.id = some e)
    (hpublication : e.publication = p) (hdue : e.isDue now)
    (hfront : List.Forall₂ (Entry.Fires now) (s.withId p.id).dropLast front)
    (hs' : s'.withId p.id = (front ++ [e']).filter fun e => !e.isOver)
    (h : e'.Rang p count now) : p.InRound count ⟨now, e, s, .fireDue now, .rang alerts, s'⟩ := by
  have hnext : ∀ t, e'.trigger = some t → e'.expired = false →
      s'.RingsNext p t e'.snoozesLeft.toNat := fun t ht live =>
    Schedule.ringsNext_of_latest? (Schedule.latest?_of_withId hs' live) h.publication_eq live ht
  refine ⟨⟨hpublication, Schedule.alert_mem hfire (Schedule.mem_of_latest? he).1 hdue⟩,
    fun hlt => ?_, fun hlast => ?_⟩
  · obtain ⟨t, ht, htrigger, live, hleft⟩ := h.again hlt
    exact ⟨ReminderRequest.interval_of_budget (Nat.zero_lt_of_lt hlt), t, ht,
      hleft ▸ hnext t htrigger live⟩
  · obtain ⟨t, ht, htrigger, live, hleft⟩ | ⟨hnone, hexpired⟩ := h.last hlast
    · exact .inl ⟨t, ht, hleft ▸ hnext t htrigger live⟩
    · refine .inr ⟨hnone, ⟨front, e', hfront, hs', h.publication_eq, hexpired⟩, ?_⟩
      intro r hr hid
      obtain ⟨x, hx, live, -, rfl⟩ := Schedule.mem_valid.1 hr
      have hmem : x ∈ s'.withId p.id := Schedule.mem_withId.2 ⟨hx, hid⟩
      rw [hs', List.mem_filter, List.mem_append, List.mem_singleton] at hmem
      obtain hmem | rfl := hmem.1
      · obtain ⟨place, hlt, rfl⟩ := List.getElem_of_mem hmem
        have hplace : place < (s.withId p.id).dropLast.length := hfront.length_eq ▸ hlt
        exact ⟨_, List.getElem_mem hplace, (hfront.get hplace hlt).live live⟩
      · rw [live] at hexpired
        cases hexpired

/-! ## Along a run -/

/-- The ring of the latest reminder with an id in a step. -/
def Step.ring? (id : Int32) (step : Step) : Option RingEvent :=
  match step.operation, step.before.latest? id with
  | .fireDue now, some e => if e.isDue now then some ⟨now, e, step⟩ else none
  | _, _ => none

/-- A step lets an id ring if it is a batch and the latest reminder of the id is due. -/
theorem Step.ring?_eq_some {id : Int32} {step : Step} {ring : RingEvent} :
    step.ring? id = some ring ↔ ∃ now e, step.operation = .fireDue now ∧
      step.before.latest? id = some e ∧ e.isDue now ∧ ring = ⟨now, e, step⟩ := by
  rw [Step.ring?]
  split
  case h_1 now e hoperation he =>
    rw [Option.ite_none_right_eq_some]
    constructor
    · rintro ⟨hdue, hring⟩
      cases hring
      exact ⟨now, e, hoperation, he, hdue, rfl⟩
    · rintro ⟨now', e', hoperation', he', hdue, rfl⟩
      rw [hoperation] at hoperation'
      rw [he] at he'
      cases hoperation'
      cases he'
      exact ⟨hdue, rfl⟩
  case h_2 hno =>
    refine iff_of_false (by simp) ?_
    rintro ⟨now, e, hoperation, he, -⟩
    exact hno now e hoperation he

theorem Step.ring?_eq_none {id : Int32} {step : Step} (h : ∀ now, step.operation ≠ .fireDue now) :
    step.ring? id = none := by
  refine Option.eq_none_iff_forall_ne_some.2 fun ring hring => ?_
  obtain ⟨now, -, hoperation, -⟩ := Step.ring?_eq_some.1 hring
  exact h now hoperation

/-- Rings up to the first one that is final. -/
def RingEvent.upToFinal : List RingEvent → List RingEvent
  | [] => []
  | ring :: rest => if ring.isFinal then [ring] else ring :: upToFinal rest

/-- The rings of the reminder that got an id last in a run, the first one first. -/
def rings (id : Int32) (steps : List Step) : List RingEvent :=
  RingEvent.upToFinal (steps.filterMap (Step.ring? id))

/-- Whether a step asks the latest reminder with an id to ring while it is due, or once it will
not ring any more. -/
def Step.asks (id : Int32) (step : Step) : Bool :=
  match step.operation with
  | .fireDue now => (step.before.latest? id).all fun e => e.expired || e.isDue now
  | _ => false

/-- Behind the final ring none counts. -/
theorem RingEvent.upToFinal_append_of_final {front : List RingEvent}
    (h : ∃ ring ∈ front, ring.isFinal) (rest : List RingEvent) :
    upToFinal (front ++ rest) = upToFinal front := by
  induction front with
  | nil => simp at h
  | cons ring front ih =>
    rw [List.cons_append, upToFinal, upToFinal]
    split
    case isTrue => rfl
    case isFalse hlives =>
      obtain ⟨final, hmem, hfinal⟩ := h
      obtain rfl | hmem := List.mem_cons.1 hmem
      · exact absurd hfinal hlives
      · rw [ih ⟨final, hmem, hfinal⟩]

theorem RingEvent.upToFinal_append_of_not {front : List RingEvent}
    (h : ∀ ring ∈ front, ¬ ring.isFinal) (rest : List RingEvent) :
    upToFinal (front ++ rest) = front ++ upToFinal rest := by
  induction front with
  | nil => rfl
  | cons ring front ih =>
    rw [List.cons_append, upToFinal, if_neg (h ring (by simp)),
      ih fun x hx => h x (by simp [hx]), List.cons_append]

/-- Behind a final ring there is no further one. -/
theorem rings_concat_of_final {id : Int32} {steps : List Step}
    (h : ∃ ring ∈ steps.filterMap (Step.ring? id), ring.isFinal) (step : Step) :
    rings id (steps ++ [step]) = rings id steps := by
  rw [rings, List.filterMap_append, RingEvent.upToFinal_append_of_final h, rings]

/-- As long as no ring was the final one, a step adds its own. -/
theorem rings_concat_of_not {id : Int32} {steps : List Step}
    (h : ∀ ring ∈ steps.filterMap (Step.ring? id), ¬ ring.isFinal) (step : Step) :
    rings id (steps ++ [step]) = rings id steps ++ (step.ring? id).toList := by
  have hsteps := RingEvent.upToFinal_append_of_not h []
  have hstep : RingEvent.upToFinal ([step].filterMap (Step.ring? id)) = (step.ring? id).toList := by
    rw [List.filterMap_cons]
    cases step.ring? id with
    | none => rfl
    | some ring => simp [RingEvent.upToFinal]
  rw [List.append_nil, RingEvent.upToFinal, List.append_nil] at hsteps
  rw [rings, List.filterMap_append, RingEvent.upToFinal_append_of_not h, hstep, rings, hsteps]

theorem mem_rings_concat {id : Int32} {steps : List Step} {ring : RingEvent}
    (h : ring ∈ rings id steps) (step : Step) : ring ∈ rings id (steps ++ [step]) := by
  by_cases hfinal : ∃ ring ∈ steps.filterMap (Step.ring? id), ring.isFinal
  case pos =>
    rw [rings_concat_of_final hfinal]
    exact h
  case neg =>
    rw [rings_concat_of_not fun ring hring hring' => hfinal ⟨ring, hring, hring'⟩]
    exact List.mem_append_left _ h

/-- Whether a reminder may still ring behind a run. -/
structure Waits (p : Publication) (steps : List Step) (s : Schedule) : Prop where
  latest : ∃ e, s.latest? p.id = some e ∧ e.InRound p (rings p.id steps).length
  not_isFinal : ∀ ring ∈ steps.filterMap (Step.ring? p.id), ¬ ring.isFinal
  /-- Without a further ring by its kind, it rang whenever it was asked to. -/
  length : (∀ now, p.request.nextTrigger now = .ok (.ok none)) →
    (rings p.id steps).length = steps.countP (Step.asks p.id) ∧
      (rings p.id steps).length ≤ p.request.budget

/-- Whether a reminder had its final ring in a run. -/
structure HasEnded (p : Publication) (steps : List Step) : Prop where
  isFinal : ∃ ring ∈ steps.filterMap (Step.ring? p.id), ring.isFinal
  /-- Without a further ring by its kind, that was the end of the first round. -/
  length : (∀ now, p.request.nextTrigger now = .ok (.ok none)) →
    (rings p.id steps).length = p.request.budget + 1 ∧
      p.request.budget + 1 ≤ steps.countP (Step.asks p.id)

/-- What a run amounts to for the reminder of a publication. -/
structure Tally [LocalTime] (p : Publication) (steps : List Step) (s : Schedule) : Prop where
  inRound : ∀ n ring, (rings p.id steps)[n]? = some ring → p.InRound n ring
  waits_or_hasEnded : Waits p steps s ∨ HasEnded p steps

namespace Tally

variable [LocalTime] {p : Publication} {steps : List Step} {s s' : Schedule} {operation : Operation}
  {answer : Answer} {now : DateTime} {alerts : List Alert} {e e' : Entry}

/-- Behind its final ring, nothing matters to a reminder. -/
theorem ended {step : Step} (h : Tally p steps s) (hended : HasEnded p steps) :
    Tally p (steps ++ [step]) s' := by
  have hrings := rings_concat_of_final hended.isFinal step
  refine ⟨hrings ▸ h.inRound, .inr ⟨?_, fun hnever => ?_⟩⟩
  · obtain ⟨ring, hring, hfinal⟩ := hended.isFinal
    exact ⟨ring, by simp [hring], hfinal⟩
  · obtain ⟨hlength, hle⟩ := hended.length hnever
    rw [hrings, List.countP_append]
    exact ⟨hlength, Nat.le_add_right_of_le hle⟩

/-- A reminder that waits does not ring in a step, and is not asked to. -/
theorem quiet {step : Step} (h : Tally p steps s) (hwaits : Waits p steps s)
    (hnone : step.ring? p.id = none) (hasks : step.asks p.id = false)
    (he' : s'.latest? p.id = some e') (hround : e'.InRound p (rings p.id steps).length) :
    Tally p (steps ++ [step]) s' := by
  have hrings := rings_concat_of_not hwaits.not_isFinal step
  rw [hnone, Option.toList_none, List.append_nil] at hrings
  refine ⟨hrings ▸ h.inRound, .inl ⟨⟨e', he', hrings ▸ hround⟩, ?_, fun hnever => ?_⟩⟩
  · rw [List.filterMap_append, List.filterMap_cons, hnone, List.filterMap_nil, List.append_nil]
    exact hwaits.not_isFinal
  · rw [hrings, List.countP_append, List.countP_singleton, hasks, if_neg (by decide)]
    exact hwaits.length hnever

/-- A reminder that waits rings in a step, when it was asked to. -/
theorem rang {step : Step} (h : Tally p steps s) (hwaits : Waits p steps s)
    (hone : step.ring? p.id = some ⟨now, e, step⟩) (hasks : step.asks p.id = true)
    (hring : p.InRound (rings p.id steps).length ⟨now, e, step⟩)
    (hrang : e'.Rang p (rings p.id steps).length now)
    (hfinal : RingEvent.isFinal ⟨now, e, step⟩ = e'.expired)
    (he' : e'.expired = false → s'.latest? p.id = some e') : Tally p (steps ++ [step]) s' := by
  have hrings := rings_concat_of_not hwaits.not_isFinal step
  have hall : (steps ++ [step]).filterMap (Step.ring? p.id) =
      steps.filterMap (Step.ring? p.id) ++ [⟨now, e, step⟩] := by
    rw [List.filterMap_append, List.filterMap_cons, hone, List.filterMap_nil]
  have hlength : (rings p.id (steps ++ [step])).length = (rings p.id steps).length + 1 := by
    rw [hrings, hone, List.length_append, Option.toList_some, List.length_singleton]
  refine ⟨fun n ring hn => ?_, ?_⟩
  · rw [hrings, hone, Option.toList_some] at hn
    rcases Nat.lt_trichotomy n (rings p.id steps).length with hlt | rfl | hgt
    · rw [List.getElem?_append_left hlt] at hn
      exact h.inRound n ring hn
    · rw [List.getElem?_concat_length] at hn
      cases hn
      exact hring
    · rw [List.getElem?_eq_none (by simp; omega)] at hn
      cases hn
  · cases hexpired : e'.expired with
    | false =>
      refine .inl ⟨⟨e', he' hexpired, hlength ▸ hrang.inRound hexpired⟩, ?_, fun hnever => ?_⟩
      · rw [hall]
        intro ring hmem
        obtain hmem | hmem := List.mem_append.1 hmem
        · exact hwaits.not_isFinal ring hmem
        · rw [List.mem_singleton.1 hmem, hfinal, hexpired]
          decide
      · obtain ⟨htally, hle⟩ := hwaits.length hnever
        have hlt := hrang.lt_of_live hexpired hnever hle
        rw [hlength, List.countP_append, List.countP_singleton, hasks, if_pos rfl, htally]
        omega
    | true =>
      refine .inr ⟨⟨⟨now, e, step⟩, by rw [hall]; simp, by rw [hfinal, hexpired]⟩,
        fun hnever => ?_⟩
      obtain ⟨htally, hle⟩ := hwaits.length hnever
      have heq := hrang.eq_of_expired hexpired hle
      rw [hlength, List.countP_append, List.countP_singleton, hasks, if_pos rfl]
      omega

theorem step (h : Tally p steps s) (hvalid : p.request.validate = .ok ())
    (hperform : s.perform operation = .ok (s', answer))
    (halone : Step.LeavesAlone p.id ⟨s, operation, answer, s'⟩)
    (hrange : ∀ ring ∈ rings p.id (steps ++ [⟨s, operation, answer, s'⟩]),
      (Recurrence.afterSeconds? ring.moment p.request.interval).isSome) :
    Tally p (steps ++ [⟨s, operation, answer, s'⟩]) s' := by
  obtain hwaits | hended := h.waits_or_hasEnded
  case inr => exact h.ended hended
  case inl =>
    obtain ⟨e, he, hround⟩ := hwaits.latest
    by_cases hfire : ∃ now, operation = .fireDue now
    case pos =>
      obtain ⟨now, rfl⟩ := hfire
      obtain ⟨alerts, hfire, rfl⟩ := Attempt.settle_eq_ok.1 hperform
      obtain ⟨front, e', hfront, hfires, hs'⟩ := Schedule.fireDue_latest? hfire he
      by_cases hdue : e.isDue now
      case pos =>
        have hone : Step.ring? p.id ⟨s, .fireDue now, .rang alerts, s'⟩ =
            some ⟨now, e, s, .fireDue now, .rang alerts, s'⟩ := by simp [Step.ring?, he, hdue]
        have hsome := hrange _ (by
          rw [rings_concat_of_not hwaits.not_isFinal, hone]
          exact List.mem_append_right _ (List.mem_singleton_self _))
        have hrang := hround.fires hvalid hsome hdue hfires
        have hring := Publication.inRound_of_rang hfire he hround.publication_eq hdue hfront hs' hrang
        exact h.rang hwaits hone (by simp [Step.asks, he, hdue]) hring hrang
          (hfires.expired_of_due hdue).symm (Schedule.latest?_of_withId hs')
      case neg =>
        have hround' := hround.of_not_due hdue hfires
        exact h.quiet hwaits (by simp [Step.ring?, he, hdue])
          (by simp [Step.asks, he, hdue, hround.live])
          (Schedule.latest?_of_withId hs' hround'.live) hround'
    case neg =>
      have hquiet : ∀ now, operation ≠ .fireDue now := fun now heq => hfire ⟨now, heq⟩
      obtain ⟨e', hrests, he'⟩ :=
        ((Schedule.perform_effect hperform).rests halone hquiet).latest? he
      have hround' := hround.rests hrests
      refine h.quiet hwaits (Step.ring?_eq_none hquiet) ?_ (he' hround'.live) hround'
      cases operation <;> first | rfl | exact absurd rfl (hquiet _)

/-- A publication is the beginning of the first round. -/
theorem start {bundle : Bundle} {request : ReminderRequest} {id : Int32}
    (h : s.publish bundle request now = (s', .ok (.ok id))) : Tally ⟨id, bundle, request⟩ [] s' := by
  cases Schedule.publish_effect h with
  | @published _ _ _ trigger =>
    refine ⟨fun n ring hn => (by cases hn), .inl ⟨⟨_, s.purge.1.latest?_accept, ?_⟩, ?_, ?_⟩⟩
    · exact ⟨rfl, rfl, Nat.zero_mod _ ▸ Nat.add_zero _⟩
    · exact fun ring hring => (by cases hring)
    · exact fun _ => ⟨rfl, Nat.zero_le _⟩

end Tally

/-- A run that leaves a reminder alone keeps the tally of its rings. -/
theorem Run.tally [LocalTime] {s s' : Schedule} {p : Publication} {steps : List Step}
    (hstart : Tally p [] s) (hvalid : p.request.validate = .ok ()) (run : Run s steps s')
    (halone : ∀ step ∈ steps, step.LeavesAlone p.id)
    (hrange : ∀ ring ∈ rings p.id steps,
      (Recurrence.afterSeconds? ring.moment p.request.interval).isSome) : Tally p steps s' := by
  induction run with
  | start => exact hstart
  | step _ hperform ih =>
    have htally := ih (fun step hstep => halone step (List.mem_append_left _ hstep))
      fun ring hring => hrange ring (mem_rings_concat hring _)
    exact htally.step hvalid hperform (halone _ (by simp)) hrange

/-! ## The only reminder with an id -/

/-- The steps of a run that alerted with an id, each as often as it did. -/
def alertSteps (id : Int32) (steps : List Step) : List Step :=
  steps.flatMap fun step => (step.alerts.filter fun a => a.id == id).map fun _ => step

/-- Whether at any time of a run at most one reminder has an id.  It rings when there is an
alert with the id. -/
structure Alone (id : Int32) (steps : List Step) (s : Schedule) : Prop where
  atMostOne : (s.withId id).length ≤ 1
  before : ∀ step ∈ steps, (step.before.withId id).length ≤ 1
  alertSteps_eq : alertSteps id steps = (rings id steps).map RingEvent.step
  expired : (∃ ring ∈ steps.filterMap (Step.ring? id), ring.isFinal) →
    ∀ e ∈ s.withId id, e.expired

namespace Alone

variable {id : Int32} {steps : List Step} {s s' : Schedule} {operation : Operation}
  {answer : Answer} {now : DateTime}

theorem withId_eq (h : (s.withId id).length ≤ 1) : s.withId id = (s.latest? id).toList := by
  rw [Schedule.latest?]
  rcases hlist : s.withId id with _ | ⟨e, _ | ⟨_, _⟩⟩
  · rfl
  · rfl
  · simp [hlist] at h

/-- The reminders with an id that are due give the alerts with it. -/
theorem length_alerts_withId [LocalTime] {alerts : List Alert}
    (h : s.fireDue now = (s', .ok alerts)) (id : Int32) :
    (alerts.filter fun a => a.id == id).length =
      ((s.withId id).filter fun e => e.isDue now).length := by
  obtain ⟨-, rfl, -⟩ := Schedule.fireDue_eq h
  have hperm := (s.ringing_perm now).filter fun e => e.id == id
  rw [Schedule.withId, List.filter_comm, ← hperm.length_eq, List.filter_map, List.filter_map,
    List.length_map, List.length_map]
  rfl

/-- The only reminder with an id rings in a step if that alerts with the id. -/
theorem alertSteps_singleton [LocalTime] (hone : (s.withId id).length ≤ 1)
    (hperform : s.perform operation = .ok (s', answer)) :
    alertSteps id [⟨s, operation, answer, s'⟩] =
      (Step.ring? id ⟨s, operation, answer, s'⟩).toList.map RingEvent.step := by
  rw [alertSteps, List.flatMap_singleton, List.map_const']
  by_cases hfire : ∃ now, operation = .fireDue now
  case pos =>
    obtain ⟨now, rfl⟩ := hfire
    obtain ⟨alerts, hfire, rfl⟩ := Attempt.settle_eq_ok.1 hperform
    have hlength := length_alerts_withId hfire id
    rw [withId_eq hone] at hlength
    rw [Step.alerts, hlength, Step.ring?]
    cases s.latest? id with
    | none => rfl
    | some e => by_cases hdue : e.isDue now <;> simp [hdue]
  case neg =>
    have hquiet : ∀ now, operation ≠ .fireDue now := fun now heq => hfire ⟨now, heq⟩
    rw [Step.alerts_eq_nil hquiet, Step.ring?_eq_none hquiet]
    rfl

/-- Behind a final ring, no reminder with the id is left that has not expired. -/
theorem expired_of_isFinal [LocalTime] (hone : (s.withId id).length ≤ 1)
    (hperform : s.perform operation = .ok (s', answer)) {ring : RingEvent}
    (hring : Step.ring? id ⟨s, operation, answer, s'⟩ = some ring) (hfinal : ring.isFinal) :
    ∀ e ∈ s'.withId id, e.expired := by
  obtain ⟨now, e, rfl, he, hdue, rfl⟩ := Step.ring?_eq_some.1 hring
  obtain ⟨alerts, hfire, rfl⟩ := Attempt.settle_eq_ok.1 hperform
  intro e' he'
  obtain ⟨x, hx, hfires⟩ := (Schedule.fireDue_passes hfire id).mem he'
  have hlatest : s.latest? id = some e := he
  rw [withId_eq hone, hlatest, Option.toList_some, List.mem_singleton] at hx
  subst hx
  rw [hfires.expired_of_due hdue]
  exact hfinal

/-- What a step that leaves the reminders with an id alone makes of them.  What has expired
stays so. -/
theorem passes [LocalTime] (hperform : s.perform operation = .ok (s', answer))
    (halone : Step.LeavesAlone id ⟨s, operation, answer, s'⟩) :
    s.Passes id (fun e e' => e'.expired = false → e.expired = false) s' := by
  by_cases hfire : ∃ now, operation = .fireDue now
  case pos =>
    obtain ⟨now, rfl⟩ := hfire
    obtain ⟨alerts, hfire, rfl⟩ := Attempt.settle_eq_ok.1 hperform
    exact (Schedule.fireDue_passes hfire id).imp fun _ _ => Entry.Fires.live
  case neg =>
    have hrests := (Schedule.perform_effect hperform).rests halone fun now heq => hfire ⟨now, heq⟩
    exact hrests.imp fun _ _ h live => h.expired_eq ▸ live

theorem step [LocalTime] (h : Alone id steps s) (hperform : s.perform operation = .ok (s', answer))
    (halone : Step.LeavesAlone id ⟨s, operation, answer, s'⟩) :
    Alone id (steps ++ [⟨s, operation, answer, s'⟩]) s' := by
  have hpasses := passes hperform halone
  have halerts : alertSteps id (steps ++ [⟨s, operation, answer, s'⟩]) =
      (rings id steps).map RingEvent.step ++
        (Step.ring? id ⟨s, operation, answer, s'⟩).toList.map RingEvent.step := by
    rw [← alertSteps_singleton h.atMostOne hperform, ← h.alertSteps_eq]
    exact List.flatMap_append
  have hbefore : ∀ step ∈ steps ++ [⟨s, operation, answer, s'⟩],
      (step.before.withId id).length ≤ 1 := by
    intro step hstep
    obtain hstep | hstep := List.mem_append.1 hstep
    · exact h.before step hstep
    · rw [List.mem_singleton.1 hstep]
      exact h.atMostOne
  refine ⟨Nat.le_trans hpasses.length_le h.atMostOne, hbefore, ?_, ?_⟩
  · by_cases hfinal : ∃ ring ∈ steps.filterMap (Step.ring? id), ring.isFinal
    case pos =>
      -- What has expired is not due, so it does not ring.
      have hnone : Step.ring? id ⟨s, operation, answer, s'⟩ = none := by
        refine Option.eq_none_iff_forall_ne_some.2 fun ring hring => ?_
        obtain ⟨now, e, -, he, hdue, -⟩ := Step.ring?_eq_some.1 hring
        have hexpired := h.expired hfinal e (Schedule.mem_withId.2 (Schedule.mem_of_latest? he))
        rw [Entry.live_of_isDue hdue] at hexpired
        cases hexpired
      rw [halerts, hnone, rings_concat_of_final hfinal]
      exact List.append_nil _
    case neg =>
      rw [halerts, rings_concat_of_not fun ring hring hring' => hfinal ⟨ring, hring, hring'⟩,
        List.map_append]
  · rintro ⟨ring, hring, hfinal⟩
    rw [List.filterMap_append, List.mem_append] at hring
    obtain hring | hring := hring
    · intro e' he'
      obtain ⟨e, he, hlive⟩ := hpasses.mem he'
      have hexpired := h.expired ⟨ring, hring, hfinal⟩ e he
      by_contra hlive'
      rw [hlive (by simpa using hlive')] at hexpired
      cases hexpired
    · simp only [List.mem_filterMap, List.mem_singleton, exists_eq_left] at hring
      exact expired_of_isFinal h.atMostOne hperform hring hfinal

/-- An id that was given away is that of one reminder, if no other one had it. -/
theorem start {bundle : Bundle} {request : ReminderRequest}
    (h : s.publish bundle request now = (s', .ok (.ok id)))
    (hfresh : ∀ e ∈ s.purge.1.entries, e.id ≠ id) : Alone id [] s' := by
  have hone : (s'.withId id).length ≤ 1 := by
    cases Schedule.publish_effect h with
    | published =>
      have hnone : s.purge.1.entries.filter (fun e => e.id == Schedule.idAfter s.lastId) = [] :=
        List.filter_eq_nil_iff.2 fun e he => by simpa using hfresh e he
      rw [Schedule.withId, Schedule.accept, List.filter_append, hnone, List.nil_append]
      exact List.length_filter_le _ _
  exact ⟨hone, by simp, rfl, by simp⟩

end Alone

/-- No two reminders get an id in a run that leaves the reminders with it alone. -/
theorem Run.alone [LocalTime] {s s' : Schedule} {id : Int32} {steps : List Step}
    (hstart : Alone id [] s) (run : Run s steps s')
    (halone : ∀ step ∈ steps, step.LeavesAlone id) : Alone id steps s' := by
  induction run with
  | start => exact hstart
  | step _ hperform ih =>
    exact (ih fun step hstep => halone step (List.mem_append_left _ hstep)).step hperform
      (halone _ (by simp))

/-! ## The rings of a reminder -/

/-- A reminder rings in rounds from its publication on, as long as what follows leaves it alone
and a snooze is never past the last date.  Without a further ring by its kind, it rings as often
as it is asked to while it may, but for one round at most.  If no other reminder had its id, then
none gets it, and its rings are the alerts with the id. -/
theorem Run.rings_inRounds [LocalTime] {s s₀ s' : Schedule} {bundle : Bundle}
    {request : ReminderRequest} {moment : DateTime} {id : Int32} {steps : List Step}
    (hpublish : s.publish bundle request moment = (s₀, .ok (.ok id))) (run : Run s₀ steps s')
    (halone : ∀ step ∈ steps, step.LeavesAlone id)
    (hrange : ∀ ring ∈ rings id steps,
      (Recurrence.afterSeconds? ring.moment request.interval).isSome) :
    (∀ n ring, (rings id steps)[n]? = some ring →
      Publication.InRound ⟨id, bundle, request⟩ n ring) ∧
    ((∀ now, request.nextTrigger now = .ok (.ok none)) →
      (rings id steps).length = min (request.budget + 1) (steps.countP (Step.asks id))) ∧
    ((∀ e ∈ s.purge.1.entries, e.id ≠ id) →
      (∀ step ∈ steps, (step.before.withId id).length ≤ 1) ∧
        alertSteps id steps = (rings id steps).map RingEvent.step) := by
  have hvalid : request.validate = .ok () := by
    cases Schedule.publish_effect hpublish with
    | published hrequest => exact (checkRequest_eq_ok.1 hrequest).2
  have htally := run.tally (Tally.start hpublish) hvalid halone hrange
  refine ⟨htally.inRound, fun hnever => ?_, fun hfresh => ?_⟩
  · obtain hwaits | hended := htally.waits_or_hasEnded
    · obtain ⟨hlength, hle⟩ := hwaits.length hnever
      rw [← hlength]
      exact (Nat.min_eq_right (Nat.le_succ_of_le hle)).symm
    · obtain ⟨hlength, hle⟩ := hended.length hnever
      rw [hlength]
      exact (Nat.min_eq_left hle).symm
  · have halone' := run.alone (Alone.start hpublish hfresh) halone
    exact ⟨halone'.before, halone'.alertSteps_eq⟩

/-- A request to ring at one minute past midnight, and once more five minutes later. -/
def ReminderRequest.twiceAfterMidnight : ReminderRequest where
  kind := .alarm 0 1 []
  timeInterval := 300
  snoozeTimes := 1
  notificationId := 7

/-- An alarm leaves the screen to a timer between its two rings, and then is asked once more. -/
def kitchenNight : List Operation :=
  [.fireDue (.sinceFirst 60), .publish .kitchen .minute (.sinceFirst 60), .silence 1,
    .fireDue (.sinceFirst 120), .fireDue (.sinceFirst 360), .fireDue (.sinceFirst 720)]

attribute [local instance] LocalTime.universal

theorem Run.rings_inRounds_kitchenNight :
    ∃ s₀ steps s', Schedule.publish {} .kitchen .twiceAfterMidnight .first = (s₀, .ok (.ok 1)) ∧
      Run s₀ steps s' ∧ steps.map Step.operation = kitchenNight ∧
      (rings 1 steps).map RingEvent.moment = [.sinceFirst 60, .sinceFirst 360] ∧
      (rings 1 steps).length = 2 ∧ alertSteps 1 steps = (rings 1 steps).map RingEvent.step ∧
      ∀ n ring, (rings 1 steps)[n]? = some ring →
        Publication.InRound ⟨1, .kitchen, .twiceAfterMidnight⟩ n ring := by
  have hpublish : (Schedule.publish {} .kitchen .twiceAfterMidnight .first).2 = .ok (.ok 1) := by
    cbv
  have hend : ((Schedule.publish {} .kitchen .twiceAfterMidnight .first).1.performAll
      kitchenNight).map (fun r => (r.1.map Step.operation,
        r.1.map (fun step => step.publication?.map Publication.id),
        (rings 1 r.1).map RingEvent.moment, r.1.countP (Step.asks 1))) =
      .ok (kitchenNight, [none, some 2, none, none, none, none],
        [.sinceFirst 60, .sinceFirst 360], 3) := by cbv
  obtain ⟨⟨steps, s'⟩, hperform, hs⟩ := Except.map_eq_ok.1 hend
  simp only [Prod.mk.injEq] at hs
  obtain ⟨hoperations, hids, hmoments, hasks⟩ := hs
  have run : Run _ steps s' := Run.start.performAll hperform
  have halone : ∀ step ∈ steps, step.LeavesAlone 1 := by
    intro step hstep
    have hoperation := List.mem_map_of_mem (f := Step.operation) hstep
    have hid := List.mem_map_of_mem (f := fun step => step.publication?.map Publication.id) hstep
    rw [hids] at hid
    simp only [hoperations, kitchenNight, List.mem_cons, List.not_mem_nil, or_false] at hoperation
    rcases hoperation with h | h | h | h | h | h
    case inr.inl =>
      -- The timer got another id.
      simp only [Step.LeavesAlone, h]
      rintro heq
      rw [heq] at hid
      revert hid
      decide
    all_goals simp only [Step.LeavesAlone, h]
  have hrange : ∀ ring ∈ rings 1 steps, (Recurrence.afterSeconds? ring.moment
      ReminderRequest.twiceAfterMidnight.interval).isSome := by
    intro ring hring
    have hmoment := List.mem_map_of_mem (f := RingEvent.moment) hring
    rw [hmoments] at hmoment
    simp only [List.mem_cons, List.not_mem_nil, or_false] at hmoment
    rcases hmoment with h | h
    · rw [h]
      decide
    · rw [h]
      decide
  have hfresh : ∀ e ∈ (Schedule.purge {}).1.entries, e.id ≠ 1 := fun e he => by cases he
  obtain ⟨hrings, hlength, halerts⟩ :=
    run.rings_inRounds (Prod.ext rfl hpublish) halone hrange
  refine ⟨_, steps, s', Prod.ext rfl hpublish, run, hoperations, hmoments, ?_,
    (halerts hfresh).2, hrings⟩
  rw [hlength fun _ => rfl, hasks]
  rfl

end Reminders
