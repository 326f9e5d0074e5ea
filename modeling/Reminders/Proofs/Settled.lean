import Reminders.Proofs.Display

/-!
# A tick settles the engine

A tick lets the reminders ring that are due, then ends the ringing of those that have rung for
as long as they may, and then shows what came of both.  Each of these works on what the one
before it left, and the next tick on what this one left.  So a reminder could be taken up more
than once at the same moment.  `tick_settles` says that none is.

* A reminder that rings is due only later, and has rung for as long as it may only later, since
  that is a second at least.  So the batch of rings makes none ring out
  (`Fires.eq_of_hasRungOut`).
* Ending the ringing of a reminder leaves it on screen, and its trigger as it is.  So it makes
  none due, and none is over (`Entry.quieted`).

A schedule for which nothing is left to do is *settled*.  A tick settles the schedule, and
leaves an engine whose schedule is settled exactly as it is.

The ringing is ended by the ids.  Where two reminders have the same one, it may be ended for the
one that has not rung long enough, so distinct ids are needed.
-/

namespace Reminders

/-! ## Ringing for long enough -/

namespace Entry

variable {x z : Entry} {now : DateTime}

/-- A reminder has rung out if it still alerts when the time of its ring has passed. -/
theorem hasRungOut_iff : x.hasRungOut now ↔ x.status = .showing true ∧ ∃ shown stop,
    x.lastShown = some shown ∧
      Recurrence.afterSeconds? shown x.request.ringSeconds = some stop ∧ stop ≤ now := by
  simp [hasRungOut, Option.any_eq_true]

/-- An entry that rings has not rung for long enough at the same moment. -/
theorem not_hasRungOut_of_rung (h : x.rung now = (z, .ok ())) : ¬ z.hasRungOut now := by
  intro hout
  obtain ⟨-, shown, stop, hshown, hstop, hle⟩ := hasRungOut_iff.1 hout
  have hnow : z.lastShown = some now := by rw [← x.rung_lastShown now, h]
  rw [hnow] at hshown
  cases hshown
  have hpos : 0 < z.request.ringSeconds := Nat.le_max_left ..
  exact DateTime.not_le_iff_lt.2 (DateTime.lt_of_later? hpos hstop) hle

theorem not_hasRungOut_of_active (h : x.status = .active) : ¬ x.hasRungOut now := by
  simp [hasRungOut, h]

/-- What has rung for long enough behind a batch of rings was left alone by it. -/
theorem Fires.eq_of_hasRungOut (h : x.Fires now z) (hout : z.hasRungOut now) : z = x := by
  cases h with
  | kept => rfl
  | covered => exact absurd hout (not_hasRungOut_of_active rfl)
  | rang _ hrung => exact absurd hout (not_hasRungOut_of_rung hrung)
  | hidden => exact absurd hout (not_hasRungOut_of_active rfl)

/-- What is on screen without alerting behind a batch of rings was left alone by it. -/
theorem Fires.eq_of_quiet (h : x.Fires now z) (hquiet : z.status = .showing false) : z = x := by
  cases h with
  | kept => rfl
  | covered => cases hquiet
  | rang _ hrung =>
    have halerting : z.status = .showing true := by rw [← x.rung_status now, hrung]
    rw [halerting] at hquiet
    cases hquiet
  | hidden => cases hquiet

/-- The entry, which stops alerting if it has rung for long enough. -/
def quieted (now : DateTime) (x : Entry) : Entry := if x.hasRungOut now then x.silenced else x

/-- Quieting takes the sound from what has rung out, and from nothing else. -/
theorem quieted_cases (now : DateTime) (x : Entry) :
    (x.hasRungOut now ∧ x.quieted now = x.silenced) ∨
      (¬ x.hasRungOut now ∧ x.quieted now = x) := by
  by_cases hout : x.hasRungOut now
  · exact .inl ⟨hout, if_pos hout⟩
  · exact .inr ⟨hout, if_neg hout⟩

@[simp] theorem quieted_id (now : DateTime) (x : Entry) : (x.quieted now).id = x.id := by
  obtain ⟨-, heq⟩ | ⟨-, heq⟩ := x.quieted_cases now <;> rw [heq]
  rfl

@[simp] theorem quieted_isDue (now : DateTime) (x : Entry) :
    (x.quieted now).isDue now = x.isDue now := by
  obtain ⟨-, heq⟩ | ⟨-, heq⟩ := x.quieted_cases now <;> rw [heq]
  rfl

theorem not_hasRungOut_quieted (now : DateTime) (x : Entry) :
    ¬ (x.quieted now).hasRungOut now := by
  obtain ⟨-, heq⟩ | ⟨hout, heq⟩ := x.quieted_cases now
  · rw [heq]
    simp [hasRungOut, silenced]
  · rw [heq]
    exact hout

theorem not_isOver_quieted (h : ¬ x.isOver) : ¬ (x.quieted now).isOver := by
  obtain ⟨-, heq⟩ | ⟨-, heq⟩ := x.quieted_cases now
  · rw [heq]
    simp [isOver, silenced, ReminderStatus.isShowing]
  · rw [heq]
    exact h

end Entry

/-! ## Ending the ringing -/

/-- The entry, which stops alerting if its id is among some. -/
def Entry.silencedBy (ids : List Int32) (x : Entry) : Entry :=
  if x.id ∈ ids ∧ x.status = .showing true then x.silenced else x

@[simp] theorem Entry.silencedBy_id (ids : List Int32) (x : Entry) :
    (x.silencedBy ids).id = x.id := by
  rw [silencedBy]
  split <;> rfl

theorem Entry.silencedBy_cons (id : Int32) (rest : List Int32) (x : Entry) :
    (x.silencedBy [id]).silencedBy rest = x.silencedBy (id :: rest) := by
  by_cases hid : x.id = id <;> by_cases halerting : x.status = .showing true <;>
    simp [silencedBy, hid, halerting, silenced]

variable {s : Schedule}

/-- Where no alerting entry has one of the ids, nothing is silenced. -/
theorem Schedule.map_silencedBy_eq_self {ids : List Int32}
    (h : ∀ x ∈ s.entries, ¬ (x.id ∈ ids ∧ x.status = .showing true)) :
    s.entries.map (Entry.silencedBy ids) = s.entries := by
  refine (List.map_congr_left fun x hx => ?_).trans s.entries.map_id
  exact if_neg (h x hx)

/-- With distinct ids to silence an id is a map. -/
theorem Schedule.silence_eq [LocalTime] (distinct : (s.entries.map Entry.id).Nodup) (id : Int32) :
    (s.silence id).1 = { s with entries := s.entries.map (Entry.silencedBy [id]) } := by
  rw [silence]
  split
  case h_1 hget =>
    rw [map_silencedBy_eq_self fun x hx hboth => ?_]
    simpa [List.mem_singleton.1 hboth.1] using List.find?_eq_none.1 hget x hx
  case h_2 y hget =>
    have hid : y.id = id := by simpa using List.find?_some hget
    split
    case isTrue halerting =>
      have hreplaced : s.Replaced id y y.silenced (fun _ => true) (s.update y.silenced) :=
        update_replaced hget rfl
      obtain ⟨-, moved, hmoved, hupdate⟩ := hreplaced.moved_of_distinct distinct
      rw [List.filter_eq_self.2 fun _ _ => rfl] at hupdate
      have hmap : s.entries.map (Entry.silencedBy [id]) = moved := by
        refine List.forall₂_eq_eq_eq ▸ List.forall₂_map_left_iff.2 (hmoved.imp ?_)
        rintro x x' (⟨hne, rfl⟩ | ⟨rfl, rfl⟩)
        · exact if_neg fun hboth => hne (List.mem_singleton.1 hboth.1)
        · exact if_pos ⟨List.mem_singleton.2 hid, halerting⟩
      rw [hmap, ← hupdate]
      rfl
    case isFalse hquiet =>
      rw [map_silencedBy_eq_self fun x hx hboth => hquiet ?_]
      have hxid : x.id = y.id := (List.mem_singleton.1 hboth.1).trans hid.symm
      rw [← eq_of_id_eq distinct hx (mem_of_get? hget) hxid]
      exact hboth.2

namespace Engine

theorem silenceAll_eq [LocalTime] (distinct : (s.entries.map Entry.id).Nodup) (ids : List Int32) :
    (silenceAll s ids).1 = { s with entries := s.entries.map (Entry.silencedBy ids) } := by
  induction ids generalizing s with
  | nil =>
    rw [Schedule.map_silencedBy_eq_self fun x _ hboth => List.not_mem_nil hboth.1, silenceAll]
  | cons id rest ih =>
    have hfirst := Schedule.silence_eq distinct id
    have hids : (s.silence id).1.entries.map Entry.id = s.entries.map Entry.id := by
      rw [hfirst, List.map_map]
      exact List.map_congr_left fun x _ => x.silencedBy_id [id]
    have hrest : (silenceAll s (id :: rest)).1 = (silenceAll (s.silence id).1 rest).1 := rfl
    rw [hrest, ih (hids ▸ distinct), hfirst, List.map_map]
    congr 1
    exact List.map_congr_left fun x _ => x.silencedBy_cons id rest

/-- Just the entries that have rung for long enough stop alerting. -/
theorem silenceAll_ringElapsed [LocalTime] (distinct : (s.entries.map Entry.id).Nodup)
    (now : DateTime) :
    (silenceAll s (s.ringElapsed now)).1 =
      { s with entries := s.entries.map (Entry.quieted now) } := by
  rw [silenceAll_eq distinct]
  congr 1
  refine List.map_congr_left fun x hx => ?_
  have hout : x.id ∈ s.ringElapsed now ∧ x.status = .showing true ↔ x.hasRungOut now := by
    constructor
    · rintro ⟨hmem, -⟩
      obtain ⟨y, hy, hid⟩ := List.mem_map.1 hmem
      obtain ⟨hy, hout⟩ := List.mem_filter.1 hy
      rw [← Schedule.eq_of_id_eq distinct hy hx hid]
      exact hout
    · intro hout
      refine ⟨List.mem_map_of_mem (List.mem_filter.2 ⟨hx, hout⟩), ?_⟩
      exact (Entry.hasRungOut_iff.1 hout).1
  simp only [Entry.silencedBy, hout, Entry.quieted]

end Engine

/-! ## Settled schedules -/

/-- Whether a tick finds nothing to do. -/
structure Schedule.Settled (s : Schedule) (now : DateTime) : Prop where
  /-- No reminder has to ring. -/
  none_due : ∀ x ∈ s.entries, ¬ x.isDue now
  /-- None has rung for as long as it may. -/
  none_rungOut : ∀ x ∈ s.entries, ¬ x.hasRungOut now
  /-- None has expired and is off the screen. -/
  none_over : ∀ x ∈ s.entries, ¬ x.isOver

namespace Engine

section

variable [LocalTime] {e e' : Engine} {now : DateTime} {alerts : List Alert}

/-- A tick leaves an engine alone whose schedule is settled. -/
theorem tick_of_settled (h : e.schedule.Settled now) : e.tick now = (e, .ok []) := by
  have hsilenced : silenceAll e.schedule (e.schedule.ringElapsed now) = (e.schedule, []) := by
    have hnone : e.schedule.ringElapsed now = [] := by
      rw [Schedule.ringElapsed, List.map_eq_nil_iff, List.filter_eq_nil_iff]
      exact h.none_rungOut
    rw [hnone, silenceAll]
  rw [tick, Schedule.fireDue_of_not_due h.none_over h.none_due]
  simp only [hsilenced]
  rfl

/-- What becomes of the schedule by a tick: a batch of rings, and then the end of the ringing
of those that have rung for long enough. -/
theorem tick_schedule (distinct : (e.schedule.entries.map Entry.id).Nodup)
    (h : e.tick now = (e', .ok alerts)) :
    ∃ fired, e.schedule.Moved (Entry.Fires now) (fun x => !x.isOver) fired ∧
      e'.schedule = { fired with entries := fired.entries.map (Entry.quieted now) } := by
  obtain ⟨fired, silenced, hfire, hsilence, -⟩ := tick_phases h
  have hmoved := Schedule.fireDue_moved hfire
  have hids : ∀ x z : Entry, x.Fires now z → z.id = x.id :=
    fun _ _ hfires => congrArg Publication.id hfires.publication
  have distinct' : (fired.entries.map Entry.id).Nodup :=
    distinct.sublist (hmoved.map_sublist hids)
  refine ⟨fired, hmoved, ?_⟩
  rw [← silenceAll_ringElapsed distinct', hsilence]

/-- An entry behind a tick is one that was moved by the batch of rings and is not over, and then
stopped alerting if it had to. -/
theorem mem_of_tick (distinct : (e.schedule.entries.map Entry.id).Nodup)
    (h : e.tick now = (e', .ok alerts)) {x' : Entry} (hx' : x' ∈ e'.schedule.entries) :
    ∃ x ∈ e.schedule.entries, ∃ z, x.Fires now z ∧ ¬ z.isOver ∧ x' = z.quieted now := by
  obtain ⟨fired, hmoved, hs'⟩ := tick_schedule distinct h
  rw [hs'] at hx'
  obtain ⟨z, hz, rfl⟩ := List.mem_map.1 hx'
  obtain ⟨hkeep, x, hx, hfires⟩ := hmoved.mem hz
  exact ⟨x, hx, z, hfires, by simpa using hkeep, rfl⟩

/-- Behind a tick nothing is due and nothing rings too long. -/
theorem settled_of_tick (distinct : (e.schedule.entries.map Entry.id).Nodup)
    (h : e.tick now = (e', .ok alerts)) : e'.schedule.Settled now where
  none_due := by
    intro x' hx'
    obtain ⟨x, -, z, hfires, -, rfl⟩ := mem_of_tick distinct h hx'
    rw [Entry.quieted_isDue]
    exact hfires.not_isDue
  none_rungOut := by
    intro x' hx'
    obtain ⟨x, -, z, -, -, rfl⟩ := mem_of_tick distinct h hx'
    exact z.not_hasRungOut_quieted now
  none_over := by
    intro x' hx'
    obtain ⟨x, -, z, -, hover, rfl⟩ := mem_of_tick distinct h hx'
    exact Entry.not_isOver_quieted hover

/-- A reminder that alerted before a tick, and is on screen without alerting behind it, had rung
for as long as it may. -/
theorem hasRungOut_of_tick (distinct : (e.schedule.entries.map Entry.id).Nodup)
    (h : e.tick now = (e', .ok alerts)) {x x' : Entry} (hx : x ∈ e.schedule.entries)
    (halerting : x.status = .showing true) (hx' : x' ∈ e'.schedule.entries) (hid : x'.id = x.id)
    (hquiet : x'.status = .showing false) : x.hasRungOut now := by
  obtain ⟨y, hy, z, hfires, -, rfl⟩ := mem_of_tick distinct h hx'
  have hyx : y = x := by
    refine Schedule.eq_of_id_eq distinct hy hx ?_
    rw [← hid, Entry.quieted_id]
    exact (congrArg Publication.id hfires.publication).symm
  subst hyx
  obtain ⟨hout, -⟩ | ⟨-, heq⟩ := z.quieted_cases now
  · rw [← hfires.eq_of_hasRungOut hout]
    exact hout
  · rw [heq] at hquiet
    rw [hfires.eq_of_quiet hquiet, halerting] at hquiet
    cases hquiet

/-- Behind a tick nothing has to ring and nothing has rung for as long as it may, the ringing has
ended for no other reason, and a further tick at the same moment changes nothing. -/
theorem tick_settles (distinct : (e.schedule.entries.map Entry.id).Nodup)
    (h : e.tick now = (e', .ok alerts)) :
    (∀ x ∈ e'.schedule.entries, ¬ x.isDue now) ∧
    (∀ x ∈ e'.schedule.entries, x.status = .showing true → ∀ shown stop,
      x.lastShown = some shown →
        Recurrence.afterSeconds? shown (max 1 x.request.ringDuration.toNat) = some stop →
          now < stop) ∧
    (∀ x ∈ e.schedule.entries, x.status = .showing true → ∀ x' ∈ e'.schedule.entries,
      x'.id = x.id → x'.status = .showing false → ∃ shown stop, x.lastShown = some shown ∧
        Recurrence.afterSeconds? shown (max 1 x.request.ringDuration.toNat) = some stop ∧
        stop ≤ now) ∧
    e'.tick now = (e', .ok []) := by
  have hsettled := settled_of_tick distinct h
  refine ⟨hsettled.none_due, ?_, ?_, tick_of_settled hsettled⟩
  · intro x hx halerting shown stop hshown hstop
    rw [← DateTime.not_le_iff_lt]
    intro hle
    exact hsettled.none_rungOut x hx
      (Entry.hasRungOut_iff.2 ⟨halerting, shown, stop, hshown, hstop, hle⟩)
  · intro x hx halerting x' hx' hid hquiet
    exact (Entry.hasRungOut_iff.1 (hasRungOut_of_tick distinct h hx halerting hx' hid hquiet)).2

end

/-- A timer that alerts for two seconds, and one that rings when those are over. -/
def twoKettles : List Call :=
  [.publish .kitchen { ReminderRequest.minute with ringDuration := 2 },
    .publish .kitchen { ReminderRequest.minute with kind := .timer 62, notificationId := 8 },
    .tick (.sinceFirst 60), .tick (.sinceFirst 61)]

attribute [local instance] LocalTime.universal

/-- The first timer still alerts after a second, and stops when the second one rings. -/
theorem tick_settles_twoKettles :
    ∃ steps e e' alerts, kitchen.performAll twoKettles = .ok (steps, e) ∧
      (e.schedule.entries.map Entry.id).Nodup ∧ e.tick (.sinceFirst 62) = (e', .ok alerts) ∧
      (∃ x ∈ e.schedule.entries, ∃ x' ∈ e'.schedule.entries, x'.id = x.id ∧
        x.status = .showing true ∧ x'.status = .showing false ∧
        ∃ shown stop, x.lastShown = some shown ∧ Recurrence.afterSeconds? shown 2 = some stop ∧
          stop ≤ .sinceFirst 62) ∧
      alerts.map Alert.id = [2] ∧ e'.tick (.sinceFirst 62) = (e', .ok []) := by
  have hend : (kitchen.performAll twoKettles).map (fun r =>
      (r.2.schedule.entries.map (fun x => (x.id, x.status, x.request.ringDuration)),
        (r.2.tick (.sinceFirst 62)).1.schedule.entries.map (fun x => (x.id, x.status)),
        (r.2.tick (.sinceFirst 62)).2.map fun alerts => alerts.map Alert.id)) =
      .ok ([(1, .showing true, 2), (2, .active, 0)], [(1, .showing false), (2, .showing true)],
        .ok [2]) := by cbv
  obtain ⟨⟨steps, e⟩, hperform, he⟩ := Except.map_eq_ok.1 hend
  simp only [Prod.mk.injEq] at he
  obtain ⟨hbefore, hbehind, hresult⟩ := he
  obtain ⟨alerts, halerts, hids⟩ := Except.map_eq_ok.1 hresult
  have distinct : (e.schedule.entries.map Entry.id).Nodup := by
    have hfirst : e.schedule.entries.map Entry.id = [1, 2] := by
      have hmap := congrArg (List.map Prod.fst) hbefore
      rwa [List.map_map] at hmap
    rw [hfirst]
    decide
  have ticked : e.tick (.sinceFirst 62) = ((e.tick (.sinceFirst 62)).1, .ok alerts) :=
    Prod.ext rfl halerts
  obtain ⟨-, -, hquieted, hagain⟩ := tick_settles distinct ticked
  obtain ⟨x, hx, hsays⟩ := List.mem_map.1 (hbefore ▸ List.mem_cons_self)
  obtain ⟨x', hx', hsays'⟩ := List.mem_map.1 (hbehind ▸ List.mem_cons_self)
  simp only [Prod.mk.injEq] at hsays hsays'
  obtain ⟨hid, halerting, hduration⟩ := hsays
  obtain ⟨hid', hquiet⟩ := hsays'
  obtain ⟨shown, stop, hshown, hstop, hle⟩ :=
    hquieted x hx halerting x' hx' (hid'.trans hid.symm) hquiet
  rw [hduration] at hstop
  exact ⟨steps, e, _, alerts, hperform, distinct, ticked,
    ⟨x, hx, x', hx', hid'.trans hid.symm, halerting, hquiet, shown, stop, hshown, hstop, hle⟩,
    hids, hagain⟩

end Engine

end Reminders
