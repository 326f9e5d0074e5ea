import Mathlib
import Reminders.Proofs.Batch
import Reminders.Proofs.Upkeep

/-!
# What is on screen

A reminder is shown by the notification under its key: the name of its bundle, the
notification id it asked for and the label of all reminders.  Several reminders may
share a key, and then they take turns.

`Run.onScreen` says that at most one of them is on screen, and which: the one that
rang last.  The alerts of a run stand in the order in which they were given, so it is
the reminder of the last alert under the key, and the alert still describes it.

* Only ringing puts a reminder on screen.  Any other operation leaves those that are
  there, up to the end of the alerting (`Effect.of_isShowing`).
* A reminder on screen after a batch rang last in it under its key, or it was there
  before and nothing rang under its key (`Batch.of_isShowing`).

Two reminders on screen under one key would be those of one alert, and so have one id.
Ids tell reminders apart as long as they have not come round (`Run.distinct`).
-/

namespace Reminders

/-! ## Keys -/

/-- The key of the notification that shows an entry. -/
def Entry.key (e : Entry) : NotificationKey := ⟨e.bundle.name, e.request.notificationId, label⟩

/-- The key of the notification of an alert. -/
def Alert.key (a : Alert) : NotificationKey :=
  ⟨a.bundle.name, a.notification.id, a.notification.label⟩

/-- Whether the entry is on screen under a key. -/
def Entry.isShownUnder (e : Entry) (key : NotificationKey) : Bool :=
  e.status.isShowing && e.key = key

theorem Entry.isShownUnder_iff {e : Entry} {key : NotificationKey} :
    e.isShownUnder key ↔ e.status.isShowing ∧ e.key = key := by
  simp [isShownUnder]

theorem Entry.sharesNotification_iff {a b : Entry} : a.SharesNotification b ↔ a.key = b.key := by
  simp [SharesNotification, key]

theorem Entry.key_of_isOwnedBy {e : Entry} {bundle : Bundle} (h : e.isOwnedBy bundle) :
    e.key = ⟨bundle.name, e.request.notificationId, label⟩ := by
  rw [key, beq_iff_eq.1 h]

/-- The key is that of the publication. -/
theorem Entry.key_congr {e e' : Entry} (h : e'.publication = e.publication) : e'.key = e.key := by
  simp only [publication, Publication.mk.injEq] at h
  rw [key, key, h.2.1, h.2.2]

/-! ## The alerts of a run -/

/-- The alerts that a step gave. -/
def Step.alerts (step : Step) : List Alert :=
  match step.operation, step.answer with
  | .fireDue _, .rang alerts => alerts
  | _, _ => []

/-- The alerts of a run, the first one first. -/
def alerts (steps : List Step) : List Alert := steps.flatMap Step.alerts

theorem alerts_append (steps : List Step) (step : Step) :
    alerts (steps ++ [step]) = alerts steps ++ step.alerts := by
  simp [alerts]

/-- Only a batch of rings alerts. -/
theorem Step.alerts_eq_nil {step : Step} (h : ∀ now, step.operation ≠ .fireDue now) :
    step.alerts = [] := by
  rw [Step.alerts]
  split
  case h_1 now _ hfire _ => exact absurd hfire (h now)
  case h_2 => rfl

/-- The last element of a list with a key. -/
def lastWith? {α : Type} (keyOf : α → NotificationKey) (key : NotificationKey) (l : List α) :
    Option α :=
  (l.filter fun a => keyOf a = key).getLast?

section

variable {α β : Type} {keyOf : α → NotificationKey} {key : NotificationKey}

/-- The last with a key is looked for in the part behind first. -/
theorem lastWith?_append (before behind : List α) :
    lastWith? keyOf key (before ++ behind) =
      (lastWith? keyOf key behind).or (lastWith? keyOf key before) := by
  rw [lastWith?, List.filter_append, List.getLast?_append, lastWith?, lastWith?]

theorem lastWith?_eq_none_iff {l : List α} :
    lastWith? keyOf key l = none ↔ ∀ a ∈ l, keyOf a ≠ key := by
  simp [lastWith?]

theorem lastWith?_singleton {a : α} (h : keyOf a = key) : lastWith? keyOf key [a] = some a := by
  simp [lastWith?, h]

theorem eq_of_lastWith?_singleton {a b : α} (h : lastWith? keyOf key [a] = some b) :
    a = b ∧ keyOf a = key := by
  by_cases hkey : keyOf a = key
  · rw [lastWith?_singleton hkey] at h
    exact ⟨Option.some.inj h, hkey⟩
  · simp [lastWith?, hkey] at h

theorem lastWith?_map (f : β → α) (l : List β) :
    lastWith? keyOf key (l.map f) = (lastWith? (fun b => keyOf (f b)) key l).map f := by
  rw [lastWith?, List.filter_map, List.getLast?_map]
  rfl

end

/-! ## A batch -/

variable {s s' : Schedule} {now : DateTime}

/-- A reminder on screen after a batch rang last in it under its key, unless it was
there before and nothing rang under its key. -/
theorem Schedule.of_fireDue_isShowing [LocalTime] {alerts : List Alert}
    (distinct : (s.entries.map Entry.id).Nodup) (fired : s.fireDue now = (s', .ok alerts))
    {e' : Entry} (he' : e' ∈ s'.entries) (hshowing : e'.status.isShowing) :
    (e' ∈ s.entries ∧ ∀ a ∈ alerts, a.key ≠ e'.key) ∨
      (e'.status = .showing true ∧ lastWith? Alert.key e'.key alerts = some e'.alert) := by
  obtain ⟨rings, hperm, hpairwise, halerts⟩ := exists_rings_of_fireDue distinct fired
  have hrings : ∀ r, r ∈ rings ↔ r ∈ s.entries ∧ r.isDue now := fun r => by
    rw [hperm.mem_iff, List.mem_filter]
  rw [fireDue_entries distinct fired, List.mem_filter] at he'
  obtain ⟨e, he, rfl⟩ := List.mem_map.1 he'.1
  by_cases hdue : e.isDue now
  case pos =>
    obtain ⟨hhidden, hvisible⟩ := become_of_due distinct he hdue
    have hlast : ¬ ∃ r ∈ s.entries, r.isDue now ∧ e.RingsBefore r ∧ e.SharesNotification r := by
      intro hlater
      rw [hhidden hlater] at hshowing
      cases hshowing
    rw [hvisible hlast]
    refine .inr ⟨e.rung_status now, ?_⟩
    obtain ⟨before, behind, hsplit⟩ := List.append_of_mem ((hrings e).2 ⟨he, hdue⟩)
    rw [hsplit, List.pairwise_append, List.pairwise_cons] at hpairwise
    have hbehind : ∀ a ∈ behind.map (fun r => (r.shownAt now).alert), a.key ≠ e.key := by
      intro a ha hkey
      obtain ⟨r, hr, rfl⟩ := List.mem_map.1 ha
      have hmem : r ∈ rings := by simp [hsplit, hr]
      refine hlast ⟨r, ((hrings r).1 hmem).1, ((hrings r).1 hmem).2, hpairwise.2.1.1 r hr, ?_⟩
      exact Entry.sharesNotification_iff.2 hkey.symm
    have hone : lastWith? Alert.key e.key [(e.shownAt now).alert] = some (e.shownAt now).alert :=
      lastWith?_singleton rfl
    rw [Entry.key_congr (e.rung_publication now), e.rung_alert now, halerts, hsplit,
      List.map_append, List.map_cons, lastWith?_append, ← List.singleton_append, lastWith?_append,
      lastWith?_eq_none_iff.2 hbehind, hone]
    rfl
  case neg =>
    obtain ⟨hcovered, hkept⟩ := become_of_not_due distinct he hdue
    by_cases hboth : e.status.isShowing ∧ ∃ r ∈ s.entries, r.isDue now ∧ e.SharesNotification r
    · rw [hcovered hboth] at hshowing
      cases hshowing
    · rw [hkept hboth] at hshowing ⊢
      refine .inl ⟨he, fun a ha hkey => hboth ⟨hshowing, ?_⟩⟩
      rw [halerts] at ha
      obtain ⟨r, hr, rfl⟩ := List.mem_map.1 ha
      exact ⟨r, ((hrings r).1 hr).1, ((hrings r).1 hr).2, Entry.sharesNotification_iff.2 hkey.symm⟩

/-! ## Other operations -/

/-- What is on screen behind a change that takes one off was on screen before. -/
theorem Schedule.Replaced.of_isShowing {id : Int32} {e changed : Entry} {keep : Entry → Bool}
    (h : s.Replaced id e changed keep s') (hchanged : ¬ changed.status.isShowing) {x : Entry}
    (hx : x ∈ s'.entries) (hshowing : x.status.isShowing) : x ∈ s.entries := by
  obtain ⟨-, y, hy, rfl | ⟨-, rfl⟩⟩ := h.moved.mem hx
  · exact hy
  · exact absurd hshowing hchanged

/-- A reminder on screen after an operation that lets nothing ring was there before.
It has not changed, unless it just stopped alerting. -/
theorem Schedule.Effect.of_isShowing {operation : Operation} {answer : Answer}
    (h : s.Effect operation answer s') (hquiet : ∀ now, operation ≠ .fireDue now) {x : Entry}
    (hx : x ∈ s'.entries) (hshowing : x.status.isShowing) :
    x ∈ s.entries ∨ ∃ id e, operation = .silence id ∧ s.get? id = some e ∧
      e.status = .showing true ∧ x = { e with status := .showing false } := by
  cases h with
  | refused => exact .inl hx
  | refusedThen => exact .inl (List.mem_of_mem_filter hx)
  | published =>
    rcases List.mem_append.1 hx with hx | hx
    · exact .inl (List.mem_of_mem_filter hx)
    · rw [List.mem_singleton.1 hx] at hshowing
      cases hshowing
  | cancelled => exact .inl (List.mem_of_mem_filter hx)
  | cancelledAll => exact .inl (List.mem_of_mem_filter hx)
  | fired => exact absurd rfl (hquiet _)
  | notSnoozed => exact .inl hx
  | snoozed _ _ _ hs' => exact .inl (hs'.of_isShowing Bool.false_ne_true hx hshowing)
  | notClosed => exact .inl hx
  | closedOnly _ _ _ hs' => exact .inl (hs'.of_isShowing Bool.false_ne_true hx hshowing)
  | ended _ _ _ hs' => exact .inl (hs'.of_isShowing Bool.false_ne_true hx hshowing)
  | renewed _ _ _ hs' => exact .inl (hs'.of_isShowing Bool.false_ne_true hx hshowing)
  | notSilenced => exact .inl hx
  | @silenced id e _ _ hget halerting hs' =>
    obtain ⟨-, y, hy, rfl | ⟨-, rfl⟩⟩ := hs'.moved.mem hx
    · exact .inl hy
    · exact .inr ⟨id, e, rfl, hget, halerting, rfl⟩
  | refreshed hmoved =>
    obtain ⟨-, y, hy, hrefreshed⟩ := hmoved.mem hx
    obtain ⟨-, rfl⟩ | ⟨⟨-, hactive, -⟩, t, -, rfl⟩ | ⟨⟨-, hactive, -⟩, -, rfl⟩ | ⟨-, -, rfl⟩ :=
      Entry.refreshed_cases hrefreshed
    · exact .inl hy
    · simp [hactive, ReminderStatus.isShowing] at hshowing
    · simp [hactive, ReminderStatus.isShowing] at hshowing
    · exact .inl hy
  | purged => exact .inl (List.mem_of_mem_filter hx)

/-! ## Ids of a run -/

variable {steps : List Step}

/-- No id is given away twice before the ids come round. -/
theorem Numbered.publications_nodup (h : Numbered steps s)
    (few : (publications steps).length < 2 ^ 31) :
    ((publications steps).map Publication.id).Nodup := by
  refine List.nodup_iff_getElem?_ne_getElem?.2 fun i j hij hj heq => ?_
  rw [List.length_map] at hj
  rw [List.getElem?_map, List.getElem?_map, List.getElem?_eq_getElem (by omega),
    List.getElem?_eq_getElem hj, Option.map_some, Option.map_some, Option.some.injEq] at heq
  have hi := h.id_eq i _ (List.getElem?_eq_getElem (by omega))
  have hj' := h.id_eq j _ (List.getElem?_eq_getElem hj)
  rw [heq] at hi
  omega

/-- Before the ids come round they tell the entries apart. -/
theorem Run.distinct [LocalTime] (run : Run {} steps s)
    (few : (publications steps).length < 2 ^ 31) : (s.entries.map Entry.id).Nodup := by
  have hids := run.stem.map Publication.id
  rw [List.map_map] at hids
  exact (run.numbered.publications_nodup few).sublist hids

/-! ## Taking turns -/

/-- Every reminder on screen is that of the last alert under its key. -/
def LastToRing [LocalTime] (steps : List Step) (s : Schedule) : Prop :=
  ∀ e ∈ s.entries, e.status.isShowing → lastWith? Alert.key e.key (alerts steps) = some e.alert

/-- Every operation leaves on screen only those that rang last under their keys. -/
theorem LastToRing.step [LocalTime] {operation : Operation} {answer : Answer}
    (h : LastToRing steps s) (distinct : (s.entries.map Entry.id).Nodup)
    (hperform : s.perform operation = .ok (s', answer)) :
    LastToRing (steps ++ [⟨s, operation, answer, s'⟩]) s' := by
  intro e he hshowing
  rw [alerts_append, lastWith?_append]
  by_cases hring : ∃ now, operation = .fireDue now
  case pos =>
    obtain ⟨now, rfl⟩ := hring
    obtain ⟨given, hfired, rfl⟩ := Attempt.settle_eq_ok.1 hperform
    obtain ⟨hbefore, hnone⟩ | ⟨-, hlast⟩ :=
      Schedule.of_fireDue_isShowing distinct hfired he hshowing
    · rw [Step.alerts, lastWith?_eq_none_iff.2 hnone]
      exact h e hbefore hshowing
    · rw [Step.alerts, hlast]
      rfl
  case neg =>
    have hquiet : ∀ now, operation ≠ .fireDue now := fun now hnow => hring ⟨now, hnow⟩
    rw [Step.alerts_eq_nil hquiet]
    obtain hbefore | ⟨id, x, -, hget, halerting, rfl⟩ :=
      (Schedule.perform_effect hperform).of_isShowing hquiet he hshowing
    · exact h e hbefore hshowing
    · exact h x (Schedule.mem_of_get? hget) (by rw [halerting]; rfl)

theorem publications_length_le (steps : List Step) (step : Step) :
    (publications steps).length ≤ (publications (steps ++ [step])).length := by
  rw [publications_append, List.length_append]
  omega

/-- In a run too short for the ids to come round, only those that rang last under their keys are on
screen. -/
theorem Run.lastToRing [LocalTime] (run : Run {} steps s)
    (few : (publications steps).length < 2 ^ 31) :
    LastToRing steps s := by
  induction run with
  | start => exact fun e he => by cases he
  | step run hperform ih =>
    have fewer := Nat.lt_of_le_of_lt (publications_length_le _ _) few
    exact (ih fewer).step (run.distinct fewer) hperform

/-- Reminders on screen under one key are one reminder. -/
theorem LastToRing.eq_of_key_eq [LocalTime] (h : LastToRing steps s)
    (distinct : (s.entries.map Entry.id).Nodup)
    {a b : Entry} (ha : a ∈ s.entries) (hb : b ∈ s.entries) (hashowing : a.status.isShowing)
    (hbshowing : b.status.isShowing) (hkey : a.key = b.key) : a = b := by
  have halerts : some a.alert = some b.alert := by
    rw [← h a ha hashowing, ← h b hb hbshowing, hkey]
  have hid : a.alert.id = b.alert.id := by rw [Option.some.inj halerts]
  exact Schedule.eq_of_id_eq distinct ha hb hid

/-- Under one key at most one reminder is on screen. -/
theorem LastToRing.countP_le_one [LocalTime] (h : LastToRing steps s)
    (distinct : (s.entries.map Entry.id).Nodup) (key : NotificationKey) :
    s.entries.countP (fun e => e.isShownUnder key) ≤ 1 := by
  rw [List.countP_eq_length_filter]
  have hnodup : (s.entries.filter fun e => e.isShownUnder key).Nodup :=
    (distinct.of_map _).filter _
  cases hshown : s.entries.filter fun e => e.isShownUnder key with
  | nil => exact Nat.zero_le _
  | cons a rest =>
    cases rest with
    | nil => exact Nat.le_refl _
    | cons b rest =>
      have hmem : ∀ e ∈ a :: b :: rest, e ∈ s.entries ∧ e.status.isShowing ∧ e.key = key := by
        intro e he
        rw [← hshown, List.mem_filter, Entry.isShownUnder_iff] at he
        exact he
      obtain ⟨ha, hashowing, hakey⟩ := hmem a (by simp)
      obtain ⟨hb, hbshowing, hbkey⟩ := hmem b (by simp)
      have hab := h.eq_of_key_eq distinct ha hb hashowing hbshowing (hakey.trans hbkey.symm)
      rw [hshown, hab] at hnodup
      simp at hnodup

/-- At most one reminder is on screen under a key, and it is the one that rang last. -/
theorem Run.onScreen [LocalTime] (run : Run {} steps s) (few : (publications steps).length < 2 ^ 31)
    (key : NotificationKey) :
    s.entries.countP (fun e => e.isShownUnder key) ≤ 1 ∧
      ∀ e ∈ s.entries, e.isShownUnder key →
        lastWith? Alert.key key (alerts steps) = some e.alert := by
  have distinct := run.distinct few
  have hlast := run.lastToRing few
  refine ⟨hlast.countP_le_one distinct key, fun e he hshown => ?_⟩
  obtain ⟨hshowing, rfl⟩ := Entry.isShownUnder_iff.1 hshown
  exact hlast e he hshowing

attribute [local instance] LocalTime.universal

/-- In the kitchen the second timer rings and leaves the screen to the first one, which was
snoozed and rings for the second time. -/
theorem Run.onScreen_kitchenMorning :
    ∃ steps s, Schedule.performAll {} kitchenMorning = .ok (steps, s) ∧ Run {} steps s ∧
      (publications steps).length < 2 ^ 31 ∧ (alerts steps).map Alert.id = [1, 2, 1] ∧
      ∃ e ∈ s.entries, e.id = 1 ∧ e.isShownUnder ⟨"kitchen", 7, "REMINDER_AGENT"⟩ ∧
        lastWith? Alert.key ⟨"kitchen", 7, "REMINDER_AGENT"⟩ (alerts steps) = some e.alert := by
  have hend : (Schedule.performAll {} kitchenMorning).map (fun r =>
      ((publications r.1).length, (alerts r.1).map Alert.id,
        r.2.entries.map fun e => (e.id, e.isShownUnder ⟨"kitchen", 7, "REMINDER_AGENT"⟩))) =
      .ok (2, [1, 2, 1], [(1, true)]) := by cbv
  obtain ⟨⟨steps, s⟩, hperform, hs⟩ := Except.map_eq_ok.1 hend
  simp only [Prod.mk.injEq] at hs
  obtain ⟨hcount, halerts, hentries⟩ := hs
  have run : Run {} steps s := Run.start.performAll hperform
  have few : (publications steps).length < 2 ^ 31 := by omega
  obtain ⟨e, he, hshown⟩ := List.mem_map.1 (hentries ▸ List.mem_singleton_self (1, true))
  simp only [Prod.mk.injEq] at hshown
  exact ⟨steps, s, hperform, run, few, halerts, e, he, hshown.1, hshown.2,
    (run.onScreen few _).2 e he hshown.2⟩

end Reminders
