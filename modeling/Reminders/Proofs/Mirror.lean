import Mathlib
import Reminders.Proofs.ServiceRun
import Reminders.Proofs.Spared

/-!
# A mirror of the notifications

A subscriber that is there from the start can keep a copy of the active notifications.  It
puts a notification that appears under its key, and drops the key of one that goes away.
`replay` does so for a list of notices.  After any run the copy is what is active
(`Run.mirrored`), and each notification that was told to go away was there with the very
record that was told.

* What one step tells, replayed on what was active before it, gives what is active behind it
  (`Effect.tells`).  The record of each cancellation is the one that was active.
* A subscriber is told all of this but the quiet hours it does not care about, and they play
  no part in the copy (`replay_filter`).

The number of a subscriber tells it from others, so no other one may have it.
-/

namespace Reminders

/-! ## Replaying notices -/

/-- What a notice makes of a copy of the notifications. -/
def Notice.applyTo (copy : Table NotificationKey Notification) :
    Notice → Table NotificationKey Notification
  | .consumed n => copy.insert n.key n
  | .canceled n => copy.erase n.key
  | .quiet _ => copy

/-- What some notices make of a copy of the notifications, one after another. -/
def replay (copy : Table NotificationKey Notification) (notices : List Notice) :
    Table NotificationKey Notification :=
  notices.foldl Notice.applyTo copy

/-- Whether each notification that goes away is in the copy, as it is told. -/
def Faithful (copy : Table NotificationKey Notification) : List Notice → Prop
  | [] => True
  | notice :: rest =>
      (∀ n, notice = .canceled n → copy.get? n.key = some n) ∧ Faithful (notice.applyTo copy) rest

variable {copy : Table NotificationKey Notification}

theorem replay_append (copy : Table NotificationKey Notification) (before behind : List Notice) :
    replay copy (before ++ behind) = replay (replay copy before) behind :=
  List.foldl_append

/-- Faithful notices may be told in two parts. -/
theorem Faithful.append {before behind : List Notice} (h : Faithful copy before)
    (h' : Faithful (replay copy before) behind) : Faithful copy (before ++ behind) := by
  induction before generalizing copy with
  | nil => exact h'
  | cons notice rest ih => exact ⟨h.1, ih h.2 h'⟩

/-- In what is told to go away the copy finds the record that it holds then. -/
theorem Faithful.get?_eq {before behind : List Notice} {n : Notification}
    (h : Faithful copy (before ++ .canceled n :: behind)) :
    (replay copy before).get? n.key = some n := by
  induction before generalizing copy with
  | nil => exact h.1 n rfl
  | cons notice rest ih => exact ih h.2

/-- Every notification of the copy stands under its own key. -/
theorem key_of_mem_replay (notices : List Notice)
    (hcopy : ∀ p ∈ copy.entries, p.2.key = p.1) :
    ∀ p ∈ (replay copy notices).entries, p.2.key = p.1 := by
  induction notices generalizing copy with
  | nil => exact hcopy
  | cons notice rest ih =>
    apply ih
    intro p hp
    cases notice with
    | consumed n =>
      rcases Table.fst_of_mem_put hp with rfl | hp
      · rfl
      · exact hcopy p hp
    | canceled n => exact hcopy p (List.mem_of_mem_filter hp)
    | quiet => exact hcopy p hp

/-! ### Quiet hours play no part -/

/-- A notice that a subscriber does not want leaves its copy alone. -/
theorem applyTo_of_not_wants {x : Subscriber} {notice : Notice} (h : x.wants notice = false) :
    notice.applyTo copy = copy := by
  cases notice with
  | consumed n => cases h
  | canceled n => cases h
  | quiet hours => rfl

/-- It is enough to replay the notices that a subscriber wants. -/
theorem replay_filter (x : Subscriber) (copy : Table NotificationKey Notification)
    (notices : List Notice) : replay copy (notices.filter x.wants) = replay copy notices := by
  induction notices generalizing copy with
  | nil => rfl
  | cons notice rest ih =>
    cases hwants : x.wants notice with
    | true =>
      rw [List.filter_cons_of_pos hwants]
      exact ih _
    | false =>
      rw [List.filter_cons_of_neg (by simp [hwants]), ih, replay, replay, List.foldl_cons,
        applyTo_of_not_wants hwants]

theorem Faithful.filter {notices : List Notice} (h : Faithful copy notices) (x : Subscriber) :
    Faithful copy (notices.filter x.wants) := by
  induction notices generalizing copy with
  | nil => trivial
  | cons notice rest ih =>
    cases hwants : x.wants notice with
    | true =>
      rw [List.filter_cons_of_pos hwants]
      exact ⟨h.1, ih h.2⟩
    | false =>
      rw [List.filter_cons_of_neg (by simp [hwants])]
      have hrest := h.2
      rw [applyTo_of_not_wants hwants] at hrest
      exact ih hrest

/-! ### Several notifications that go away -/

/-- Replaying cancellations takes out what was cancelled. -/
theorem get?_replay_canceled (gone : List Notification) (key : NotificationKey) :
    (replay copy (gone.map .canceled)).get? key =
      if key ∈ gone.map Notification.key then none else copy.get? key := by
  induction gone generalizing copy with
  | nil => rfl
  | cons n rest ih =>
    rw [List.map_cons, replay, List.foldl_cons, ← replay, ih, Notice.applyTo, Table.get?_erase,
      List.map_cons]
    by_cases hkey : key = n.key
    · simp [hkey]
    · simp [hkey]

/-- Cancellations are faithful if each carries the record of the copy, once. -/
theorem faithful_canceled {gone : List Notification} (hdistinct : (gone.map Notification.key).Nodup)
    (hgone : ∀ n ∈ gone, copy.get? n.key = some n) : Faithful copy (gone.map .canceled) := by
  induction gone generalizing copy with
  | nil => trivial
  | cons n rest ih =>
    rw [List.map_cons, List.nodup_cons] at hdistinct
    refine ⟨fun m hm => ?_, ih hdistinct.2 fun m hm => ?_⟩
    · cases hm
      exact hgone n (by simp)
    · have hkey : m.key ≠ n.key := fun heq => hdistinct.1 (heq ▸ List.mem_map_of_mem hm)
      rw [Notice.applyTo, Table.get?_erase, if_neg hkey]
      exact hgone m (by simp [hm])

namespace Service

/-! ## What one step tells -/

variable {s s' : Service}

/-- What a service does with some notices: it tells them to its subscribers, and they say what
becomes of the notifications. -/
structure Tells (s : Service) (notices : List Notice) (s' : Service) : Prop where
  told_eq : s'.told = s.told ++ notices.flatMap (tellings s.subscribers)
  active_eq : s'.active = replay s.active notices
  faithful : Faithful s.active notices
  stored : ∀ n, .canceled n ∈ notices → s.active.get? n.key = some n
  subscribers_kept : s.subscribers <+: s'.subscribers

/-- What changes no notification has nothing to tell. -/
theorem tells_nothing (htold : s'.told = s.told) (hactive : s'.active = s.active)
    (hsubscribers : s.subscribers <+: s'.subscribers) : s.Tells [] s' := by
  refine ⟨?_, hactive, trivial, by simp, hsubscribers⟩
  rw [htold, List.flatMap_nil, List.append_nil]

/-- Where notifications are under their own keys, they are found by them. -/
theorem Keyed.mem_values_filter (keyed : s.Keyed) {p : NotificationKey → Bool} {n : Notification} :
    n ∈ (s.active.filter p).values ↔ p n.key ∧ s.active.get? n.key = some n := by
  rw [Table.get?_eq_some_iff, Table.values, List.mem_map]
  constructor
  · rintro ⟨⟨key, n⟩, hmem, rfl⟩
    obtain ⟨hmem, hkey⟩ := List.mem_filter.1 hmem
    have hn : n.key = key := keyed _ hmem
    rw [hn]
    exact ⟨hkey, hmem⟩
  · rintro ⟨hkey, hmem⟩
    exact ⟨(n.key, n), List.mem_filter.2 ⟨hmem, hkey⟩, rfl⟩

/-- The keys of notifications that stand under their own keys ascend. -/
theorem keys_ascending {t : Table NotificationKey Notification}
    (hkeyed : ∀ p ∈ t.entries, p.2.key = p.1) :
    (t.values.map Notification.key).Pairwise fun a b => compare a b = .lt := by
  have hkeys : t.values.map Notification.key = t.keys := by
    rw [Table.values, Table.keys, List.map_map]
    exact List.map_congr_left hkeyed
  rw [hkeys]
  exact t.keys_ascending

/-- Cancelling all tells of each notification that it takes out. -/
theorem cancelAll_tells (keyed : s.Keyed) (bundle : Bundle) :
    ∃ notices, s.Tells notices (s.cancelAll bundle).1 := by
  let owned : NotificationKey → Bool := fun key => key.bundle == bundle.name
  have hmem : ∀ n, n ∈ (s.active.filter owned).values ↔
      owned n.key ∧ s.active.get? n.key = some n := fun n => keyed.mem_values_filter
  refine ⟨(s.active.filter owned).values.map .canceled, ?_, ?_, ?_, ?_, List.prefix_refl _⟩
  · rfl
  · apply Table.ext_get?
    intro key
    rw [get?_replay_canceled]
    have hgone : key ∈ (s.active.filter owned).values.map Notification.key ↔
        owned key ∧ (s.active.get? key).isSome := by
      constructor
      · intro hkey
        obtain ⟨n, hn, rfl⟩ := List.mem_map.1 hkey
        exact ⟨((hmem n).1 hn).1, by simp [((hmem n).1 hn).2]⟩
      · rintro ⟨howned, hsome⟩
        obtain ⟨n, hn⟩ := Option.isSome_iff_exists.1 hsome
        have hkey : n.key = key := keyed _ (Table.get?_eq_some_iff.1 hn)
        subst hkey
        exact List.mem_map_of_mem ((hmem n).2 ⟨howned, hn⟩)
    have hkept : (s.cancelAll bundle).1.active = s.active.filter fun key => !owned key := rfl
    rw [hkept, Table.get?_filter]
    cases howned : owned key with
    | true => cases hget : s.active.get? key <;> simp [hgone, howned, hget]
    | false => simp [hgone, howned]
  · refine faithful_canceled ?_ fun n hn => ((hmem n).1 hn).2
    refine (keys_ascending fun p hp => keyed p (List.mem_of_mem_filter hp)).imp ?_
    rintro a _ hlt rfl
    simp at hlt
  · intro n hn
    obtain ⟨m, hm, heq⟩ := List.mem_map.1 hn
    cases heq
    exact ((hmem n).1 hm).2

/-- The notices of a step say what becomes of the notifications. -/
theorem Effect.tells {call : Call} (h : s.Effect call s') (keyed : s.Keyed) :
    ∃ notices, s.Tells notices s' := by
  cases h with
  | kept => exact ⟨[], tells_nothing rfl rfl (List.prefix_refl _)⟩
  | slotted => exact ⟨[], tells_nothing rfl rfl (List.prefix_refl _)⟩
  | @published _ _ _ slots n =>
    refine ⟨[.consumed n], rfl, rfl, ?_, by simp, List.prefix_refl _⟩
    exact ⟨fun m hm => (by cases hm), trivial⟩
  | @canceled bundle id label n hget =>
    have hkey : n.key = ⟨bundle.name, id, label⟩ := keyed _ (Table.get?_eq_some_iff.1 hget)
    rw [← hkey] at hget ⊢
    refine ⟨[.canceled n], rfl, rfl, ⟨fun m hm => ?_, trivial⟩, fun m hm => ?_,
      List.prefix_refl _⟩
    · cases hm
      exact hget
    · cases List.mem_singleton.1 hm
      exact hget
  | canceledAll => exact cancelAll_tells keyed _
  | @granted _ principal =>
    cases principal with
    | name => exact ⟨[], tells_nothing rfl rfl (List.prefix_refl _)⟩
    | user => exact ⟨[], tells_nothing rfl rfl (List.prefix_refl _)⟩
  | @hoursSet hours =>
    refine ⟨[.quiet hours], rfl, rfl, ?_, by simp, List.prefix_refl _⟩
    exact ⟨fun m hm => (by cases hm), trivial⟩
  | modeSet => exact ⟨[], tells_nothing rfl rfl (List.prefix_refl _)⟩
  | subscribed => exact ⟨[], tells_nothing rfl rfl (List.prefix_append _ _)⟩

/-! ## What one subscriber is told -/

/-- What the subscriber with a number was told. -/
def noticesFor (number : Nat) (told : List Telling) : List Notice :=
  (told.filter fun t => t.who == number).map Telling.notice

theorem noticesFor_append (number : Nat) (before behind : List Telling) :
    noticesFor number (before ++ behind) =
      noticesFor number before ++ noticesFor number behind := by
  rw [noticesFor, List.filter_append, List.map_append, noticesFor, noticesFor]

/-- Whether a subscriber is the only one with its number. -/
def Distinguishes (s : Service) (x : Subscriber) : Prop :=
  (s.subscribers.filter fun y => y.number == x.number) = [x]

/-- Those who joined later change nothing about the number of one who was there. -/
theorem Distinguishes.of_joined {x : Subscriber} (h : s'.Distinguishes x)
    (hjoined : s.subscribers <+: s'.subscribers) (hx : x ∈ s.subscribers) :
    s.Distinguishes x := by
  have hfiltered := hjoined.filter fun y => y.number == x.number
  rw [h] at hfiltered
  have hmem : x ∈ s.subscribers.filter fun y => y.number == x.number :=
    List.mem_filter.2 ⟨hx, beq_self_eq_true _⟩
  exact hfiltered.eq_of_length_le (List.length_pos_of_mem hmem)

/-- Of a notice the subscriber is told once, or not at all if it does not care. -/
theorem noticesFor_tellings {x : Subscriber} (h : s.Distinguishes x) (notice : Notice) :
    noticesFor x.number (tellings s.subscribers notice) = [notice].filter x.wants := by
  have hone : (s.subscribers.filter fun y => y.wants notice).filter
      (fun y => y.number == x.number) = [x].filter fun y => y.wants notice := by
    rw [List.filter_comm, h]
  rw [noticesFor, tellings, List.filter_map, List.map_map]
  have hmap := congrArg (List.map fun _ => notice) hone
  cases hwants : x.wants notice <;> simp_all [Function.comp_def]

/-- A subscriber with a number of its own is told what it wants. -/
theorem noticesFor_flatMap {x : Subscriber} (h : s.Distinguishes x) (notices : List Notice) :
    noticesFor x.number (notices.flatMap (tellings s.subscribers)) = notices.filter x.wants := by
  induction notices with
  | nil => rfl
  | cons notice rest ih =>
    rw [List.flatMap_cons, noticesFor_append, noticesFor_tellings h, ih, ← List.filter_append,
      List.singleton_append]

/-- A call adds to what a subscriber was told the notices that it wants. -/
theorem Tells.toldTo_eq {notices : List Notice} (h : s.Tells notices s') {x : Subscriber}
    (distinct : s.Distinguishes x) :
    noticesFor x.number s'.told = noticesFor x.number s.told ++ notices.filter x.wants := by
  rw [h.told_eq, noticesFor_append, noticesFor_flatMap distinct]

/-! ## Runs -/

variable {start : Service} {steps : List Step}

theorem Tells.keyed {notices : List Notice} (h : s.Tells notices s') (keyed : s.Keyed) :
    s'.Keyed := by
  rw [Keyed, h.active_eq]
  exact key_of_mem_replay notices keyed

theorem IsNew.active_eq (new : start.IsNew) : start.active = {} := by rw [new]

theorem IsNew.told_eq (new : start.IsNew) : start.told = [] := by rw [new]

/-- In every run the notifications are under their own keys. -/
theorem Run.keyed (new : start.IsNew) (run : Run start steps s) : s.Keyed := by
  induction run with
  | start =>
    rw [Keyed, new.active_eq]
    exact fun p hp => (by cases hp)
  | step _ hperform ih =>
    obtain ⟨notices, htells⟩ := (perform_effect hperform).tells ih
    exact htells.keyed ih

/-- Subscribers come behind those that were there, and none leaves. -/
theorem Run.subscribers_kept (new : start.IsNew) (run : Run start steps s) :
    start.subscribers <+: s.subscribers := by
  induction run with
  | start => exact List.prefix_refl _
  | step run hperform ih =>
    obtain ⟨notices, htells⟩ := (perform_effect hperform).tells (run.keyed new)
    exact ih.trans htells.subscribers_kept

/-- What a subscriber was told, replayed from nothing, is what is active. -/
theorem Run.replay_eq (new : start.IsNew) (run : Run start steps s) {x : Subscriber}
    (present : x ∈ start.subscribers) (distinct : s.Distinguishes x) :
    replay {} (noticesFor x.number s.told) = s.active ∧
      Faithful {} (noticesFor x.number s.told) := by
  induction run with
  | start =>
    rw [new.told_eq, new.active_eq]
    exact ⟨rfl, trivial⟩
  | step run hperform ih =>
    obtain ⟨notices, htells⟩ := (perform_effect hperform).tells (run.keyed new)
    have hx := (run.subscribers_kept new).subset present
    have hbefore := distinct.of_joined htells.subscribers_kept hx
    obtain ⟨hactive, hfaithful⟩ := ih hbefore
    rw [htells.toldTo_eq hbefore, replay_append, hactive, replay_filter]
    refine ⟨htells.active_eq.symm, hfaithful.append ?_⟩
    rw [hactive]
    exact htells.faithful.filter x

/-- What the subscribers were told in a step. -/
def Step.told (step : Step) : List Telling := step.after.told.drop step.before.told.length

/-- Whatever a step tells to go away was there before it. -/
theorem Run.stored (new : start.IsNew) (run : Run start steps s) {step : Step}
    (hstep : step ∈ steps) {telling : Telling} (htelling : telling ∈ step.told)
    {n : Notification} (hn : telling.notice = .canceled n) :
    step.before.active.get? n.key = some n := by
  induction run with
  | start => cases hstep
  | step run hperform ih =>
    rcases List.mem_append.1 hstep with hstep | hstep
    · exact ih hstep
    · rw [List.mem_singleton.1 hstep] at htelling ⊢
      obtain ⟨notices, htells⟩ := (perform_effect hperform).tells (run.keyed new)
      rw [Step.told, htells.told_eq, List.drop_left] at htelling
      obtain ⟨notice, hnotice, htelling⟩ := List.mem_flatMap.1 htelling
      obtain ⟨y, -, rfl⟩ := List.mem_map.1 htelling
      exact htells.stored n (hn ▸ hnotice)

/-- The count of a bundle is the number of its notifications. -/
theorem Keyed.countOf_eq (keyed : s.Keyed) (bundle : Bundle) :
    s.countOf bundle = (s.activeOf bundle).length := by
  rw [keyed.activeOf_eq, countOf, Table.keys, List.countP_map, List.countP_eq_length_filter,
    notificationsOf, Table.values, List.length_map]
  rfl

/-- A subscriber that was there from the start can replay what it is told and so has all that is
active, in the order of the keys.  Each notification that it is told to go away is there with
that very record, in the copy and in the service. -/
theorem Run.mirrored (new : start.IsNew) (run : Run start steps s) {x : Subscriber}
    (present : x ∈ start.subscribers) (distinct : s.Distinguishes x) :
    (replay {} (noticesFor x.number s.told)).values = s.all ∧
      ((s.all.map Notification.key).Pairwise fun a b => compare a b = .lt) ∧
      (∀ before n behind, noticesFor x.number s.told = before ++ .canceled n :: behind →
        (replay {} before).get? n.key = some n) ∧
      (∀ step ∈ steps, ∀ telling ∈ step.told, ∀ n, telling.notice = .canceled n →
        step.before.active.get? n.key = some n) ∧
      ∀ bundle, s.activeOf bundle = s.all.filter (fun n => n.bundle.name == bundle.name) ∧
        s.countOf bundle = (s.activeOf bundle).length := by
  have keyed := run.keyed new
  obtain ⟨hactive, hfaithful⟩ := run.replay_eq new present distinct
  refine ⟨by rw [hactive]; rfl, keys_ascending keyed, fun before n behind htold => ?_,
    fun step hstep telling htelling n hn => run.stored new hstep htelling hn,
    fun bundle => ⟨rfl, keyed.countOf_eq bundle⟩⟩
  rw [htold] at hfaithful
  exact hfaithful.get?_eq

/-- Notes of two bundles come and go: one is replaced, and one that is not there cannot be
taken away.  Another subscriber joins, and quiet hours begin. -/
def notes : List Call :=
  [.publish .kitchen (.note 1 "tea") .first, .publish .cellar (.note 1 "wine") .first,
    .subscribe { number := 1, ignoresQuiet := true }, .publish .kitchen (.note 1 "eggs") .first,
    .setHours { kind := .daily }, .cancel .kitchen 5 "", .publish .kitchen (.note 2 "bread") .first,
    .cancelAll .kitchen]

/-- The first subscriber has a copy of what is left. -/
theorem Run.mirrored_notes :
    ∃ steps s, board.performAll notes = .ok (steps, s) ∧ board.IsNew ∧ Run board steps s ∧
      { number := 0 } ∈ board.subscribers ∧ s.Distinguishes { number := 0 } ∧
      (noticesFor 0 s.told).length = 7 ∧ s.all.map Notification.key = [⟨"cellar", 1, ""⟩] ∧
      (replay {} (noticesFor 0 s.told)).values = s.all := by
  have hend : (board.performAll notes).map (fun r =>
      (r.2.subscribers, (noticesFor 0 r.2.told).length, r.2.all.map Notification.key)) =
      .ok ([{ number := 0 }, { number := 1, ignoresQuiet := true }], 7, [⟨"cellar", 1, ""⟩]) := by
    cbv
  obtain ⟨⟨steps, s⟩, hperform, hs⟩ := Except.map_eq_ok.1 hend
  simp only [Prod.mk.injEq] at hs
  obtain ⟨hsubscribers, htold, hkeys⟩ := hs
  have run : Run board steps s := Run.start.performAll hperform
  have present : { number := 0 } ∈ board.subscribers := by decide
  have distinct : s.Distinguishes { number := 0 } := by
    rw [Distinguishes, hsubscribers]
    rfl
  exact ⟨steps, s, hperform, board_isNew, run, present, distinct, htold, hkeys,
    (run.mirrored board_isNew present distinct).1⟩

end Service

end Reminders
