import Mathlib
import Reminders.Proofs.Firing

/-!
# A batch of rings

This is what one call of `fireDue` comes to for a schedule whose ids are distinct.
`Batch` says it without the places and the order of the loop.

* The due entries ring once each, in the order of their moments and then of their
  ids, which `Entry.RingsBefore` compares.
* An entry that rang moves on, so that nothing is due at the same moment again.
* It is on screen afterwards unless a later one of the batch is shown by the same
  notification.  Entries that did not ring leave the screen to those that did.
* What has then expired off the screen is dropped, and the rest keep their order.

`fireDue_batch` puts it together from what comes of the fold over the rings: the alerts,
and what the fold makes of each entry (`become`).  Distinct ids are needed
because an entry does not cover the entries with its own id.
-/

namespace Reminders

/-! ## The order of date times -/

instance : Std.IsLinearOrder DateTime where
  le_refl t := by simp only [DateTime.le_def]; omega
  le_trans t u v := by simp only [DateTime.le_def]; omega
  le_antisymm t u := by
    simp only [DateTime.le_def, ← DateTime.instant_inj]
    omega
  le_total t u := by simp only [DateTime.le_def]; omega

instance : Std.LawfulOrderMin DateTime where
  min_eq_or t u := by
    simp only [min]
    split <;> simp
  le_min_iff t u v := by
    simp only [min]
    split <;> simp only [DateTime.le_def] at * <;> omega

theorem DateTime.compare_eq_lt {t u : DateTime} : compare t u = .lt ↔ t < u := by
  change compare t.instant u.instant = .lt ↔ t.instant < u.instant
  exact Int.compare_eq_lt

/-! ## The order of rings -/

namespace Entry

/-- Whether an entry may stand before another one: entries without a trigger come first, then
the earlier trigger, and of equal triggers the smaller id. -/
def StandsBefore (a b : Entry) : Prop :=
  match a.trigger, b.trigger with
  | none, none => a.id ≤ b.id
  | none, some _ => True
  | some _, none => False
  | some t, some u => t < u ∨ t = u ∧ a.id ≤ b.id

/-- Whether an entry rings before another one of the same batch. -/
def RingsBefore (a b : Entry) : Prop :=
  ∃ t u, a.trigger = some t ∧ b.trigger = some u ∧ (t < u ∨ t = u ∧ a.id < b.id)

/-- Whether two entries are shown by the same notification. -/
def SharesNotification (a b : Entry) : Prop :=
  a.bundle.name = b.bundle.name ∧ a.request.notificationId = b.request.notificationId

theorem RingsBefore.asymm {a b : Entry} (hab : a.RingsBefore b) : ¬ b.RingsBefore a := by
  rintro ⟨u', t', hb, ha, hba⟩
  obtain ⟨t, u, ha', hb', hab⟩ := hab
  rw [ha] at ha'
  rw [hb] at hb'
  cases ha'
  cases hb'
  obtain hlt | ⟨rfl, hid⟩ := hab
  · obtain hlt' | ⟨rfl, -⟩ := hba
    · simp only [DateTime.lt_def] at hlt hlt'
      omega
    · simp only [DateTime.lt_def] at hlt
      omega
  · obtain hlt' | ⟨-, hid'⟩ := hba
    · simp only [DateTime.lt_def] at hlt'
      omega
    · exact Int32.lt_asymm hid hid'

theorem exists_trigger_of_isDue {e : Entry} {now : DateTime} (h : e.isDue now) :
    ∃ t, e.trigger = some t ∧ t ≤ now := by
  simp only [isDue, Bool.and_eq_true] at h
  simpa [Option.any_eq_true] using h.2

/-- The order of the batch is that of trigger and id. -/
theorem precedes_iff {a b : Entry} : a.precedes b ↔ a.StandsBefore b := by
  have hcompare : a.precedes b ↔
      ((compare a.trigger b.trigger).then (compare a.id b.id)).isLE := Iff.rfl
  rw [hcompare, StandsBefore]
  cases a.trigger with
  | none =>
    cases b.trigger with
    | none => exact Std.isLE_compare
    | some u => exact iff_of_true rfl trivial
  | some t =>
    cases b.trigger with
    | none => exact iff_of_false Bool.false_ne_true not_false
    | some u =>
      change ((compare t u).then (compare a.id b.id)).isLE ↔ t < u ∨ t = u ∧ a.id ≤ b.id
      cases htu : compare t u with
      | lt => exact iff_of_true rfl (.inl (DateTime.compare_eq_lt.1 htu))
      | gt =>
        refine iff_of_false Bool.false_ne_true ?_
        rintro (hlt | ⟨rfl, -⟩)
        · rw [DateTime.compare_eq_lt.2 hlt] at htu
          cases htu
        · simp at htu
      | eq =>
        cases Std.LawfulEqCmp.eq_of_compare htu
        have hlt : ¬ t < t := by simp [DateTime.lt_def]
        rw [Ordering.eq_then, Std.isLE_compare]
        simp [hlt]

/-- Two due entries with distinct ids ring one after the other. -/
theorem ringsBefore_of_precedes {a b : Entry} {now : DateTime} (ha : a.isDue now)
    (hb : b.isDue now) (hid : a.id ≠ b.id) (h : a.precedes b) : a.RingsBefore b := by
  obtain ⟨t, ht, -⟩ := exists_trigger_of_isDue ha
  obtain ⟨u, hu, -⟩ := exists_trigger_of_isDue hb
  have hbefore : a.StandsBefore b := precedes_iff.1 h
  simp only [StandsBefore, ht, hu] at hbefore
  refine ⟨t, u, ht, hu, ?_⟩
  obtain hlt | ⟨heq, hle⟩ := hbefore
  · exact .inl hlt
  · exact .inr ⟨heq, Int32.lt_of_le_of_ne hle hid⟩

/-- A ring covers the other reminders that share its notification. -/
theorem covers_iff {e other : Entry} :
    e.covers other ↔ other.id ≠ e.id ∧ other.SharesNotification e := by
  simp [covers, isOwnedBy, SharesNotification, and_assoc]

end Entry

/-! ## The batch -/

/-- What a batch of rings comes to: its alerts and the schedule behind it. -/
structure Batch [LocalTime] (s : Schedule) (now : DateTime) (alerts : List Alert) (s' : Schedule) :
    Prop where
  /-- Each due entry rings once, in order. -/
  alerts_eq : ∃ rings : List Entry, rings.Perm (s.entries.filter fun e => e.isDue now) ∧
    rings.Pairwise Entry.RingsBefore ∧ (alerts = rings.map fun e => (e.shownAt now).alert) ∧
    (alerts.map fun a => (a.bundle, a.id)) = rings.map fun e => (e.bundle, e.id)
  /-- Something rings exactly if the next trigger has come. -/
  alerts_ne_nil : alerts ≠ [] ↔ ∃ t, s.nextTrigger? = some t ∧ t ≤ now
  /-- No id is given away. -/
  lastId_eq : s'.lastId = s.lastId
  /-- Each entry becomes another one, and those that are over are dropped. -/
  entries_eq : ∃ become : Entry → Entry,
    s'.entries = (s.entries.map become).filter (fun e => !e.isOver) ∧
    (∀ e ∈ s.entries, e.isDue now →
      (become e).publication = e.publication ∧ (become e).lastShown = some now ∧
      ((become e).expired ∨ ∃ t, (become e).trigger = some t ∧ now < t) ∧
      ((∃ r ∈ s.entries, r.isDue now ∧ e.RingsBefore r ∧ e.SharesNotification r) →
        (become e).status = .active) ∧
      ((¬ ∃ r ∈ s.entries, r.isDue now ∧ e.RingsBefore r ∧ e.SharesNotification r) →
        (become e).status = .showing true)) ∧
    (∀ e ∈ s.entries, ¬ e.isDue now →
      ((e.status.isShowing ∧ ∃ r ∈ s.entries, r.isDue now ∧ e.SharesNotification r) →
        become e = { e with status := .active }) ∧
      (¬ (e.status.isShowing ∧ ∃ r ∈ s.entries, r.isDue now ∧ e.SharesNotification r) →
        become e = e))
  /-- Nothing is due any more. -/
  none_due : ∀ e ∈ s'.entries, ¬ e.isDue now

namespace Schedule

variable {s s' : Schedule} {now : DateTime} {alerts : List Alert}

theorem mem_rings {e : Entry} :
    e ∈ (s.ringing now).map (·.1) ↔ e ∈ s.entries ∧ e.isDue now := by
  rw [(s.ringing_perm now).mem_iff, List.mem_filter]

/-- With distinct ids no two rings tie, so the order of a batch is strict. -/
theorem rings_pairwise (distinct : (s.entries.map Entry.id).Nodup) :
    ((s.ringing now).map (·.1)).Pairwise Entry.RingsBefore := by
  have hsorted : ((s.ringing now).map (·.1)).Pairwise fun a b => a.precedes b :=
    List.pairwise_map.2 (s.ringing_sorted now)
  have hids : ((s.ringing now).map (·.1)).Pairwise fun a b => a.id ≠ b.id := by
    have hfilter : ((s.entries.filter fun e => e.isDue now).map Entry.id).Nodup :=
      distinct.sublist (List.filter_sublist.map _)
    exact List.pairwise_map.1 (((s.ringing_perm now).map Entry.id).nodup_iff.2 hfilter)
  refine List.Pairwise.imp_of_mem (fun {a b} ha hb hab => ?_) (hsorted.and hids)
  exact Entry.ringsBefore_of_precedes (mem_rings.1 ha).2 (mem_rings.1 hb).2 hab.2 hab.1

/-- The later entries of a batch are those that ring after the one at a place. -/
theorem mem_behind_iff (distinct : (s.entries.map Entry.id).Nodup) {e : Entry} {place : Nat}
    {before behind : List (Entry × Nat)}
    (hsplit : s.ringing now = before ++ (e, place) :: behind) {r : Entry} :
    r ∈ behind.map (·.1) ↔ r ∈ s.entries ∧ r.isDue now ∧ e.RingsBefore r := by
  have hpairwise : ((s.ringing now).map (·.1)).Pairwise Entry.RingsBefore :=
    rings_pairwise distinct
  have hrings : (s.ringing now).map (·.1) = before.map (·.1) ++ e :: behind.map (·.1) := by
    rw [hsplit, List.map_append, List.map_cons]
  rw [hrings, List.pairwise_append, List.pairwise_cons] at hpairwise
  obtain ⟨-, ⟨hbehind, -⟩, hbefore⟩ := hpairwise
  constructor
  · intro hr
    have hmem : r ∈ (s.ringing now).map (·.1) := by simp [hrings, hr]
    exact ⟨(mem_rings.1 hmem).1, (mem_rings.1 hmem).2, hbehind r hr⟩
  · rintro ⟨hr, hdue, her⟩
    have hmem : r ∈ before.map (·.1) ++ e :: behind.map (·.1) := hrings ▸ mem_rings.2 ⟨hr, hdue⟩
    rcases List.mem_append.1 hmem with hr | hr
    · exact absurd her (hbefore r hr e (by simp)).asymm
    · rcases List.mem_cons.1 hr with rfl | hr
      · exact absurd her her.asymm
      · exact hr

/-! ## Whether something rings -/

/-- The next trigger has come exactly if some entry is due. -/
theorem nextTrigger?_le_iff :
    (∃ t, s.nextTrigger? = some t ∧ t ≤ now) ↔ ∃ e ∈ s.entries, e.isDue now := by
  constructor
  · rintro ⟨t, ht, hle⟩
    obtain ⟨e, he, het⟩ := List.mem_filterMap.1 (List.min?_eq_some_iff.1 ht).1
    refine ⟨e, he, ?_⟩
    split at het
    case isTrue => cases het
    case isFalse hlive => simp [Entry.isDue, hlive, het, hle]
  · rintro ⟨e, he, hdue⟩
    obtain ⟨u, hu, hle⟩ := Entry.exists_trigger_of_isDue hdue
    have hlive : e.expired = false := Entry.live_of_isDue hdue
    have hmem : u ∈ s.entries.filterMap fun e => if e.expired then none else e.trigger :=
      List.mem_filterMap.2 ⟨e, he, by simp [hlive, hu]⟩
    obtain ⟨t, ht⟩ := Option.isSome_iff_exists.1 (List.isSome_min?_of_mem hmem)
    refine ⟨t, ht, ?_⟩
    have htu := (List.min?_eq_some_iff.1 ht).2 u hmem
    simp only [DateTime.le_def] at htu hle ⊢
    omega

/-! ## What becomes of an entry -/

/-- What an entry becomes by a batch, whether or not it is then dropped.  Entries
with distinct ids have one place each. -/
def become (s : Schedule) (now : DateTime) (e : Entry) : Entry :=
  (s.ringing now).foldl (Entry.afterRing now (s.entries.idxOf e)) e

theorem entries_nodup (distinct : (s.entries.map Entry.id).Nodup) : s.entries.Nodup :=
  distinct.of_map _

/-- With distinct ids the place of a reminder does not matter, so a batch is a map. -/
theorem mapIdx_eq_map_become (distinct : (s.entries.map Entry.id).Nodup) :
    s.entries.mapIdx (fun place e => (s.ringing now).foldl (Entry.afterRing now place) e) =
      s.entries.map (s.become now) := by
  refine List.ext_getElem (by simp) fun place hplace _ => ?_
  simp only [List.length_mapIdx] at hplace
  rw [List.getElem_mapIdx, List.getElem_map, become,
    (entries_nodup distinct).idxOf_getElem place hplace]

theorem getElem?_idxOf {e : Entry} (he : e ∈ s.entries) :
    s.entries[s.entries.idxOf e]? = some e :=
  List.getElem?_eq_some_iff.2 ⟨List.idxOf_lt_length_of_mem he, List.getElem_idxOf _⟩

/-- A due entry rings, and leaves the screen if a later one takes its notification. -/
theorem become_of_due (distinct : (s.entries.map Entry.id).Nodup) {e : Entry}
    (he : e ∈ s.entries) (hdue : e.isDue now) :
    ((∃ r ∈ s.entries, r.isDue now ∧ e.RingsBefore r ∧ e.SharesNotification r) →
        s.become now e = { (e.rung now).1 with status := .active }) ∧
      ((¬ ∃ r ∈ s.entries, r.isDue now ∧ e.RingsBefore r ∧ e.SharesNotification r) →
        s.become now e = (e.rung now).1) := by
  obtain ⟨before, behind, hsplit, hfold⟩ := afterRings_of_due (getElem?_idxOf he) hdue
  have hcovers : (behind.map (·.1)).any (·.covers (e.rung now).1) ↔
      ∃ r ∈ s.entries, r.isDue now ∧ e.RingsBefore r ∧ e.SharesNotification r := by
    simp only [List.any_eq_true, mem_behind_iff distinct hsplit, Entry.covers_iff]
    constructor
    · rintro ⟨r, ⟨hr, hrdue, her⟩, -, hshares⟩
      exact ⟨r, hr, hrdue, her, by simpa [Entry.SharesNotification] using hshares⟩
    · rintro ⟨r, hr, hrdue, her, hshares⟩
      refine ⟨r, ⟨hr, hrdue, her⟩, fun hid => ?_, by simpa [Entry.SharesNotification] using hshares⟩
      rw [Entry.rung_id] at hid
      rw [eq_of_id_eq distinct he hr hid] at her
      exact her.asymm her
  rw [become, hfold, Entry.coveredByAny, ← hcovers]
  constructor
  · intro h
    rw [if_pos (by simp [h, ReminderStatus.isShowing])]
  · intro h
    rw [if_neg (by simp [h])]

/-- An entry that is not due leaves the screen if a due one takes its notification. -/
theorem become_of_not_due (distinct : (s.entries.map Entry.id).Nodup) {e : Entry}
    (he : e ∈ s.entries) (hdue : ¬ e.isDue now) :
    ((e.status.isShowing ∧ ∃ r ∈ s.entries, r.isDue now ∧ e.SharesNotification r) →
        s.become now e = { e with status := .active }) ∧
      (¬ (e.status.isShowing ∧ ∃ r ∈ s.entries, r.isDue now ∧ e.SharesNotification r) →
        s.become now e = e) := by
  have hcovers : ((s.ringing now).map (·.1)).any (·.covers e) ↔
      ∃ r ∈ s.entries, r.isDue now ∧ e.SharesNotification r := by
    simp only [List.any_eq_true, mem_rings, Entry.covers_iff]
    constructor
    · rintro ⟨r, ⟨hr, hrdue⟩, -, hshares⟩
      exact ⟨r, hr, hrdue, hshares⟩
    · rintro ⟨r, hr, hrdue, hshares⟩
      refine ⟨r, ⟨hr, hrdue⟩, fun hid => ?_, hshares⟩
      rw [eq_of_id_eq distinct he hr hid] at hdue
      exact hdue hrdue
  rw [become, afterRings_of_not_due (getElem?_idxOf he) hdue, Entry.coveredByAny, ← hcovers]
  constructor
  · rintro ⟨hshowing, h⟩
    rw [if_pos (by simp [h, hshowing])]
  · intro h
    rw [if_neg fun hboth => h (Bool.and_eq_true_iff.1 hboth).symm]

/-! ## What comes of `fireDue` -/

/-- The alerts are those of the due entries, in the order in which these ring. -/
theorem exists_rings_of_fireDue [LocalTime] (distinct : (s.entries.map Entry.id).Nodup)
    (fired : s.fireDue now = (s', .ok alerts)) :
    ∃ rings : List Entry, rings.Perm (s.entries.filter fun e => e.isDue now) ∧
      rings.Pairwise Entry.RingsBefore ∧ alerts = rings.map fun e => (e.shownAt now).alert := by
  obtain ⟨-, halerts, -⟩ := fireDue_eq fired
  refine ⟨_, s.ringing_perm now, rings_pairwise distinct, ?_⟩
  rw [halerts, List.map_map]
  rfl

/-- What is over of what the entries become is dropped. -/
theorem fireDue_entries [LocalTime] (distinct : (s.entries.map Entry.id).Nodup)
    (fired : s.fireDue now = (s', .ok alerts)) :
    s'.entries = (s.entries.map (s.become now)).filter fun e => !e.isOver := by
  obtain ⟨hs', -, -⟩ := fireDue_eq fired
  rw [hs', mapIdx_eq_map_become distinct]

/-- A due entry found its next ring, or expired for want of one. -/
theorem rung_of_fireDue [LocalTime] (fired : s.fireDue now = (s', .ok alerts)) {e : Entry}
    (he : e ∈ s.entries) (hdue : e.isDue now) : e.rung now = ((e.rung now).1, .ok ()) := by
  obtain ⟨-, -, hoks⟩ := fireDue_eq fired
  obtain ⟨r, hr, rfl⟩ := List.mem_map.1 (mem_rings.2 ⟨he, hdue⟩)
  exact Prod.ext rfl (hoks r hr)

/-- A call of `fireDue` that comes to its end is a batch of rings. -/
theorem fireDue_batch [LocalTime] (distinct : (s.entries.map Entry.id).Nodup)
    (fired : s.fireDue now = (s', .ok alerts)) : Batch s now alerts s' := by
  obtain ⟨hs', -, -⟩ := fireDue_eq fired
  obtain ⟨rings, hperm, hpairwise, halerts⟩ := exists_rings_of_fireDue distinct fired
  refine ⟨⟨rings, hperm, hpairwise, halerts, ?_⟩, ?_, by rw [hs'],
    ⟨s.become now, fireDue_entries distinct fired, fun e he hdue => ?_,
      fun e he hdue => become_of_not_due distinct he hdue⟩, fun e' he' => ?_⟩
  · rw [halerts, List.map_map]
    rfl
  · rw [nextTrigger?_le_iff, halerts, ne_eq, List.map_eq_nil_iff, List.eq_nil_iff_forall_not_mem]
    simp only [hperm.mem_iff, List.mem_filter, not_forall, not_not]
  · have hahead := Entry.rung_ahead (rung_of_fireDue fired he hdue)
    obtain ⟨hhidden, hshown⟩ := become_of_due distinct he hdue
    by_cases hlater : ∃ r ∈ s.entries, r.isDue now ∧ e.RingsBefore r ∧ e.SharesNotification r
    · rw [hhidden hlater]
      exact ⟨e.rung_publication now, e.rung_lastShown now, hahead,
        fun _ => rfl, fun hnone => absurd hlater hnone⟩
    · rw [hshown hlater]
      exact ⟨e.rung_publication now, e.rung_lastShown now, hahead,
        fun hsome => absurd hsome hlater, fun _ => e.rung_status now⟩
  · obtain ⟨-, e, -, hfires⟩ := (fireDue_moved fired).mem he'
    exact hfires.not_isDue

/-- The kettles once they rang.  The first one left the screen to the second one. -/
def kettlesRung : Schedule where
  lastId := 4
  entries := [((Entry.kettle 2).rung .first).1,
    { Entry.kettle 4 with trigger := DateTime.first.later? 60 }]

attribute [local instance] LocalTime.universal

/-- The alerts of the two kettles that are due. -/
def kettleAlerts : List Alert :=
  [((Entry.kettle 1).shownAt .first).alert, ((Entry.kettle 2).shownAt .first).alert]

theorem fireDue_kettles :
    (kettles.entries.map Entry.id).Nodup ∧
      kettles.fireDue .first = (kettlesRung, .ok kettleAlerts) ∧
      Batch kettles .first kettleAlerts kettlesRung := by
  have distinct : (kettles.entries.map Entry.id).Nodup := by decide
  have fired : kettles.fireDue .first = (kettlesRung, .ok kettleAlerts) := by cbv
  exact ⟨distinct, fired, fireDue_batch distinct fired⟩

end Schedule

end Reminders
