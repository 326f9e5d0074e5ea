import Reminders.Proofs.Moved

/-!
# Ringing place by place

`fireDue` works on places, which it looks up and sorts beforehand, and each ring
may cover entries before and behind it.  Here its effect is read off entry by
entry, for any schedule.

`Schedule.ringing` holds the due entries with their places, in the order in which
they ring.  `Entry.afterRing` is what one ring does to the entry at a place, and
the rings of a batch follow each other as a fold over `ringing` (`fireDue_eq`).
The fold is then carried out.

* An entry that is not due is covered if any ring of the batch covers it
  (`foldl_afterRing_of_ne`).
* A due entry rings, whatever covered it before, and is covered afterwards if a
  later ring covers it (`foldl_afterRing_of_mem`).

`fireDue_moved` is the summary that most callers need: every entry has moved as
`Entry.Fires` says, and then those that are over are dropped.  A batch comes to its end
if each of its rings does (`exists_fireDue`).
-/

namespace Reminders

/-! ## The entries that ring -/

instance : Std.TransCmp Entry.order :=
  inferInstanceAs (Std.TransCmp (compareLex (compareOn Entry.trigger) (compareOn Entry.id)))

theorem Entry.precedes_total (a b : Entry) : a.precedes b || b.precedes a := by
  by_cases h : a.precedes b
  · simp [h]
  · have hlt : Entry.order b a = .lt := Std.OrientedCmp.lt_of_not_isLE h
    simp [Entry.precedes, hlt]

theorem Entry.precedes_trans {a b c : Entry} (hab : a.precedes b) (hbc : b.precedes c) :
    a.precedes c := by
  have h : (order a c).isLE := Std.TransCmp.isLE_trans hab hbc
  exact h

namespace Schedule

/-- The entries that are due with their places, in the order in which they ring. -/
def ringing (s : Schedule) (now : DateTime) : List (Entry × Nat) :=
  (s.entries.zipIdx.filter fun e => e.1.isDue now).mergeSort fun a b => a.1.precedes b.1

theorem dueAt_eq (s : Schedule) (now : DateTime) : s.dueAt now = (s.ringing now).map (·.2) := rfl

theorem mem_ringing {s : Schedule} {now : DateTime} {e : Entry} {place : Nat} :
    (e, place) ∈ s.ringing now ↔ s.entries[place]? = some e ∧ e.isDue now := by
  rw [ringing, List.mem_mergeSort, List.mem_filter, List.mk_mem_zipIdx_iff_getElem?]

/-- Exactly the due entries ring, each as often as it is stored. -/
theorem ringing_perm (s : Schedule) (now : DateTime) :
    ((s.ringing now).map (·.1)).Perm (s.entries.filter fun e => e.isDue now) := by
  have hfirst : (s.entries.zipIdx.filter fun e => e.1.isDue now).map (·.1) =
      s.entries.filter fun e => e.isDue now := by
    have hfilter := List.filter_map (p := fun e : Entry => e.isDue now) (f := Prod.fst)
      (l := s.entries.zipIdx)
    rw [List.zipIdx_map_fst] at hfilter
    exact hfilter.symm
  rw [← hfirst]
  exact (List.mergeSort_perm _ _).map _

/-- No place rings twice. -/
theorem ringing_places_nodup (s : Schedule) (now : DateTime) :
    ((s.ringing now).map (·.2)).Nodup := by
  have hplaces : (s.entries.zipIdx.map (·.2)).Nodup := by
    rw [List.zipIdx_map_snd]
    exact List.nodup_range'
  have hperm := (List.mergeSort_perm (s.entries.zipIdx.filter fun e => e.1.isDue now)
    fun a b => a.1.precedes b.1).map (·.2)
  exact hperm.nodup_iff.2 (hplaces.sublist (List.filter_sublist.map _))

/-- The rings come by trigger, and by id where triggers are equal. -/
theorem ringing_sorted (s : Schedule) (now : DateTime) :
    (s.ringing now).Pairwise fun a b => a.1.precedes b.1 := by
  refine List.pairwise_mergeSort (fun a b c hab hbc => ?_) (fun a b => ?_) _
  · exact Entry.precedes_trans hab hbc
  · exact Entry.precedes_total a.1 b.1

end Schedule

/-! ## One ring -/

namespace Entry

/-- The entry at a place once an entry rang, which may be the one at that place. -/
def afterRing (now : DateTime) (place : Nat) (e : Entry) (ring : Entry × Nat) : Entry :=
  if ring.2 = place then (e.rung now).1 else e.coveredBy ring.1

/-- The entry once some others rang. -/
def coveredByAny (e : Entry) (rings : List Entry) : Entry :=
  if rings.any (·.covers e) && e.status.isShowing then { e with status := .active } else e

/-- An entry off the screen cannot be covered. -/
theorem coveredByAny_of_not_showing {e : Entry} (h : ¬ e.status.isShowing) (rings : List Entry) :
    e.coveredByAny rings = e := by
  simp [coveredByAny, h]

theorem coveredByAny_cons (e ring : Entry) (rings : List Entry) :
    e.coveredByAny (ring :: rings) = (e.coveredBy ring).coveredByAny rings := by
  by_cases hshowing : e.status.isShowing
  · by_cases hcovers : ring.covers e
    · have hcovered : e.coveredBy ring = { e with status := .active } := by
        simp [coveredBy, hcovers, hshowing]
      rw [hcovered, coveredByAny_of_not_showing (e := { e with status := .active })
        (by simp [ReminderStatus.isShowing])]
      simp [coveredByAny, hcovers, hshowing]
    · have hcovered : e.coveredBy ring = e := by simp [coveredBy, hcovers]
      rw [hcovered]
      simp [coveredByAny, hcovers]
  · have hcovered : e.coveredBy ring = e := by simp [coveredBy, hshowing]
    rw [hcovered, coveredByAny_of_not_showing hshowing, coveredByAny_of_not_showing hshowing]

/-- Rings take a reminder from the screen at most. -/
theorem coveredByAny_eq (e : Entry) (rings : List Entry) :
    e.coveredByAny rings = e ∨
      (e.status.isShowing ∧ e.coveredByAny rings = { e with status := .active }) := by
  rw [coveredByAny]
  split
  case isTrue h => exact .inr ⟨(Bool.and_eq_true_iff.1 h).2, rfl⟩
  case isFalse => exact .inl rfl

/-- Rings elsewhere cover an entry, or leave it alone. -/
theorem foldl_afterRing_of_ne {now : DateTime} {place : Nat} {rings : List (Entry × Nat)}
    (h : ∀ r ∈ rings, r.2 ≠ place) (e : Entry) :
    rings.foldl (afterRing now place) e = e.coveredByAny (rings.map (·.1)) := by
  induction rings generalizing e with
  | nil => rfl
  | cons r rest ih =>
    have hr : e.afterRing now place r = e.coveredBy r.1 := if_neg (h r (by simp))
    rw [List.foldl_cons, hr, ih (fun r' hr' => h r' (by simp [hr'])), List.map_cons,
      coveredByAny_cons]

/-- The ring of the entry itself makes it forget the rings before, so only later ones count. -/
theorem foldl_afterRing_of_mem {now : DateTime} {place : Nat} {r : Entry}
    {before behind : List (Entry × Nat)}
    (h : ((before ++ (r, place) :: behind).map (·.2)).Nodup) (e : Entry) :
    (before ++ (r, place) :: behind).foldl (afterRing now place) e =
      (e.rung now).1.coveredByAny (behind.map (·.1)) := by
  rw [List.map_append, List.map_cons, List.nodup_append, List.nodup_cons] at h
  obtain ⟨-, ⟨hbehind, -⟩, hbefore⟩ := h
  have hne : ∀ q ∈ before, q.2 ≠ place := fun q hq =>
    hbefore q.2 (List.mem_map_of_mem hq) place (by simp)
  have hne' : ∀ q ∈ behind, q.2 ≠ place := fun q hq heq =>
    hbehind (List.mem_map.2 ⟨q, hq, heq⟩)
  have hring : (e.coveredByAny (before.map (·.1))).afterRing now place (r, place) =
      (e.rung now).1 := by
    rw [afterRing, if_pos rfl]
    obtain heq | ⟨-, heq⟩ := e.coveredByAny_eq (before.map (·.1))
    · rw [heq]
    · rw [heq, rung_of_status]
  rw [List.foldl_append, List.foldl_cons, foldl_afterRing_of_ne hne, hring,
    foldl_afterRing_of_ne hne']

end Entry

/-! ## A batch of rings -/

namespace Schedule

/-- A ring moves its own reminder, covers those that share its notification, and alerts. -/
theorem ringAt_eq [LocalTime] {now : DateTime} {entries entries' : List Entry} {r : Entry × Nat}
    {alert : Option Alert} (hr : ∃ status, entries[r.2]? = some { r.1 with status })
    (h : ringAt now entries r.2 = (entries', .ok alert)) :
    entries' = entries.mapIdx (fun place e => e.afterRing now place r) ∧
      alert = some (r.1.shownAt now).alert ∧ (r.1.rung now).2 = .ok () := by
  obtain ⟨status, hget⟩ := hr
  rw [ringAt, hget] at h
  simp only [Entry.rung_of_status, Prod.mk.injEq] at h
  obtain ⟨hentries, halert⟩ := h
  obtain ⟨_, hok, halert⟩ := Except.map_eq_ok.1 halert
  refine ⟨?_, ?_, hok⟩
  · rw [← hentries]
    refine List.ext_getElem? fun place => ?_
    rw [List.getElem?_set, List.getElem?_mapIdx, List.getElem?_map, List.length_map]
    by_cases hplace : r.2 = place
    · subst hplace
      have hlt : r.2 < entries.length := (List.getElem?_eq_some_iff.1 hget).1
      rw [if_pos rfl, if_pos hlt, hget, Option.map_some, Entry.afterRing, if_pos rfl]
      rfl
    · rw [if_neg hplace]
      congr 1
      funext other
      rw [Entry.afterRing, if_neg hplace]
      exact Entry.coveredBy_congr rfl rfl rfl other
  · rw [← halert, Entry.rung_alert]

/-- A ring elsewhere leaves an entry what it is, except for its status. -/
theorem exists_status_afterRing {now : DateTime} {entries : List Entry} {r q : Entry × Nat}
    (hne : r.2 ≠ q.2) (hq : ∃ status, entries[q.2]? = some { q.1 with status }) :
    ∃ status, (entries.mapIdx fun place e => e.afterRing now place r)[q.2]? =
      some { q.1 with status } := by
  obtain ⟨status, hget⟩ := hq
  rw [List.getElem?_mapIdx, hget, Option.map_some, Entry.afterRing, if_neg hne]
  obtain heq | ⟨-, heq⟩ := Entry.coveredBy_eq { q.1 with status } r.1
  · exact ⟨status, by rw [heq]⟩
  · exact ⟨.active, by rw [heq]⟩

/-- A batch does so for one ring behind the other. -/
theorem ringAll_eq [LocalTime] {now : DateTime} {entries entries' : List Entry}
    {rings : List (Entry × Nat)} {alerts : List Alert}
    (hrings : ∀ r ∈ rings, ∃ status, entries[r.2]? = some { r.1 with status })
    (hplaces : (rings.map (·.2)).Nodup)
    (h : ringAll now entries (rings.map (·.2)) = (entries', .ok alerts)) :
    entries' = entries.mapIdx (fun place e => rings.foldl (Entry.afterRing now place) e) ∧
      alerts = rings.map (fun r => (r.1.shownAt now).alert) ∧
      ∀ r ∈ rings, (r.1.rung now).2 = .ok () := by
  induction rings generalizing entries entries' alerts with
  | nil =>
    cases h
    refine ⟨List.ext_getElem? fun place => ?_, rfl, by simp⟩
    simp [List.getElem?_mapIdx]
  | cons r rest ih =>
    rw [List.map_cons, List.nodup_cons] at hplaces
    rw [List.map_cons, ringAll] at h
    split at h
    case h_1 => cases h
    case h_2 entries₁ alert hone =>
      obtain ⟨rfl, rfl, hok⟩ := ringAt_eq (hrings r (by simp)) hone
      simp only [Prod.mk.injEq] at h
      obtain ⟨hentries, halerts⟩ := h
      obtain ⟨others, hothers, rfl⟩ := Except.map_eq_ok.1 halerts
      have hrest : ∀ q ∈ rest, ∃ status,
          (entries.mapIdx fun place e => e.afterRing now place r)[q.2]? =
            some { q.1 with status } := by
        intro q hq
        refine exists_status_afterRing (fun heq => ?_) (hrings q (by simp [hq]))
        exact hplaces.1 (heq ▸ List.mem_map_of_mem hq)
      obtain ⟨hentries', hothers', hoks⟩ :=
        ih hrest hplaces.2 (Prod.ext hentries hothers)
      refine ⟨?_, ?_, ?_⟩
      · rw [hentries', List.mapIdx_mapIdx]
        rfl
      · rw [hothers']
        rfl
      · intro q hq
        obtain rfl | hq := List.mem_cons.1 hq
        · exact hok
        · exact hoks q hq

/-- What ringing comes to: the entries, place by place, and the alerts. -/
theorem fireDue_eq [LocalTime] {s s' : Schedule} {now : DateTime} {alerts : List Alert}
    (h : s.fireDue now = (s', .ok alerts)) :
    s' = { s with
        entries := (s.entries.mapIdx fun place e =>
          (s.ringing now).foldl (Entry.afterRing now place) e).filter fun e => !e.isOver } ∧
      alerts = (s.ringing now).map (fun r => (r.1.shownAt now).alert) ∧
      ∀ r ∈ s.ringing now, (r.1.rung now).2 = .ok () := by
  rw [fireDue, dueAt_eq] at h
  split at h
  case h_1 => cases h
  case h_2 entries' alerts' hall =>
    cases h
    have hrings : ∀ r ∈ s.ringing now, ∃ status, s.entries[r.2]? = some { r.1 with status } :=
      fun r hr => ⟨r.1.status, (mem_ringing.1 hr).1⟩
    obtain ⟨rfl, halerts, hoks⟩ := ringAll_eq hrings (s.ringing_places_nodup now) hall
    exact ⟨rfl, halerts, hoks⟩

/-- Ringing comes to its end if each single ring does. -/
theorem exists_ringAll [LocalTime] {now : DateTime} {entries : List Entry}
    {rings : List (Entry × Nat)}
    (hrings : ∀ r ∈ rings, ∃ status, entries[r.2]? = some { r.1 with status })
    (hplaces : (rings.map (·.2)).Nodup) (hoks : ∀ r ∈ rings, (r.1.rung now).2 = .ok ()) :
    ∃ entries' alerts, ringAll now entries (rings.map (·.2)) = (entries', .ok alerts) := by
  induction rings generalizing entries with
  | nil => exact ⟨entries, [], rfl⟩
  | cons r rest ih =>
    rw [List.map_cons, List.nodup_cons] at hplaces
    obtain ⟨entries₁, alert, hone⟩ :
        ∃ entries₁ alert, ringAt now entries r.2 = (entries₁, .ok alert) := by
      obtain ⟨status, hget⟩ := hrings r (by simp)
      rw [ringAt, hget]
      simp only [Entry.rung_of_status, hoks r (by simp)]
      exact ⟨_, _, rfl⟩
    obtain ⟨rfl, -, -⟩ := ringAt_eq (hrings r (by simp)) hone
    have hrest : ∀ q ∈ rest, ∃ status,
        (entries.mapIdx fun place e => e.afterRing now place r)[q.2]? =
          some { q.1 with status } := by
      intro q hq
      refine exists_status_afterRing (fun heq => ?_) (hrings q (by simp [hq]))
      exact hplaces.1 (heq ▸ List.mem_map_of_mem hq)
    obtain ⟨entries', alerts, hall⟩ := ih hrest hplaces.2 fun q hq => hoks q (by simp [hq])
    rw [List.map_cons, ringAll, hone]
    simp only [hall]
    exact ⟨_, _, rfl⟩

/-- A batch comes to its end if each of its rings does. -/
theorem exists_fireDue [LocalTime] {s : Schedule} {now : DateTime}
    (hrungs : ∀ e ∈ s.entries, e.isDue now → (e.rung now).2 = .ok ()) :
    ∃ s' alerts, s.fireDue now = (s', .ok alerts) := by
  have hrings : ∀ r ∈ s.ringing now, s.entries[r.2]? = some r.1 ∧ r.1.isDue now :=
    fun r hr => mem_ringing.1 hr
  obtain ⟨entries, alerts, hall⟩ := exists_ringAll
    (fun r hr => ⟨r.1.status, (hrings r hr).1⟩) (s.ringing_places_nodup now)
    (fun r hr => hrungs r.1 (List.mem_of_getElem? (hrings r hr).1) (hrings r hr).2)
  rw [fireDue, dueAt_eq, hall]
  exact ⟨_, _, rfl⟩

/-! ## Entry by entry -/

/-- What is not due is covered at most. -/
theorem afterRings_of_not_due {s : Schedule} {now : DateTime} {place : Nat} {e : Entry}
    (hget : s.entries[place]? = some e) (hdue : ¬ e.isDue now) :
    (s.ringing now).foldl (Entry.afterRing now place) e =
      e.coveredByAny ((s.ringing now).map (·.1)) := by
  refine Entry.foldl_afterRing_of_ne (fun r hr heq => ?_) e
  obtain ⟨hget', hdue'⟩ := mem_ringing.1 (show (r.1, r.2) ∈ s.ringing now from hr)
  rw [heq, hget] at hget'
  cases hget'
  exact hdue hdue'

/-- What is due rings once, and may be covered by the rings behind its own. -/
theorem afterRings_of_due {s : Schedule} {now : DateTime} {place : Nat} {e : Entry}
    (hget : s.entries[place]? = some e) (hdue : e.isDue now) :
    ∃ before behind, s.ringing now = before ++ (e, place) :: behind ∧
      (s.ringing now).foldl (Entry.afterRing now place) e =
        (e.rung now).1.coveredByAny (behind.map (·.1)) := by
  obtain ⟨before, behind, hsplit⟩ := List.append_of_mem (mem_ringing.2 ⟨hget, hdue⟩)
  refine ⟨before, behind, hsplit, ?_⟩
  have hplaces := s.ringing_places_nodup now
  rw [hsplit] at hplaces ⊢
  exact Entry.foldl_afterRing_of_mem hplaces e

end Schedule

/-- What a batch of rings makes of an entry, whether or not it is then dropped. -/
inductive Entry.Fires (now : DateTime) (e : Entry) : Entry → Prop where
  /-- It was not due, and no ring covered it. -/
  | kept : ¬ e.isDue now → Fires now e e
  /-- It was not due, and a ring took it off the screen. -/
  | covered : ¬ e.isDue now → e.status.isShowing → Fires now e { e with status := .active }
  /-- It rang. -/
  | rang {r : Entry} : e.isDue now → e.rung now = (r, .ok ()) → Fires now e r
  /-- It rang, and a later ring took it off the screen. -/
  | hidden {r : Entry} : e.isDue now → e.rung now = (r, .ok ()) →
      Fires now e { r with status := .active }

theorem Entry.Fires.publication {now : DateTime} {e e' : Entry} (h : e.Fires now e') :
    e'.publication = e.publication := by
  cases h with
  | kept => rfl
  | covered => rfl
  | rang _ hrung => rw [← e.rung_publication now, hrung]
  | @hidden r _ hrung =>
    have hr : r.publication = e.publication := by rw [← e.rung_publication now, hrung]
    exact hr

/-- Behind a batch nothing is due at the same moment. -/
theorem Entry.Fires.not_isDue {now : DateTime} {e e' : Entry} (h : e.Fires now e') :
    ¬ e'.isDue now := by
  cases h with
  | kept hdue => exact hdue
  | covered hdue _ => exact hdue
  | rang _ hrung => exact not_isDue_of_rung hrung
  | @hidden r _ hrung =>
    have hdue : ¬ r.isDue now := not_isDue_of_rung hrung
    exact hdue

namespace Schedule

/-- A batch keeps, covers or rings each reminder, and may cover it behind its ring. -/
theorem fires_afterRings [LocalTime] {s s' : Schedule} {now : DateTime} {alerts : List Alert}
    (h : s.fireDue now = (s', .ok alerts)) {place : Nat} {e : Entry}
    (hget : s.entries[place]? = some e) :
    e.Fires now ((s.ringing now).foldl (Entry.afterRing now place) e) := by
  by_cases hdue : e.isDue now
  · have hok := (fireDue_eq h).2.2 (e, place) (mem_ringing.2 ⟨hget, hdue⟩)
    have hrung : e.rung now = ((e.rung now).1, .ok ()) := Prod.ext rfl hok
    obtain ⟨_, behind, -, hfold⟩ := afterRings_of_due hget hdue
    rw [hfold]
    obtain heq | ⟨-, heq⟩ := (e.rung now).1.coveredByAny_eq (behind.map (·.1))
    · rw [heq]
      exact .rang hdue hrung
    · rw [heq]
      exact .hidden hdue hrung
  · rw [afterRings_of_not_due hget hdue]
    obtain heq | ⟨hshowing, heq⟩ := e.coveredByAny_eq ((s.ringing now).map (·.1))
    · rw [heq]
      exact .kept hdue
    · rw [heq]
      exact .covered hdue hshowing

/-- A batch moves every reminder by itself, and purges. -/
theorem fireDue_moved [LocalTime] {s s' : Schedule} {now : DateTime} {alerts : List Alert}
    (h : s.fireDue now = (s', .ok alerts)) :
    s.Moved (Entry.Fires now) (fun e => !e.isOver) s' := by
  obtain ⟨rfl, -, -⟩ := fireDue_eq h
  refine ⟨rfl, _, ?_, rfl⟩
  refine List.forall₂_iff_get.2 ⟨by simp, fun place hplace hplace' => ?_⟩
  simp only [List.get_eq_getElem, List.getElem_mapIdx]
  exact fires_afterRings h (List.getElem?_eq_getElem hplace)

/-! ## Nothing to ring -/

variable {s s' : Schedule} {now : DateTime}

theorem purge_eq_self (h : ∀ x ∈ s.entries, ¬ x.isOver) : s.purge.1 = s := by
  have hentries : s.entries.filter (fun x => !x.isOver) = s.entries :=
    List.filter_eq_self.2 fun x hx => by simpa using h x hx
  rw [purge, drop, hentries]

/-- Where nothing rings nothing changes. -/
theorem fireDue_nil [LocalTime] (hover : ∀ x ∈ s.entries, ¬ x.isOver)
    (h : s.fireDue now = (s', .ok [])) : s' = s := by
  obtain ⟨rfl, halerts, -⟩ := fireDue_eq h
  have hringing : s.ringing now = [] := List.map_eq_nil_iff.1 halerts.symm
  have hentries : s.entries.mapIdx (fun _ e => e) = s.entries :=
    List.ext_getElem? fun place => by simp [List.getElem?_mapIdx]
  simp only [hringing, List.foldl_nil, hentries]
  exact purge_eq_self hover

/-- Where nothing is due and nothing over, a batch changes nothing. -/
theorem fireDue_of_not_due [LocalTime] (hover : ∀ x ∈ s.entries, ¬ x.isOver)
    (hdue : ∀ x ∈ s.entries, ¬ x.isDue now) : s.fireDue now = (s, .ok []) := by
  obtain ⟨s', alerts, hfire⟩ := exists_fireDue fun x hx hxdue => absurd hxdue (hdue x hx)
  have hringing : s.ringing now = [] := by
    rw [List.eq_nil_iff_forall_not_mem]
    intro r hr
    obtain ⟨hget, hrdue⟩ := mem_ringing.1 hr
    exact hdue r.1 (List.mem_of_getElem? hget) hrdue
  obtain ⟨-, halerts, -⟩ := fireDue_eq hfire
  rw [hringing, List.map_nil] at halerts
  rw [halerts] at hfire
  rw [hfire, fireDue_nil hover hfire]

end Schedule

end Reminders
