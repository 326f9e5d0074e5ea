import Mathlib
import Reminders.Proofs.Effect

/-!
# When a reminder survives

A reminder that has not expired is never lost by accident.  `Entry.EndedBy` lists
all that ends it: its owner cancels it, it rings or is closed and has no further
ring, or the clock was set and it finds no ring any more.

`perform_survives` says that every other operation keeps it, whether the operation
succeeds or fails and whatever it does to other reminders.  The owner then finds
the reminder once, as it was published, in the order of the ids.  As an
equivalence it also says that none of the listed cases keeps the reminder.
-/

namespace Reminders

namespace Entry

/-- Whether an operation ends an entry that has not expired. -/
def EndedBy (e : Entry) : Operation → Prop
  | .cancel bundle id => e.id = id ∧ e.isOwnedBy bundle
  | .cancelAll bundle => e.isOwnedBy bundle
  | .fireDue now => e.isDue now ∧ e.LastRing now
  | .close id now =>
      e.id = id ∧ e.status.isShowing ∧ e.request.nextTrigger now = .ok (.ok none)
  | .refresh now => e.LooksAnew now ∧ e.request.firstTrigger now = .ok (.ok none)
  | .publish _ _ _ | .snooze _ _ | .silence _ | .purge => False

/-- Whether a schedule has the entry, not expired and as it was published. -/
def SurvivesIn (e : Entry) (s : Schedule) : Prop :=
  ∃ e' ∈ s.entries, e'.expired = false ∧ e'.publication = e.publication

/-- A batch expires what rings for the last time. -/
theorem Fires.expired_iff {e e' : Entry} {now : DateTime} (h : e.Fires now e')
    (live : e.expired = false) : e'.expired ↔ e.isDue now ∧ e.LastRing now := by
  cases h with
  | kept hdue => simp [live, hdue]
  | covered hdue => simp [live, hdue]
  | rang hdue hrung => simp [hdue, rung_expired_iff hrung]
  | @hidden r hdue hrung =>
    have hexpired : r.expired ↔ e.LastRing now := rung_expired_iff hrung
    simp [hdue, hexpired]

end Entry

namespace Schedule

variable {s s' : Schedule} {operation : Operation} {answer : Answer} {e : Entry}

/-! ## Survival of a move -/

/-- With distinct ids an entry survives if what it moves to is kept and has not expired. -/
theorem Moved.survivesIn_iff {moves : Entry → Entry → Prop} {keep : Entry → Bool} {P : Prop}
    (h : s.Moved moves keep s') (distinct : (s.entries.map Entry.id).Nodup)
    (hpublication : ∀ x x', moves x x' → x'.publication = x.publication) (he : e ∈ s.entries)
    (hP : ∀ e', moves e e' → (keep e' ∧ e'.expired = false ↔ P)) : e.SurvivesIn s' ↔ P := by
  constructor
  · rintro ⟨e', he', live', hpub⟩
    obtain ⟨hkeep, x, hx, hmoves⟩ := h.mem he'
    have hid : x.publication = e.publication := (hpublication x e' hmoves).symm.trans hpub
    have hxe : x = e := eq_of_id_eq distinct hx he (congrArg Publication.id hid)
    rw [hxe] at hmoves
    exact (hP e' hmoves).1 ⟨hkeep, live'⟩
  · intro hp
    obtain ⟨e', hmoves, hmem⟩ := h.of_mem he
    obtain ⟨hkeep, live'⟩ := (hP e' hmoves).2 hp
    exact ⟨e', hmem hkeep, live', hpublication e e' hmoves⟩

theorem survivesIn_purge (he : e ∈ s.entries) (live : e.expired = false) :
    e.SurvivesIn s.purge.1 := by
  refine ⟨e, List.mem_filter.2 ⟨he, ?_⟩, live, rfl⟩
  rw [Entry.not_isOver_of_live live]
  rfl

/-- With distinct ids a reminder survives the dropping of others, and not its own. -/
theorem survivesIn_drop_iff {p : Entry → Bool} (distinct : (s.entries.map Entry.id).Nodup)
    (he : e ∈ s.entries) (live : e.expired = false) :
    e.SurvivesIn (s.drop p).1 ↔ ¬ p e := by
  refine (s.drop_moved p).survivesIn_iff distinct (fun _ _ hx => by rw [hx]) he fun e' he' => ?_
  rw [he']
  simp [live]

/-- A change of another entry, or one after which the entry has not expired. -/
theorem Replaced.survivesIn {id : Int32} {x changed : Entry} {keep : Entry → Bool}
    (h : s.Replaced id x changed keep s') (distinct : (s.entries.map Entry.id).Nodup)
    (hpublication : changed.publication = x.publication) (he : e ∈ s.entries)
    (hkeep : ∀ y, y.expired = false → keep y) (live : e.expired = false)
    (hchanged : x = e → changed.expired = false) : e.SurvivesIn s' := by
  refine (h.moved.survivesIn_iff (P := True) distinct ?_ he ?_).2 trivial
  · rintro y y' (rfl | ⟨rfl, rfl⟩)
    · rfl
    · exact hpublication
  · rintro e' (rfl | ⟨hx, rfl⟩)
    · simp [hkeep _ live, live]
    · simp [hkeep _ (hchanged hx.symm), hchanged hx.symm]

theorem get?_of_mem (distinct : (s.entries.map Entry.id).Nodup) (he : e ∈ s.entries) :
    s.get? e.id = some e := by
  cases hget : s.get? e.id with
  | none =>
    have hne := List.find?_eq_none.1 hget e he
    simp at hne
  | some x =>
    have hid := List.find?_some hget
    simp only [beq_iff_eq] at hid
    rw [eq_of_id_eq distinct (List.mem_of_find?_eq_some hget) he hid]

/-- Closing a reminder that has a further ring, or whose rings cannot be looked up, ends none. -/
theorem not_endedBy_close {id : Int32} {now : DateTime} {x : Entry}
    (distinct : (s.entries.map Entry.id).Nodup) (he : e ∈ s.entries) (hget : s.get? id = some x)
    (hnext : x.request.nextTrigger now ≠ .ok (.ok none)) : ¬ e.EndedBy (.close id now) := by
  rintro ⟨rfl, -, hnone⟩
  rw [get?_of_mem distinct he] at hget
  cases hget
  exact hnext hnone

/-! ## Survival of an operation -/

/-- Whatever the effect, a reminder survives unless the operation is one that ends it. -/
theorem Effect.survivesIn_iff (h : s.Effect operation answer s')
    (distinct : (s.entries.map Entry.id).Nodup) (he : e ∈ s.entries) (live : e.expired = false) :
    e.SurvivesIn s' ↔ ¬ e.EndedBy operation := by
  have hsame : e.SurvivesIn s := ⟨e, he, live, rfl⟩
  have hover : ∀ y : Entry, y.expired = false → !y.isOver := fun y hy => by
    rw [Entry.not_isOver_of_live hy]
    rfl
  cases h with
  | refused => exact iff_of_true hsame id
  | refusedThen => exact iff_of_true (survivesIn_purge he live) id
  | published =>
    refine iff_of_true ?_ id
    obtain ⟨e', he', hlive'⟩ := survivesIn_purge he live
    exact ⟨e', List.mem_append_left _ he', hlive'⟩
  | cancelled =>
    rw [survivesIn_drop_iff distinct he live]
    simp [Entry.EndedBy]
  | cancelledAll => exact survivesIn_drop_iff distinct he live
  | fired hmoved =>
    refine hmoved.survivesIn_iff distinct (fun _ _ => Entry.Fires.publication) he fun e' hfires => ?_
    rw [Entry.EndedBy, ← hfires.expired_iff live, Bool.not_eq_true]
    exact ⟨fun hboth => hboth.2, fun hlive' => ⟨hover e' hlive', hlive'⟩⟩
  | notSnoozed => exact iff_of_true hsame id
  | snoozed _ _ _ hs' =>
    exact iff_of_true (hs'.survivesIn distinct rfl he (fun _ _ => rfl) live fun _ => rfl) id
  | notClosed hidle =>
    refine iff_of_true hsame ?_
    rintro ⟨rfl, hshowing, -⟩
    exact hidle e (get?_of_mem distinct he) hshowing
  | closedOnly hget _ hnext hs' =>
    refine iff_of_true ?_ (not_endedBy_close distinct he hget (by simp [hnext]))
    refine hs'.survivesIn distinct rfl he (fun _ _ => rfl) live fun hx => ?_
    rw [hx]
    exact live
  | @ended id now x _ _ hget hshowing hnext hs' =>
    refine (hs'.moved_of_distinct distinct).survivesIn_iff distinct ?_ he ?_
    · rintro y y' (⟨-, rfl⟩ | ⟨rfl, rfl⟩)
      · rfl
      · rfl
    · rintro e' (⟨hne, rfl⟩ | ⟨rfl, rfl⟩)
      · exact iff_of_true ⟨hover e' live, live⟩ fun hended => hne hended.1
      · refine iff_of_false (fun hboth => by simp at hboth) fun hkept => ?_
        exact hkept ⟨hs'.2.1, hshowing, hnext⟩
  | renewed hget _ hnext hs' =>
    exact iff_of_true (hs'.survivesIn distinct rfl he hover live fun _ => rfl)
      (not_endedBy_close distinct he hget (by simp [hnext]))
  | notSilenced => exact iff_of_true hsame id
  | silenced _ _ hs' =>
    refine iff_of_true ?_ id
    refine hs'.survivesIn distinct rfl he (fun _ _ => rfl) live fun hx => ?_
    rw [hx]
    exact live
  | refreshed hmoved =>
    refine hmoved.survivesIn_iff distinct (fun _ _ => Entry.refreshed_publication) he
      fun e' hrefreshed => ?_
    rw [Entry.EndedBy, ← Entry.refreshed_expired_iff hrefreshed live, Bool.not_eq_true]
    exact ⟨fun hboth => hboth.2, fun hlive' => ⟨rfl, hlive'⟩⟩
  | purged => exact iff_of_true (survivesIn_purge he live) id

/-! ## The ids afterwards -/

theorem lt_idAfter {id : Int32} (h : id < Int32.maxValue) : id < idAfter id := by
  rw [idAfter, if_neg fun heq => Int32.lt_irrefl (heq ▸ h)]
  rw [Int32.lt_iff_toInt_lt, Int32.toInt_maxValue] at h
  have hle := id.le_toInt
  have hone : (1 : Int32).toInt = 1 := rfl
  rw [Int32.lt_iff_toInt_lt, Int32.toInt_add, hone, Int.bmod_eq_of_le_mul_two (by omega) (by omega)]
  omega

theorem map_publication_id (entries : List Entry) :
    (entries.map Entry.publication).map Publication.id = entries.map Entry.id := by
  rw [List.map_map]
  rfl

/-- As long as the ids have not come round, they stay distinct. -/
theorem Effect.distinct (h : s.Effect operation answer s')
    (distinct : (s.entries.map Entry.id).Nodup) (bounded : ∀ e ∈ s.entries, e.id ≤ s.lastId)
    (below : s.lastId < Int32.maxValue) : (s'.entries.map Entry.id).Nodup := by
  obtain ⟨-, -, hthins⟩ | ⟨bundle, request, now, trigger, rfl, rfl, -, -, -, rfl⟩ := h.thins
  · have hids := hthins.map Publication.id
    rw [map_publication_id, map_publication_id] at hids
    exact distinct.sublist hids
  · simp only [accept, List.map_append, List.map_cons, List.map_nil]
    refine List.nodup_append.2 ⟨?_, List.nodup_singleton _, ?_⟩
    · exact distinct.sublist (List.filter_sublist.map _)
    · intro id hid id' hid' heq
      obtain ⟨e, he, rfl⟩ := List.mem_map.1 hid
      rw [List.mem_singleton.1 hid'] at heq
      have hle := bounded e (List.mem_of_mem_filter he)
      rw [heq] at hle
      exact Int32.lt_irrefl (Int32.lt_of_lt_of_le (lt_idAfter below) hle)

/-! ## What the owner sees -/

/-- The list of valid reminders shows each of them once. -/
theorem valid_perm (s : Schedule) (bundle : Bundle) :
    (s.valid bundle).Perm
      ((s.entries.filter (isValidFor bundle)).map fun e => ⟨e.id, e.request⟩) :=
  List.mergeSort_perm _ _

/-- It shows the live ones of the bundle, as they were published. -/
theorem mem_valid {bundle : Bundle} {p : PublishedReminder} :
    p ∈ s.valid bundle ↔
      ∃ e ∈ s.entries, e.expired = false ∧ e.isOwnedBy bundle ∧
        (⟨e.id, e.request⟩ : PublishedReminder) = p := by
  rw [(s.valid_perm bundle).mem_iff, List.mem_map]
  simp only [List.mem_filter, isValidFor, Bool.and_eq_true, Bool.not_eq_true', and_assoc]

theorem valid_ids_nodup (distinct : (s.entries.map Entry.id).Nodup) (bundle : Bundle) :
    ((s.valid bundle).map PublishedReminder.id).Nodup := by
  rw [((s.valid_perm bundle).map _).nodup_iff, List.map_map]
  exact distinct.sublist (List.filter_sublist.map _)

/-- The owner sees the reminders in the order of their ids. -/
theorem valid_sorted (distinct : (s.entries.map Entry.id).Nodup) (bundle : Bundle) :
    (s.valid bundle).Pairwise fun a b => a.id < b.id := by
  have hsorted : (s.valid bundle).Pairwise fun a b => decide (a.id ≤ b.id) := by
    refine List.pairwise_mergeSort (fun a b c hab hbc => ?_) (fun a b => ?_) _
    · simp only [decide_eq_true_eq] at hab hbc ⊢
      exact Int32.le_trans hab hbc
    · simp only [Bool.or_eq_true, decide_eq_true_eq]
      exact Int32.le_total a.id b.id
  refine (hsorted.and (List.pairwise_map.1 (valid_ids_nodup distinct bundle))).imp ?_
  rintro a b ⟨hle, hne⟩
  exact Int32.lt_of_le_of_ne (of_decide_eq_true hle) hne

/-- The owner sees a reminder that survived once, as it was published. -/
theorem valid_filter (distinct : (s.entries.map Entry.id).Nodup) (survives : e.SurvivesIn s) :
    (s.valid e.bundle).filter (fun p => p.id = e.id) = [⟨e.id, e.request⟩] := by
  obtain ⟨e', he', live', hpub⟩ := survives
  simp only [Entry.publication, Publication.mk.injEq] at hpub
  obtain ⟨hid, hbundle, hrequest⟩ := hpub
  have hids := valid_ids_nodup distinct e.bundle
  have hmem : (⟨e.id, e.request⟩ : PublishedReminder) ∈ s.valid e.bundle :=
    mem_valid.2 ⟨e', he', live', by simp [Entry.isOwnedBy, hbundle], by rw [hid, hrequest]⟩
  have hfilter : ∀ p ∈ s.valid e.bundle,
      decide (p.id = e.id) = decide (p = ⟨e.id, e.request⟩) := by
    intro p hp
    rw [decide_eq_decide]
    exact ⟨fun heq => List.inj_on_of_nodup_map hids hp hmem heq, fun heq => by rw [heq]⟩
  rw [List.filter_congr hfilter, List.filter_eq,
    List.count_eq_one_of_mem (hids.of_map _) hmem, List.replicate_one]

/-- A reminder survives exactly what does not end it, and its owner then sees it once. -/
theorem perform_survives [LocalTime] (distinct : (s.entries.map Entry.id).Nodup)
    (bounded : ∀ e ∈ s.entries, e.id ≤ s.lastId) (below : s.lastId < Int32.maxValue)
    (h : s.perform operation = .ok (s', answer)) (he : e ∈ s.entries) (live : e.expired = false) :
    (e.SurvivesIn s' ↔ ¬ e.EndedBy operation) ∧
      (e.SurvivesIn s' →
        (s'.valid e.bundle).filter (fun p => p.id = e.id) = [⟨e.id, e.request⟩]) ∧
      (s'.valid e.bundle).Pairwise fun a b => a.id < b.id := by
  have heffect := perform_effect h
  have distinct' := heffect.distinct distinct bounded below
  exact ⟨heffect.survivesIn_iff distinct he live, valid_filter distinct',
    valid_sorted distinct' e.bundle⟩

attribute [local instance] LocalTime.universal

/-- The kettles that are due end with their ring, and the one that waits survives it. -/
theorem perform_survives_kettles :
    (kettles.entries.map Entry.id).Nodup ∧ (∀ e ∈ kettles.entries, e.id ≤ kettles.lastId) ∧
      kettles.lastId < Int32.maxValue ∧
      ∃ s' answer, kettles.perform (.fireDue .first) = .ok (s', answer) ∧
        ¬ kettles.entries[1].SurvivesIn s' ∧ kettles.entries[3].SurvivesIn s' ∧
        (s'.valid .kitchen).filter (fun p => p.id = 4) = [⟨4, .minute⟩] := by
  have distinct : (kettles.entries.map Entry.id).Nodup := by decide
  have bounded : ∀ e ∈ kettles.entries, e.id ≤ kettles.lastId := by decide
  have below : kettles.lastId < Int32.maxValue := by decide
  have hend : (kettles.perform (.fireDue .first)).map (fun r => r.1.lastId) = .ok 4 := by cbv
  obtain ⟨⟨s', answer⟩, hperform, -⟩ := Except.map_eq_ok.1 hend
  obtain ⟨hdue, -⟩ :=
    perform_survives distinct bounded below hperform (List.getElem_mem (n := 1) (by decide)) rfl
  obtain ⟨hwaits, hvalid, -⟩ :=
    perform_survives distinct bounded below hperform (List.getElem_mem (n := 3) (by decide)) rfl
  have hlives := hwaits.2 fun hended => absurd hended.1 (by decide)
  exact ⟨distinct, bounded, below, s', answer, hperform,
    fun hsurvives => hdue.1 hsurvives ⟨by decide, .inl rfl⟩, hlives, hvalid hlives⟩

end Schedule

end Reminders
