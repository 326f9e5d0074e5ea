import Reminders.Proofs.Effect

/-!
# The reminders with an id

The counter of ids can come round, so several reminders may have one id.  They stand in the
order of publication, and `Schedule.latest?` is the last one of them.

`Step.LeavesAlone` says that a step does nothing to the reminders with an id that would change
their rings, apart from ringing itself.  Then only `Entry.Rests` is left of what a step makes
of them if it lets nothing ring (`Effect.rests`).

In such a step, and in a batch of rings, only expired reminders with the id are dropped
(`Schedule.Passes`).  So the latest one keeps its place until it has expired.
-/

namespace Reminders

/-- The last of a row is related to the last of the other. -/
theorem forall₂_concat_left {α β : Type} {R : α → β → Prop} {as : List α} {a : α} {bs : List β}
    (h : List.Forall₂ R (as ++ [a]) bs) :
    ∃ front b, bs = front ++ [b] ∧ List.Forall₂ R as front ∧ R a b := by
  induction as generalizing bs with
  | nil =>
    obtain ⟨b, rest, hab, hrest, rfl⟩ := List.forall₂_cons_left_iff.1 h
    cases hrest
    exact ⟨[], b, rfl, .nil, hab⟩
  | cons a' as ih =>
    rw [List.cons_append] at h
    obtain ⟨b', rest, hab', hrest, rfl⟩ := List.forall₂_cons_left_iff.1 h
    obtain ⟨front, b, rfl, hfront, hab⟩ := ih hrest
    exact ⟨b' :: front, b, rfl, .cons hab' hfront, hab⟩

namespace Schedule

/-- The reminders with an id, in the order of publication. -/
def withId (s : Schedule) (id : Int32) : List Entry := s.entries.filter fun e => e.id == id

/-- The reminder that got an id last. -/
def latest? (s : Schedule) (id : Int32) : Option Entry := (s.withId id).getLast?

variable {s s' s'' : Schedule} {id : Int32} {e : Entry} {moves moves' : Entry → Entry → Prop}
  {keep : Entry → Bool}

theorem mem_withId : e ∈ s.withId id ↔ e ∈ s.entries ∧ e.id = id := by
  rw [withId, List.mem_filter, beq_iff_eq]

theorem mem_of_latest? (h : s.latest? id = some e) : e ∈ s.entries ∧ e.id = id :=
  mem_withId.1 (List.mem_of_getLast? h)

/-- The reminders with an id move like all others. -/
theorem Moved.withId (h : s.Moved moves keep s') (hid : ∀ e e', moves e e' → e'.id = e.id)
    (id : Int32) :
    ∃ moved, List.Forall₂ moves (s.withId id) moved ∧ s'.withId id = moved.filter keep := by
  obtain ⟨-, moved, hmoved, hs'⟩ := h
  refine ⟨moved.filter fun e => e.id == id, ?_, ?_⟩
  · rw [Schedule.withId]
    clear hs'
    generalize s.entries = entries at hmoved
    induction hmoved with
    | nil => exact .nil
    | @cons e e' _ _ hhead _ ih =>
      rw [List.filter_cons, List.filter_cons, hid e e' hhead]
      split
      case isTrue => exact .cons hhead ih
      case isFalse => exact ih
  · rw [Schedule.withId, hs', List.filter_filter, List.filter_filter]
    simp only [Bool.and_comm]

/-! ## Passing on -/

/-- Whether the reminders with an id have moved, and only expired ones were dropped. -/
def Passes (s : Schedule) (id : Int32) (moves : Entry → Entry → Prop) (s' : Schedule) : Prop :=
  ∃ moved keep, List.Forall₂ (fun e e' => moves e e' ∧ (e'.expired = false → keep e'))
    (s.withId id) moved ∧ s'.withId id = moved.filter keep

theorem Passes.congr (h : s.Passes id moves s') (hs'' : s''.withId id = s'.withId id) :
    s.Passes id moves s'' := by
  obtain ⟨moved, keep, hmoved, hs'⟩ := h
  exact ⟨moved, keep, hmoved, hs''.trans hs'⟩

theorem Passes.imp (h : s.Passes id moves s') (himp : ∀ e e', moves e e' → moves' e e') :
    s.Passes id moves' s' := by
  obtain ⟨moved, keep, hmoved, hs'⟩ := h
  exact ⟨moved, keep, hmoved.imp fun e e' he => ⟨himp e e' he.1, he.2⟩, hs'⟩

/-- Where every reminder moves by itself, those with an id do. -/
theorem Moved.passes (h : s.Moved moves keep s') (hid : ∀ e e', moves e e' → e'.id = e.id)
    (hmoves : ∀ e ∈ s.withId id, ∀ e', moves e e' →
      moves' e e' ∧ (e'.expired = false → keep e')) : s.Passes id moves' s' := by
  obtain ⟨moved, hmoved, hs'⟩ := h.withId hid id
  refine ⟨moved, keep, ?_, hs'⟩
  have hboth := (List.forall₂_and_left (s.withId id) moved).2 ⟨fun _ he => he, hmoved⟩
  exact hboth.imp fun e e' he => hmoves e he.1 e' he.2

theorem Passes.length_le (h : s.Passes id moves s') :
    (s'.withId id).length ≤ (s.withId id).length := by
  obtain ⟨moved, keep, hmoved, hs'⟩ := h
  rw [hs', hmoved.length_eq]
  exact List.length_filter_le _ _

/-- Each reminder with the id came from one. -/
theorem Passes.mem (h : s.Passes id moves s') {e' : Entry} (he' : e' ∈ s'.withId id) :
    ∃ e ∈ s.withId id, moves e e' := by
  obtain ⟨moved, keep, hmoved, hs'⟩ := h
  rw [hs', List.mem_filter] at he'
  obtain ⟨place, hlt, rfl⟩ := List.getElem_of_mem he'.1
  have hplace : place < (s.withId id).length := by
    rw [hmoved.length_eq]
    exact hlt
  exact ⟨_, List.getElem_mem hplace, (hmoved.get hplace hlt).1⟩

/-- The latest reminder with an id is still the latest one, unless it has expired. -/
theorem Passes.latest? (h : s.Passes id moves s') (he : s.latest? id = some e) :
    ∃ e', moves e e' ∧ (e'.expired = false → s'.latest? id = some e') := by
  obtain ⟨moved, keep, hmoved, hs'⟩ := h
  rw [← List.dropLast_append_getLast? e he] at hmoved
  obtain ⟨front, e', rfl, -, hmoves, hkeep⟩ := forall₂_concat_left hmoved
  refine ⟨e', hmoves, fun live => ?_⟩
  rw [Schedule.latest?, hs', List.filter_append, List.filter_singleton, hkeep live]
  exact List.getLast?_concat

end Schedule

/-! ## Steps that leave a reminder alone -/

/-- Whether a step does nothing to the reminders with an id that would change their rings,
apart from ringing itself.  The id is not given away again, and they are neither cancelled, nor
closed or snoozed while they are on screen, nor does a set clock change them. -/
def Step.LeavesAlone (id : Int32) (step : Step) : Prop :=
  match step.operation with
  | .publish _ _ _ => step.publication?.map Publication.id ≠ some id
  | .cancel bundle id' => id' = id → ∀ e ∈ step.before.withId id, ¬ e.isOwnedBy bundle
  | .cancelAll bundle => ∀ e ∈ step.before.withId id, ¬ e.isOwnedBy bundle
  | .snooze id' _ | .close id' _ => id' = id → ∀ e ∈ step.before.withId id, ¬ e.status.isShowing
  | .refresh now => ∀ e ∈ step.before.withId id, e.refreshed now = .ok e
  | .fireDue _ | .silence _ | .purge => True

/-- What a step that leaves a reminder alone makes of it, if it does not let it ring. -/
inductive Entry.Rests (e : Entry) : Entry → Prop where
  | same : Rests e e
  | silenced : e.status = .showing true → Rests e { e with status := .showing false }

/-- What rests does not expire. -/
theorem Entry.Rests.expired_eq {e e' : Entry} (h : e.Rests e') : e'.expired = e.expired := by
  cases h with
  | same => rfl
  | silenced => rfl

namespace Schedule

variable {s s' : Schedule} {id id' : Int32} {operation : Operation} {answer : Answer}

theorem passes_rests_self : s.Passes id Entry.Rests s :=
  ⟨s.withId id, fun _ => true, List.forall₂_same.2 fun _ _ => ⟨.same, fun _ => rfl⟩,
    (List.filter_eq_self.2 fun _ _ => rfl).symm⟩

/-- Dropping other reminders, or expired ones, lets those with the id rest. -/
theorem drop_rests {p : Entry → Bool} (h : ∀ e ∈ s.withId id, e.expired = false → ¬ p e) :
    s.Passes id Entry.Rests (s.drop p).1 := by
  refine (s.drop_moved p).passes (fun _ _ he => by rw [he]) ?_
  rintro e he e' rfl
  exact ⟨.same, fun live => by simpa using h e' he live⟩

theorem purge_rests : s.Passes id Entry.Rests s.purge.1 :=
  drop_rests fun _ _ live => by simp [Entry.not_isOver_of_live live]

/-- Changing another reminder, or silencing one of them, lets those with the id rest. -/
theorem Replaced.rests {e changed : Entry} {keep : Entry → Bool}
    (h : s.Replaced id' e changed keep s') (hid : changed.id = e.id)
    (hchanged : id' = id → e.Rests changed) (hkeep : ∀ x : Entry, x.expired = false → keep x) :
    s.Passes id Entry.Rests s' := by
  refine h.moved.passes ?_ ?_
  · rintro x x' (rfl | ⟨rfl, rfl⟩)
    · rfl
    · exact hid
  · rintro x hx x' (rfl | ⟨rfl, rfl⟩)
    · exact ⟨.same, hkeep x'⟩
    · exact ⟨hchanged (h.2.1.symm.trans (mem_withId.1 hx).2), hkeep x'⟩

/-- A reminder on screen has another id than those that are not. -/
theorem ne_of_isShowing {e : Entry} (hget : s.get? id' = some e) (hshowing : e.status.isShowing)
    (h : id' = id → ∀ x ∈ s.withId id, ¬ x.status.isShowing) : id' ≠ id := by
  rintro rfl
  have hid : e.id = id' := by simpa using List.find?_some hget
  exact h rfl e (mem_withId.2 ⟨List.mem_of_find?_eq_some hget, hid⟩) hshowing

/-- A step that leaves the reminders with an id alone and lets nothing ring drops only what has
expired of them, and changes no more than their alerting. -/
theorem Effect.rests (h : s.Effect operation answer s')
    (halone : Step.LeavesAlone id ⟨s, operation, answer, s'⟩)
    (hquiet : ∀ now, operation ≠ .fireDue now) : s.Passes id Entry.Rests s' := by
  have hlive : ∀ x : Entry, x.expired = false → !x.isOver := fun x live => by
    rw [Entry.not_isOver_of_live live]
    rfl
  cases h with
  | refused => exact passes_rests_self
  | refusedThen => exact purge_rests
  | published =>
    refine purge_rests.congr ?_
    have hne : idAfter s.lastId ≠ id := fun heq => halone (congrArg some heq)
    simp [accept, withId, hne, purge, drop]
  | cancelled =>
    refine drop_rests fun e he _ hdropped => ?_
    simp only [Bool.and_eq_true, beq_iff_eq] at hdropped
    exact halone (hdropped.1.symm.trans (mem_withId.1 he).2) e he hdropped.2
  | cancelledAll => exact drop_rests fun e he _ => halone e he
  | fired => exact absurd rfl (hquiet _)
  | notSnoozed => exact passes_rests_self
  | snoozed hget hshowing _ hs' =>
    exact hs'.rests rfl (absurd · (ne_of_isShowing hget hshowing halone)) fun _ _ => rfl
  | notClosed => exact passes_rests_self
  | closedOnly hget hshowing _ hs' =>
    exact hs'.rests rfl (absurd · (ne_of_isShowing hget hshowing halone)) fun _ _ => rfl
  | ended hget hshowing _ hs' =>
    exact hs'.rests rfl (absurd · (ne_of_isShowing hget hshowing halone)) hlive
  | renewed hget hshowing _ hs' =>
    exact hs'.rests rfl (absurd · (ne_of_isShowing hget hshowing halone)) hlive
  | notSilenced => exact passes_rests_self
  | silenced _ halerting hs' => exact hs'.rests rfl (fun _ => .silenced halerting) fun _ _ => rfl
  | refreshed hmoved =>
    refine hmoved.passes ?_ ?_
    · exact fun _ _ he => congrArg Publication.id (Entry.refreshed_publication he)
    · intro e he e' hrefreshed
      rw [halone e he] at hrefreshed
      cases hrefreshed
      exact ⟨.same, fun _ => rfl⟩
  | purged => exact purge_rests

/-- A batch drops none that has not expired either. -/
theorem fireDue_passes [LocalTime] {now : DateTime} {alerts : List Alert}
    (h : s.fireDue now = (s', .ok alerts)) (id : Int32) : s.Passes id (Entry.Fires now) s' := by
  refine (fireDue_moved h).passes (fun _ _ he => congrArg Publication.id he.publication) ?_
  intro e _ e' hfires
  refine ⟨hfires, fun live => ?_⟩
  rw [Entry.not_isOver_of_live live]
  rfl

end Schedule

end Reminders
