import Mathlib
import Reminders.Proofs.Effect

/-!
# The cap on the reminders of a bundle

A bundle may have 30 reminders that have not expired, but only `publish` counts
them.  A reminder that has expired and is still on screen is not counted, and
`snooze` and `close` make it valid again without counting.  `Revives` says when.

* An operation that revives no reminder of a bundle leaves it with at most 30, or
  with no more than it had (`Effect.count_le`).
* One that does leaves it with one more (`Effect.count_of_revives`).

So the cap can be broken (`not_capped`), and `Run.capped_iff` says which runs keep
it.  They are those in which no reminder of a bundle that is full is revived.
-/

namespace Reminders

namespace Schedule

variable {s s' : Schedule} {operation : Operation} {answer : Answer} {bundle : Bundle}

/-- As many are valid as the list of them shows. -/
theorem valid_length (s : Schedule) (bundle : Bundle) :
    (s.valid bundle).length = s.entries.countP (isValidFor bundle) := by
  rw [valid, List.length_mergeSort, List.length_map, List.countP_eq_length_filter]

/-- Whether an operation makes a reminder of a bundle valid that had expired. -/
def Revives (s : Schedule) (bundle : Bundle) : Operation → Prop
  | .snooze id now => ∃ e t, s.get? id = some e ∧ e.status.isShowing ∧ e.expired ∧
      e.isOwnedBy bundle ∧ Recurrence.afterSeconds? now (snoozeSeconds e.request) = some t
  | .close id now => ∃ e t, s.get? id = some e ∧ e.status.isShowing ∧ e.expired ∧
      e.isOwnedBy bundle ∧ e.request.nextTrigger now = .ok (.ok (some t))
  | _ => False

/-! ## Operations that revive nothing -/

theorem isValidFor_iff {e : Entry} :
    isValidFor bundle e ↔ e.expired = false ∧ e.isOwnedBy bundle := by
  simp [isValidFor]

theorem isOwnedBy_of_publication {e e' : Entry} (h : e'.publication = e.publication) :
    e'.isOwnedBy bundle = e.isOwnedBy bundle := by
  simp only [Entry.publication, Publication.mk.injEq] at h
  rw [Entry.isOwnedBy, Entry.isOwnedBy, h.2.1]

theorem countP_drop_le (s : Schedule) (p q : Entry → Bool) :
    (s.drop p).1.entries.countP q ≤ s.entries.countP q :=
  List.filter_sublist.countP_le

/-- To replace a reminder counts no more, unless it counts one that did not. -/
theorem Replaced.countP_le {id : Int32} {e changed : Entry} {keep p : Entry → Bool}
    (h : s.Replaced id e changed keep s') (hp : p changed → p e) :
    s'.entries.countP p ≤ s.entries.countP p := by
  refine h.moved.countP_le fun x x' hx hpx => ?_
  obtain rfl | ⟨rfl, rfl⟩ := hx
  · exact hpx
  · exact hp hpx

/-- A reminder is taken in only below the limit of its bundle. -/
theorem count_le_of_checkRoom (h : s.checkRoom bundle = .ok ()) :
    s.entries.countP (isValidFor bundle) < 30 := by
  rw [checkRoom] at h
  split at h
  case isTrue => cases h
  case isFalse =>
    split at h
    case isTrue => cases h
    case isFalse hcount => exact Nat.not_le.1 hcount

/-- A bundle that publishes stays within the cap, and the others keep what they had. -/
theorem count_accept {owner : Bundle} {request : ReminderRequest} {trigger : DateTime}
    (hroom : s.purge.1.checkRoom owner = .ok ()) :
    (s.purge.1.accept owner request trigger).entries.countP (isValidFor bundle) ≤
        s.entries.countP (isValidFor bundle) ∨
      (s.purge.1.accept owner request trigger).entries.countP (isValidFor bundle) ≤ 30 := by
  rw [accept, List.countP_append]
  by_cases howner : owner.name = bundle.name
  · have hsame : isValidFor owner = isValidFor bundle := by
      funext e
      rw [isValidFor, isValidFor, Entry.isOwnedBy, Entry.isOwnedBy, howner]
    have hcount := count_le_of_checkRoom hroom
    rw [hsame] at hcount
    rw [List.countP_singleton]
    refine .inr ?_
    split
    · exact hcount
    · exact Nat.le_of_lt hcount
  · refine .inl ?_
    have hle := s.countP_drop_le Entry.isOver (isValidFor bundle)
    rw [List.countP_singleton, if_neg (by simp [isValidFor, Entry.isOwnedBy, howner])]
    exact hle

/-- Unless it revives a reminder, an operation adds none or stays within the cap. -/
theorem Effect.count_le (h : s.Effect operation answer s') (hkeeps : ¬ s.Revives bundle operation) :
    s'.entries.countP (isValidFor bundle) ≤ max (s.entries.countP (isValidFor bundle)) 30 := by
  suffices hle : s'.entries.countP (isValidFor bundle) ≤ s.entries.countP (isValidFor bundle) ∨
      s'.entries.countP (isValidFor bundle) ≤ 30 by omega
  cases h with
  | refused => exact .inl (Nat.le_refl _)
  | refusedThen => exact .inl (s.countP_drop_le _ _)
  | published _ hroom _ => exact count_accept hroom
  | cancelled => exact .inl (s.countP_drop_le _ _)
  | cancelledAll => exact .inl (s.countP_drop_le _ _)
  | fired hmoved =>
    refine .inl (hmoved.countP_le fun e e' hfires hvalid => ?_)
    rw [isValidFor_iff, isOwnedBy_of_publication hfires.publication] at hvalid
    rw [isValidFor_iff]
    refine ⟨?_, hvalid.2⟩
    cases hfires with
    | kept => exact hvalid.1
    | covered => exact hvalid.1
    | rang hdue => exact Entry.live_of_isDue hdue
    | hidden hdue => exact Entry.live_of_isDue hdue
  | notSnoozed => exact .inl (Nat.le_refl _)
  | @snoozed id now t e _ _ hget hshowing hafter hs' =>
    refine .inl (hs'.countP_le fun hvalid => ?_)
    rw [isValidFor_iff] at hvalid ⊢
    refine ⟨Bool.eq_false_iff.2 fun hexpired => ?_, hvalid.2⟩
    exact hkeeps ⟨e, t, hget, hshowing, hexpired, hvalid.2, hafter⟩
  | notClosed => exact .inl (Nat.le_refl _)
  | closedOnly _ _ _ hs' => exact .inl (hs'.countP_le id)
  | ended _ _ _ hs' => exact .inl (hs'.countP_le fun hvalid => by simp [isValidFor] at hvalid)
  | @renewed id now t e _ _ hget hshowing hnext hs' =>
    refine .inl (hs'.countP_le fun hvalid => ?_)
    rw [isValidFor_iff] at hvalid ⊢
    refine ⟨Bool.eq_false_iff.2 fun hexpired => ?_, hvalid.2⟩
    exact hkeeps ⟨e, t, hget, hshowing, hexpired, hvalid.2, hnext⟩
  | notSilenced => exact .inl (Nat.le_refl _)
  | silenced _ _ hs' => exact .inl (hs'.countP_le id)
  | refreshed hmoved =>
    refine .inl (hmoved.countP_le fun e e' hrefreshed hvalid => ?_)
    rw [isValidFor_iff, isOwnedBy_of_publication (Entry.refreshed_publication hrefreshed)] at hvalid
    rw [isValidFor_iff]
    exact ⟨Entry.live_of_refreshed hrefreshed hvalid.1, hvalid.2⟩
  | purged => exact .inl (s.countP_drop_le _ _)

/-! ## Operations that revive a reminder -/

/-- To replace a reminder by one that counts anew counts one more. -/
theorem Replaced.countP_eq_add_one {id : Int32} {e changed : Entry} {keep p : Entry → Bool}
    (h : s.Replaced id e changed keep s') (hkeep : ∀ x, p x → keep x) (he : ¬ p e)
    (hchanged : p changed) : s'.entries.countP p = s.entries.countP p + 1 := by
  obtain ⟨-, -, before, behind, hentries, -, hs'⟩ := h
  have hfilter : (before ++ changed :: behind).countP (fun x => p x && keep x) =
      (before ++ changed :: behind).countP p := by
    refine List.countP_congr fun x _ => ?_
    simp only [Bool.and_eq_true]
    exact ⟨fun hboth => hboth.1, fun hx => ⟨hx, hkeep x hx⟩⟩
  rw [hs', List.countP_filter, hfilter, hentries, List.countP_append, List.countP_append,
    List.countP_cons_of_pos hchanged, List.countP_cons_of_neg he]
  omega

/-- An operation that revives a reminder does not look at the cap. -/
theorem Effect.count_of_revives (h : s.Effect operation answer s')
    (hrevives : s.Revives bundle operation) :
    s'.entries.countP (isValidFor bundle) = s.entries.countP (isValidFor bundle) + 1 := by
  cases operation with
  | snooze id now =>
    obtain ⟨e, t, hget, hshowing, hexpired, howned, hafter⟩ := hrevives
    cases h with
    | notSnoozed hnone =>
      rw [hnone e hget hshowing] at hafter
      cases hafter
    | snoozed hget' _ _ hs' =>
      rw [hget] at hget'
      cases hget'
      refine hs'.countP_eq_add_one (fun _ _ => rfl) ?_ ?_
      · simp [isValidFor, hexpired]
      · exact isValidFor_iff.2 ⟨rfl, howned⟩
  | close id now =>
    obtain ⟨e, t, hget, hshowing, hexpired, howned, hnext⟩ := hrevives
    cases h with
    | notClosed hnone => exact absurd hshowing (hnone e hget)
    | closedOnly hget' _ hnext' _ =>
      rw [hget] at hget'
      cases hget'
      rw [hnext] at hnext'
      cases hnext'
    | ended hget' _ hnext' _ =>
      rw [hget] at hget'
      cases hget'
      rw [hnext] at hnext'
      cases hnext'
    | renewed hget' _ _ hs' =>
      rw [hget] at hget'
      cases hget'
      refine hs'.countP_eq_add_one (fun x hx => ?_) ?_ ?_
      · rw [Entry.not_isOver_of_live (isValidFor_iff.1 hx).1]
        rfl
      · simp [isValidFor, hexpired]
      · exact isValidFor_iff.2 ⟨rfl, howned⟩
  | _ => exact absurd hrevives id

end Schedule

/-! ## The cap along a run -/

/-- Whether a step revives a reminder of a bundle that is full. -/
def Step.Overfills (step : Step) (bundle : Bundle) : Prop :=
  30 ≤ (step.before.valid bundle).length ∧ step.before.Revives bundle step.operation

variable {steps : List Step} {s : Schedule} {bundle : Bundle}

/-- A step that overfills a bundle leaves it above the cap. -/
theorem Step.Overfills.lt_valid {step : Step} (h : step.Overfills bundle)
    (heffect : step.before.Effect step.operation step.answer step.after) :
    30 < (step.after.valid bundle).length := by
  obtain ⟨hfull, hrevives⟩ := h
  rw [Schedule.valid_length] at hfull ⊢
  rw [heffect.count_of_revives hrevives]
  omega

/-- Any other step keeps the cap. -/
theorem Step.valid_le {step : Step} (hfits : ¬ step.Overfills bundle)
    (heffect : step.before.Effect step.operation step.answer step.after)
    (hbefore : (step.before.valid bundle).length ≤ 30) :
    (step.after.valid bundle).length ≤ 30 := by
  rw [Overfills] at hfits
  rw [Schedule.valid_length] at hfits hbefore ⊢
  by_cases hrevives : step.before.Revives bundle step.operation
  · rw [heffect.count_of_revives hrevives]
    have hroom : ¬ 30 ≤ step.before.entries.countP (Schedule.isValidFor bundle) :=
      fun hfull => hfits ⟨hfull, hrevives⟩
    omega
  · have hle := heffect.count_le hrevives
    omega

theorem Run.effect_of_mem [LocalTime] {start : Schedule} (run : Run start steps s) :
    ∀ step ∈ steps, step.before.Effect step.operation step.answer step.after := by
  induction run with
  | start => exact fun step hstep => by cases hstep
  | step _ hperform ih =>
    intro step hstep
    rcases List.mem_append.1 hstep with hstep | hstep
    · exact ih step hstep
    · rw [List.mem_singleton.1 hstep]
      exact Schedule.perform_effect hperform

/-- Without a step that overfills a bundle, the bundle stays within the cap. -/
theorem Run.valid_le [LocalTime] (run : Run {} steps s)
    (hfits : ∀ step ∈ steps, ¬ step.Overfills bundle) :
    (s.valid bundle).length ≤ 30 ∧ ∀ step ∈ steps, (step.after.valid bundle).length ≤ 30 := by
  induction run with
  | start =>
    refine ⟨?_, fun step hstep => by cases hstep⟩
    rw [Schedule.valid_length]
    exact Nat.zero_le _
  | @step steps s s' operation answer _ hperform ih =>
    obtain ⟨hs, hsteps⟩ := ih fun step hstep => hfits step (List.mem_append_left _ hstep)
    have hlast : (s'.valid bundle).length ≤ 30 :=
      Step.valid_le (hfits ⟨s, operation, answer, s'⟩ (by simp))
        (Schedule.perform_effect hperform) hs
    refine ⟨hlast, fun step hstep => ?_⟩
    rcases List.mem_append.1 hstep with hstep | hstep
    · exact hsteps step hstep
    · rw [List.mem_singleton.1 hstep]
      exact hlast

/-- A run keeps the cap exactly if no step of it overfills the bundle. -/
theorem Run.capped_iff [LocalTime] (run : Run {} steps s) (bundle : Bundle) :
    (∀ step ∈ steps, (step.after.valid bundle).length ≤ 30) ↔
      ∀ step ∈ steps, ¬ step.Overfills bundle := by
  constructor
  · intro hcap step hstep hover
    have hlt := hover.lt_valid (run.effect_of_mem step hstep)
    exact absurd (hcap step hstep) (Nat.not_le.2 hlt)
  · intro hfits
    exact (run.valid_le hfits).2

/-- A timer rings, 30 further ones are published, and the first one is snoozed. -/
def crowdedKitchen : List Operation :=
  [.publish .kitchen .minute .first, .fireDue (.sinceFirst 60)] ++
    List.replicate 30 (.publish .kitchen .minute (.sinceFirst 61)) ++
    [.snooze 1 (.sinceFirst 62)]

attribute [local instance] LocalTime.universal

theorem crowdedKitchen_valid :
    ∃ steps s, Schedule.performAll {} crowdedKitchen = .ok (steps, s) ∧ Run {} steps s ∧
      (s.valid .kitchen).length = 31 := by
  have hend : (Schedule.performAll {} crowdedKitchen).map
      (fun r => r.2.entries.countP (Schedule.isValidFor .kitchen)) = .ok 31 := by cbv
  obtain ⟨⟨steps, s⟩, hperform, hcount⟩ := Except.map_eq_ok.1 hend
  exact ⟨steps, s, hperform, Run.start.performAll hperform,
    (s.valid_length .kitchen).trans hcount⟩

/-- The cap can be broken. -/
theorem not_capped : ¬ ∀ steps s, Run {} steps s → ∀ bundle, (s.valid bundle).length ≤ 30 := by
  intro hcapped
  obtain ⟨steps, s, -, run, hvalid⟩ := crowdedKitchen_valid
  have hle := hcapped steps s run .kitchen
  omega

/-- The snooze is the step that breaks it. -/
theorem crowdedKitchen_overfills :
    ∃ steps s, Schedule.performAll {} crowdedKitchen = .ok (steps, s) ∧ Run {} steps s ∧
      ∃ step ∈ steps, step.Overfills .kitchen := by
  obtain ⟨steps, s, hperform, run, hvalid⟩ := crowdedKitchen_valid
  refine ⟨steps, s, hperform, run, ?_⟩
  by_contra hnone
  have hcap := (run.capped_iff .kitchen).2 fun step hstep hover => hnone ⟨step, hstep, hover⟩
  cases run with
  | start =>
    rw [Schedule.valid_length] at hvalid
    cases hvalid
  | step =>
    have hle := hcap _ (List.mem_append_right _ (List.mem_singleton_self _))
    rw [hvalid] at hle
    exact absurd hle (by decide)

end Reminders
