import Reminders.Proofs.Cap
import Reminders.Proofs.Survival
import Reminders.Proofs.Upkeep

/-!
# Ids that come round

Behind the greatest id comes 1 again, and nobody looks whether a reminder still has it.
`Step.ReusesId` says when one does.

* A step that reuses an id leaves two reminders with it (`Step.ReusesId.not_nodup`).
* Any other step keeps the ids distinct (`Step.ids_nodup`).

So the ids need not stay distinct (`not_ids_nodup`), and `Run.ids_nodup_iff` says in which runs
they do.  No id is reused before the counter came round (`Run.ids_le_lastId`).  Where none is, an
id that was given away names one reminder, and cancelling drops no more than that one.
-/

namespace Reminders

/-- Whether a step gives an id away that a stored reminder has. -/
def Step.ReusesId (step : Step) : Prop :=
  ∃ p, step.publication? = some p ∧ ∃ e ∈ step.before.purge.1.entries, e.id = p.id

/-! ## One step -/

namespace Schedule

variable {s s' : Schedule} {operation : Operation} {answer : Answer}

theorem idAfter_toInt_of_lt {id : Int32} (h : id.toInt < 2 ^ 31 - 1) :
    (idAfter id).toInt = id.toInt + 1 := by
  have hne : id ≠ Int32.maxValue := by
    rintro rfl
    exact absurd h (by decide)
  have hle := id.le_toInt
  have hone : (1 : Int32).toInt = 1 := rfl
  rw [idAfter, if_neg hne, Int32.toInt_add, hone, Int.bmod_eq_of_le_mul_two (by omega) (by omega)]

/-- What a publication does to the ids and to the counter. -/
theorem Effect.published_ids (h : s.Effect operation answer s') {p : Publication}
    (hp : Step.publication? ⟨s, operation, answer, s'⟩ = some p) :
    p.id = idAfter s.lastId ∧ s'.lastId = p.id ∧
      s'.entries.map Entry.id = s.purge.1.entries.map Entry.id ++ [p.id] := by
  obtain ⟨hnone, -⟩ | ⟨bundle, request, now, trigger, rfl, rfl, -, -, -, rfl⟩ := h.thins
  · rw [hnone] at hp
    cases hp
  · cases hp
    exact ⟨rfl, rfl, by simp [accept, purge, drop]⟩

/-- What publishes nothing only drops ids. -/
theorem Effect.unpublished_ids (h : s.Effect operation answer s')
    (hnone : Step.publication? ⟨s, operation, answer, s'⟩ = none) :
    s'.lastId = s.lastId ∧ (s'.entries.map Entry.id).Sublist (s.entries.map Entry.id) := by
  obtain ⟨-, hlast, hthins⟩ | ⟨bundle, request, now, trigger, rfl, rfl, -⟩ := h.thins
  · have hids := hthins.map Publication.id
    rw [map_publication_id, map_publication_id] at hids
    exact ⟨hlast, hids⟩
  · cases hnone

/-- With distinct ids cancelling drops at most one reminder. -/
theorem size_le_of_cancel (distinct : (s.entries.map Entry.id).Nodup) (bundle : Bundle)
    (id : Int32) : s.size ≤ (s.cancel bundle id).1.size + 1 := by
  have hcount : s.entries.countP (fun e => e.id == id && e.isOwnedBy bundle) ≤
      (s.entries.map Entry.id).count id := by
    rw [List.count, List.countP_map]
    refine List.countP_mono_left fun e _ he => ?_
    exact (Bool.and_eq_true_iff.1 he).1
  have hone := List.nodup_iff_count_le_one.1 distinct id
  have hlength := List.length_eq_length_filter_add (l := s.entries)
    fun e => e.id == id && e.isOwnedBy bundle
  rw [← List.countP_eq_length_filter] at hlength
  have hcancel : (s.cancel bundle id).1.size =
      (s.entries.filter fun e => !(e.id == id && e.isOwnedBy bundle)).length := rfl
  rw [size, hlength, hcancel]
  omega

theorem Effect.size_le_of_cancel {bundle : Bundle} {id : Int32}
    (h : s.Effect (.cancel bundle id) answer s') (distinct : (s.entries.map Entry.id).Nodup) :
    s.size ≤ s'.size + 1 := by
  cases h
  exact Schedule.size_le_of_cancel distinct bundle id

end Schedule

variable {step : Step}

theorem Step.ReusesId.not_nodup (h : step.ReusesId)
    (heffect : step.before.Effect step.operation step.answer step.after) :
    ¬ (step.after.entries.map Entry.id).Nodup := by
  obtain ⟨p, hp, e, he, hid⟩ := h
  obtain ⟨-, -, hids⟩ := heffect.published_ids hp
  rw [hids, List.nodup_append]
  rintro ⟨-, -, hdisjoint⟩
  exact hdisjoint e.id (List.mem_map_of_mem he) p.id (List.mem_singleton_self _) hid

theorem Step.ids_nodup (hfresh : ¬ step.ReusesId)
    (heffect : step.before.Effect step.operation step.answer step.after)
    (distinct : (step.before.entries.map Entry.id).Nodup) :
    (step.after.entries.map Entry.id).Nodup := by
  cases hp : step.publication? with
  | none => exact distinct.sublist (heffect.unpublished_ids hp).2
  | some p =>
    obtain ⟨-, -, hids⟩ := heffect.published_ids hp
    rw [hids, List.nodup_append]
    refine ⟨distinct.sublist (List.filter_sublist.map _), List.nodup_singleton _, ?_⟩
    intro id hid id' hid' heq
    obtain ⟨e, he, rfl⟩ := List.mem_map.1 hid
    rw [List.mem_singleton.1 hid'] at heq
    exact hfresh ⟨p, hp, e, he, heq⟩

/-- An id names one reminder exactly if it was not reused. -/
theorem Step.count_id_eq_one_iff
    (heffect : step.before.Effect step.operation step.answer step.after) {p : Publication}
    (hp : step.publication? = some p) :
    (step.after.entries.map Entry.id).count p.id = 1 ↔ ¬ step.ReusesId := by
  obtain ⟨-, -, hids⟩ := heffect.published_ids hp
  rw [hids, List.count_append, List.count_singleton_self, Nat.add_eq_right, List.count_eq_zero]
  constructor
  · rintro hfresh ⟨p', hp', e, he, hid⟩
    rw [hp] at hp'
    cases hp'
    exact hfresh (List.mem_map.2 ⟨e, he, hid⟩)
  · rintro hfresh hmem
    obtain ⟨e, he, hid⟩ := List.mem_map.1 hmem
    exact hfresh ⟨p, hp, e, he, hid⟩

/-- A step that does not bring the counter round gives away a greater id than all others. -/
theorem Step.ids_le_lastId (step : Step)
    (heffect : step.before.Effect step.operation step.answer step.after)
    (bounded : ∀ e ∈ step.before.entries, e.id ≤ step.before.lastId)
    (few : step.before.lastId.toInt + step.publication?.toList.length < 2 ^ 31) :
    step.after.lastId.toInt = step.before.lastId.toInt + step.publication?.toList.length ∧
      (∀ e ∈ step.after.entries, e.id ≤ step.after.lastId) ∧ ¬ step.ReusesId := by
  cases hp : step.publication? with
  | none =>
    obtain ⟨hlast, hids⟩ := heffect.unpublished_ids hp
    rw [hlast, Option.toList_none, List.length_nil, Nat.cast_zero, Int.add_zero]
    refine ⟨rfl, fun e he => ?_, ?_⟩
    · obtain ⟨e', he', hid⟩ := List.mem_map.1 (hids.subset (List.mem_map_of_mem he))
      rw [← hid]
      exact bounded e' he'
    · rintro ⟨p, hp', -⟩
      rw [hp] at hp'
      cases hp'
  | some p =>
    obtain ⟨hid, hlast, hids⟩ := heffect.published_ids hp
    rw [hp, Option.toList_some, List.length_singleton] at few
    have hnext : p.id.toInt = step.before.lastId.toInt + 1 := by
      rw [hid, Schedule.idAfter_toInt_of_lt (by omega)]
    have hlt : ∀ e ∈ step.before.purge.1.entries, e.id < p.id := by
      intro e he
      have hbound := Int32.le_iff_toInt_le.1 (bounded e (List.mem_of_mem_filter he))
      rw [Int32.lt_iff_toInt_lt]
      omega
    rw [hlast, Option.toList_some, List.length_singleton]
    refine ⟨hnext, fun e he => ?_, ?_⟩
    · have hmem := List.mem_map_of_mem (f := Entry.id) he
      rw [hids, List.mem_append, List.mem_singleton] at hmem
      obtain hmem | heq := hmem
      · obtain ⟨e', he', heq⟩ := List.mem_map.1 hmem
        rw [← heq]
        exact Int32.le_of_lt (hlt e' he')
      · rw [heq]
        exact Int32.le_refl _
    · rintro ⟨p', hp', e, he, heq⟩
      rw [hp] at hp'
      cases hp'
      exact Int32.lt_irrefl (heq ▸ hlt e he)

/-! ## A run -/

variable {start s : Schedule} {steps : List Step}

/-- Without a reused id the ids stay distinct. -/
theorem Run.ids_nodup [LocalTime] (distinct : (start.entries.map Entry.id).Nodup)
    (run : Run start steps s)
    (hfresh : ∀ step ∈ steps, ¬ step.ReusesId) :
    (s.entries.map Entry.id).Nodup ∧ ∀ step ∈ steps,
      (step.before.entries.map Entry.id).Nodup ∧ (step.after.entries.map Entry.id).Nodup := by
  induction run with
  | start => exact ⟨distinct, by simp⟩
  | @step steps s s' operation answer _ hperform ih =>
    rw [List.forall_mem_append, List.forall_mem_singleton] at hfresh
    obtain ⟨hs, hsteps⟩ := ih hfresh.1
    have hs' := Step.ids_nodup hfresh.2 (Schedule.perform_effect hperform) hs
    rw [List.forall_mem_append, List.forall_mem_singleton]
    exact ⟨hs', hsteps, hs, hs'⟩

/-- The counter goes up by one with every publication, until it comes round. -/
theorem Run.ids_le_lastId [LocalTime] (bounded : ∀ e ∈ start.entries, e.id ≤ start.lastId)
    (run : Run start steps s)
    (few : start.lastId.toInt + (publications steps).length < 2 ^ 31) :
    s.lastId.toInt = start.lastId.toInt + (publications steps).length ∧
      (∀ e ∈ s.entries, e.id ≤ s.lastId) ∧ ∀ step ∈ steps, ¬ step.ReusesId := by
  induction run with
  | start => exact ⟨by simp [publications], bounded, by simp⟩
  | @step steps s s' operation answer _ hperform ih =>
    rw [publications_append, List.length_append] at few ⊢
    obtain ⟨hlast, hle, hfresh⟩ := ih (by omega)
    obtain ⟨hlast', hle', hfresh'⟩ := Step.ids_le_lastId ⟨s, operation, answer, s'⟩
      (Schedule.perform_effect hperform) hle (by simp only; omega)
    simp only at hlast'
    rw [List.forall_mem_append, List.forall_mem_singleton]
    exact ⟨by omega, hle', hfresh, hfresh'⟩

/-- The ids stay distinct in exactly the runs that reuse none, which holds until the counter has
come round.  Every id that was given away then names one reminder, and cancelling drops one at
the most. -/
theorem Run.ids_nodup_iff [LocalTime] (distinct : (start.entries.map Entry.id).Nodup)
    (bounded : ∀ e ∈ start.entries, e.id ≤ start.lastId) (run : Run start steps s) :
    ((∀ step ∈ steps, (step.after.entries.map Entry.id).Nodup) ↔
        ∀ step ∈ steps, ¬ step.ReusesId) ∧
      (start.lastId.toInt + (publications steps).length < 2 ^ 31 →
        ∀ step ∈ steps, ¬ step.ReusesId) ∧
      ((∀ step ∈ steps, ¬ step.ReusesId) → ∀ step ∈ steps,
        (∀ p, step.publication? = some p → (step.after.entries.map Entry.id).count p.id = 1) ∧
        ∀ bundle id, step.operation = .cancel bundle id →
          step.before.size ≤ step.after.size + 1) := by
  refine ⟨⟨fun hdistinct step hstep hreuses => ?_, fun hfresh step hstep => ?_⟩, fun few => ?_,
    fun hfresh step hstep => ⟨fun p hp => ?_, fun bundle id hcancel => ?_⟩⟩
  · exact hreuses.not_nodup (run.effect_of_mem step hstep) (hdistinct step hstep)
  · exact ((run.ids_nodup distinct hfresh).2 step hstep).2
  · exact (run.ids_le_lastId bounded few).2.2
  · exact (Step.count_id_eq_one_iff (run.effect_of_mem step hstep) hp).2 (hfresh step hstep)
  · have heffect := run.effect_of_mem step hstep
    rw [hcancel] at heffect
    exact heffect.size_le_of_cancel ((run.ids_nodup distinct hfresh).2 step hstep).1

/-! ## A counter that came round -/

/-- A kettle has the first id, and the greatest one was given away last. -/
def Schedule.lastOfRound : Schedule where
  lastId := Int32.maxValue
  entries := [{ Entry.kettle 1 with trigger := DateTime.first.later? 60 }]

/-- A timer is published, and the kitchen cancels it. -/
def roundKitchen : List Operation := [.publish .kitchen .minute .first, .cancel .kitchen 1]

attribute [local instance] LocalTime.universal

theorem roundKitchen_ids :
    ∃ steps s, Schedule.lastOfRound.performAll roundKitchen = .ok (steps, s) ∧
      Run Schedule.lastOfRound steps s ∧
      steps.map (fun step => step.after.entries.map Entry.id) = [[1, 1], []] := by
  have hend : (Schedule.lastOfRound.performAll roundKitchen).map (fun r =>
      r.1.map fun step => step.after.entries.map Entry.id) = .ok [[1, 1], []] := by cbv
  obtain ⟨⟨steps, s⟩, hperform, hids⟩ := Except.map_eq_ok.1 hend
  exact ⟨steps, s, hperform, Run.start.performAll hperform, hids⟩

/-- The ids need not stay distinct. -/
theorem not_ids_nodup :
    ¬ ∀ start s steps, (start.entries.map Entry.id).Nodup →
      (∀ e ∈ start.entries, 1 ≤ e.id ∧ e.id ≤ start.lastId) → Run start steps s →
      ∀ step ∈ steps, (step.after.entries.map Entry.id).Nodup := by
  intro h
  obtain ⟨steps, s, -, run, hids⟩ := roundKitchen_ids
  obtain ⟨step, hstep, hafter⟩ := List.mem_map.1
    (hids ▸ List.mem_cons_self : [1, 1] ∈ steps.map fun step => step.after.entries.map Entry.id)
  have hdistinct := h _ _ _ (by decide) (by decide) run step hstep
  rw [hafter] at hdistinct
  exact absurd hdistinct (by decide)

/-- The timer of the kitchen got the id of the kettle. -/
theorem roundKitchen_reusesId :
    (Schedule.lastOfRound.entries.map Entry.id).Nodup ∧
      (∀ e ∈ Schedule.lastOfRound.entries, e.id ≤ Schedule.lastOfRound.lastId) ∧
      ∃ steps s, Run Schedule.lastOfRound steps s ∧ ∃ step ∈ steps, step.ReusesId := by
  have distinct : (Schedule.lastOfRound.entries.map Entry.id).Nodup := by decide
  have bounded : ∀ e ∈ Schedule.lastOfRound.entries, e.id ≤ Schedule.lastOfRound.lastId := by
    decide
  obtain ⟨steps, s, -, run, hids⟩ := roundKitchen_ids
  refine ⟨distinct, bounded, steps, s, run, ?_⟩
  by_contra hnone
  have hdistinct := (run.ids_nodup_iff distinct bounded).1.2
    fun step hstep hreuses => hnone ⟨step, hstep, hreuses⟩
  obtain ⟨step, hstep, hafter⟩ := List.mem_map.1
    (hids ▸ List.mem_cons_self : [1, 1] ∈ steps.map fun step => step.after.entries.map Entry.id)
  have hafter' := hdistinct step hstep
  rw [hafter] at hafter'
  exact absurd hafter' (by decide)

end Reminders
