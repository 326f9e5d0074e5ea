import Reminders.Proofs.Firing

/-!
# What an operation does

`Schedule.Effect` lists the outcomes of the operations, one constructor for each,
with all that is known where it occurs.  `perform_effect` is the only place where
the operations are taken apart.  What a step keeps is proved from the outcomes.

Only an accepted publishing adds an entry or gives an id away.  `Effect.thins`
says so for all other outcomes at once: they keep what was published, in its
order, and can only drop some of it.
-/

namespace Reminders

namespace Schedule

/-- The outcomes of the operations on a schedule. -/
inductive Effect (s : Schedule) : Operation → Answer → Schedule → Prop where
  /-- What may not be published at all leaves everything alone. -/
  | refused {bundle : Bundle} {request : ReminderRequest} {now : DateTime} {cause : Error} :
      Effect s (.publish bundle request now) (.published (.error cause)) s
  /-- Room was made for what was refused then. -/
  | refusedThen {bundle : Bundle} {request : ReminderRequest} {now : DateTime} {cause : Error} :
      Effect s (.publish bundle request now) (.published (.error cause)) s.purge.1
  | published {bundle : Bundle} {request : ReminderRequest} {now trigger : DateTime} :
      checkRequest bundle request = .ok () → s.purge.1.checkRoom bundle = .ok () →
      request.firstTrigger now = .ok (.ok (some trigger)) →
      Effect s (.publish bundle request now) (.published (.ok (idAfter s.lastId)))
        (s.purge.1.accept bundle request trigger)
  | cancelled {bundle : Bundle} {id : Int32} {answer : Answer} :
      Effect s (.cancel bundle id) answer (s.drop fun e => e.id == id && e.isOwnedBy bundle).1
  | cancelledAll {bundle : Bundle} {answer : Answer} :
      Effect s (.cancelAll bundle) answer (s.drop fun e => e.isOwnedBy bundle).1
  | fired {now : DateTime} {answer : Answer} {s' : Schedule} :
      s.Moved (Entry.Fires now) (fun e => !e.isOver) s' → Effect s (.fireDue now) answer s'
  | notSnoozed {id : Int32} {now : DateTime} {answer : Answer} :
      (∀ e, s.get? id = some e → e.status.isShowing →
        Recurrence.afterSeconds? now (snoozeSeconds e.request) = none) →
      Effect s (.snooze id now) answer s
  | snoozed {id : Int32} {now t : DateTime} {e : Entry} {answer : Answer} {s' : Schedule} :
      s.get? id = some e → e.status.isShowing →
      Recurrence.afterSeconds? now (snoozeSeconds e.request) = some t →
      s.Replaced id e { e with trigger := some t, status := .snoozed, expired := false }
        (fun _ => true) s' →
      Effect s (.snooze id now) answer s'
  | notClosed {id : Int32} {now : DateTime} {answer : Answer} :
      (∀ e, s.get? id = some e → ¬ e.status.isShowing) → Effect s (.close id now) answer s
  /-- The reminder left the screen, but its next ring could not be looked up. -/
  | closedOnly {id : Int32} {now : DateTime} {e : Entry} {cause : Error} {answer : Answer}
      {s' : Schedule} :
      s.get? id = some e → e.status.isShowing →
      e.request.nextTrigger now = .ok (.error cause) →
      s.Replaced id e { e with status := .active } (fun _ => true) s' →
      Effect s (.close id now) answer s'
  | ended {id : Int32} {now : DateTime} {e : Entry} {answer : Answer} {s' : Schedule} :
      s.get? id = some e → e.status.isShowing → e.request.nextTrigger now = .ok (.ok none) →
      s.Replaced id e { e with status := .active, expired := true } (fun e => !e.isOver) s' →
      Effect s (.close id now) answer s'
  | renewed {id : Int32} {now t : DateTime} {e : Entry} {answer : Answer} {s' : Schedule} :
      s.get? id = some e → e.status.isShowing → e.request.nextTrigger now = .ok (.ok (some t)) →
      s.Replaced id e
        { e with
          trigger := some t, status := .active, expired := false, snoozesLeft := e.request.snoozes }
        (fun e => !e.isOver) s' →
      Effect s (.close id now) answer s'
  | notSilenced {id : Int32} {answer : Answer} : Effect s (.silence id) answer s
  | silenced {id : Int32} {e : Entry} {answer : Answer} {s' : Schedule} :
      s.get? id = some e → e.status = .showing true →
      s.Replaced id e { e with status := .showing false } (fun _ => true) s' →
      Effect s (.silence id) answer s'
  | refreshed {now : DateTime} {answer : Answer} {s' : Schedule} :
      s.Moved (fun e e' => e.refreshed now = .ok e') (fun _ => true) s' →
      Effect s (.refresh now) answer s'
  | purged {answer : Answer} : Effect s .purge answer s.purge.1

/-! ## The outcome of each operation -/

/-- Publishing refuses, purges and refuses, or takes one reminder in. -/
theorem publish_effect {s s' : Schedule} {bundle : Bundle} {request : ReminderRequest}
    {now : DateTime} {result : Except Error Int32}
    (h : s.publish bundle request now = (s', .ok result)) :
    s.Effect (.publish bundle request now) (.published result) s' := by
  rw [publish] at h
  split at h
  case h_1 =>
    cases h
    exact .refused
  case h_2 hrequest =>
    simp only at h
    split at h
    case h_1 =>
      cases h
      exact .refusedThen
    case h_2 hroom =>
      split at h
      case h_1 => cases h
      case h_2 =>
        cases h
        exact .refusedThen
      case h_3 =>
        cases h
        exact .refusedThen
      case h_4 trigger htrigger =>
        cases h
        exact .published hrequest hroom htrigger

/-- A refused snooze changes nothing. -/
theorem snooze_refused [LocalTime] {s s' : Schedule} {id : Int32} {now : DateTime} {cause : Error}
    (h : s.snooze id now = (s', .error cause)) : s' = s := by
  rw [snooze] at h
  split at h
  case h_1 =>
    cases h
    rfl
  case h_2 =>
    split at h
    case isTrue =>
      split at h
      case h_1 =>
        cases h
        rfl
      case h_2 => cases h
    case isFalse =>
      cases h
      rfl

/-- A snooze puts the reminder off if it is on screen, and else does nothing. -/
theorem snooze_effect [LocalTime] (s : Schedule) (id : Int32) (now : DateTime) (answer : Answer) :
    s.Effect (.snooze id now) answer (s.snooze id now).1 := by
  rw [snooze]
  split
  case h_1 hget => exact .notSnoozed fun e he => by simp [hget] at he
  case h_2 e hget =>
    split
    case isTrue hshowing =>
      split
      case h_1 hafter =>
        refine .notSnoozed fun e' he' _ => ?_
        rw [hget] at he'
        cases he'
        exact hafter
      case h_2 t hafter => exact .snoozed hget hshowing hafter (update_replaced hget rfl)
    case isFalse hshowing =>
      refine .notSnoozed fun e' he' hshowing' => ?_
      rw [hget] at he'
      cases he'
      exact absurd hshowing' hshowing

/-- A close takes a reminder from the screen, and ends or renews it if its next trigger can be
computed. -/
theorem close_effect {s s' : Schedule} {id : Int32} {now : DateTime} {result : Except Error Bool}
    (h : s.close id now = (s', .ok result)) (answer : Answer) :
    s.Effect (.close id now) answer s' := by
  rw [close] at h
  split at h
  case h_1 hget =>
    cases h
    exact .notClosed fun e he => by simp [hget] at he
  case h_2 e hget =>
    split at h
    case isTrue hshowing =>
      simp only at h
      split at h
      case h_1 => cases h
      case h_2 cause hnext =>
        cases h
        exact .closedOnly hget hshowing hnext (update_replaced hget rfl)
      case h_3 hnext =>
        cases h
        exact .ended hget hshowing hnext (update_purge_replaced hget rfl)
      case h_4 t hnext =>
        cases h
        exact .renewed hget hshowing hnext (update_purge_replaced hget rfl)
    case isFalse hshowing =>
      cases h
      refine .notClosed fun e' he' => ?_
      rw [hget] at he'
      cases he'
      exact hshowing

/-- Silencing takes the sound from an alert, and from nothing else. -/
theorem silence_effect [LocalTime] (s : Schedule) (id : Int32) (answer : Answer) :
    s.Effect (.silence id) answer (s.silence id).1 := by
  rw [silence]
  split
  case h_1 => exact .notSilenced
  case h_2 e hget =>
    split
    case isTrue halerting => exact .silenced hget halerting (update_replaced hget rfl)
    case isFalse => exact .notSilenced

/-- Refreshing moves every reminder by itself. -/
theorem refresh_effect {s s' : Schedule} {now : DateTime} (h : s.refresh now = .ok s')
    (answer : Answer) : s.Effect (.refresh now) answer s' := by
  obtain ⟨entries, hentries, hs'⟩ := Except.bind_eq_ok.1 h
  cases hs'
  exact .refreshed ⟨rfl, entries, Except.mapM_eq_ok.1 hentries,
    (List.filter_eq_self.2 fun _ _ => rfl).symm⟩

/-- Whatever the operation, a call that comes to its end has one of the effects above. -/
theorem perform_effect [LocalTime] {s s' : Schedule} {operation : Operation} {answer : Answer}
    (h : s.perform operation = .ok (s', answer)) : s.Effect operation answer s' := by
  cases operation with
  | publish bundle request now =>
    obtain ⟨result, hpublish, rfl⟩ := Attempt.settle_eq_ok.1 h
    exact publish_effect hpublish
  | cancel bundle id =>
    cases h
    exact .cancelled
  | cancelAll bundle =>
    cases h
    exact .cancelledAll
  | fireDue now =>
    obtain ⟨alerts, hfire, rfl⟩ := Attempt.settle_eq_ok.1 h
    exact .fired (fireDue_moved hfire)
  | snooze id now =>
    cases h
    exact snooze_effect s id now _
  | close id now =>
    obtain ⟨result, hclose, rfl⟩ := Attempt.settle_eq_ok.1 h
    exact close_effect hclose _
  | silence id =>
    cases h
    exact silence_effect s id _
  | refresh now =>
    obtain ⟨_, hrefresh, hs'⟩ := Except.map_eq_ok.1 h
    cases hs'
    exact refresh_effect hrefresh _
  | purge =>
    cases h
    exact .purged

/-! ## What all outcomes share -/

/-- To replace a reminder under its publication adds no publication. -/
theorem Replaced.thins {s s' : Schedule} {id : Int32} {e changed : Entry} {keep : Entry → Bool}
    (h : s.Replaced id e changed keep s') (hchanged : changed.publication = e.publication) :
    (s'.entries.map Entry.publication).Sublist (s.entries.map Entry.publication) := by
  refine h.moved.map_sublist fun x x' hx => ?_
  obtain rfl | ⟨rfl, rfl⟩ := hx
  · rfl
  · exact hchanged

theorem drop_thins (s : Schedule) (p : Entry → Bool) :
    ((s.drop p).1.entries.map Entry.publication).Sublist (s.entries.map Entry.publication) :=
  List.filter_sublist.map _

/-- Only an accepted publishing gives an id away and adds an entry. -/
theorem Effect.thins {s s' : Schedule} {operation : Operation} {answer : Answer}
    (h : s.Effect operation answer s') :
    (Step.publication? ⟨s, operation, answer, s'⟩ = none ∧ s'.lastId = s.lastId ∧
      (s'.entries.map Entry.publication).Sublist (s.entries.map Entry.publication)) ∨
    ∃ bundle request now trigger, operation = .publish bundle request now ∧
      answer = .published (.ok (idAfter s.lastId)) ∧ checkRequest bundle request = .ok () ∧
      s.purge.1.checkRoom bundle = .ok () ∧
      request.firstTrigger now = .ok (.ok (some trigger)) ∧
      s' = s.purge.1.accept bundle request trigger := by
  cases h with
  | refused => exact .inl ⟨rfl, rfl, List.Sublist.refl _⟩
  | refusedThen => exact .inl ⟨rfl, rfl, s.drop_thins _⟩
  | published hrequest hroom htrigger =>
    exact .inr ⟨_, _, _, _, rfl, rfl, hrequest, hroom, htrigger, rfl⟩
  | cancelled => exact .inl ⟨rfl, rfl, s.drop_thins _⟩
  | cancelledAll => exact .inl ⟨rfl, rfl, s.drop_thins _⟩
  | fired hmoved =>
    exact .inl ⟨rfl, hmoved.1, hmoved.map_sublist fun _ _ => Entry.Fires.publication⟩
  | notSnoozed => exact .inl ⟨rfl, rfl, List.Sublist.refl _⟩
  | snoozed _ _ _ hs' => exact .inl ⟨rfl, hs'.1, hs'.thins rfl⟩
  | notClosed => exact .inl ⟨rfl, rfl, List.Sublist.refl _⟩
  | closedOnly _ _ _ hs' => exact .inl ⟨rfl, hs'.1, hs'.thins rfl⟩
  | ended _ _ _ hs' => exact .inl ⟨rfl, hs'.1, hs'.thins rfl⟩
  | renewed _ _ _ hs' => exact .inl ⟨rfl, hs'.1, hs'.thins rfl⟩
  | notSilenced => exact .inl ⟨rfl, rfl, List.Sublist.refl _⟩
  | silenced _ _ hs' => exact .inl ⟨rfl, hs'.1, hs'.thins rfl⟩
  | refreshed hmoved =>
    exact .inl ⟨rfl, hmoved.1, hmoved.map_sublist fun _ _ => Entry.refreshed_publication⟩
  | purged => exact .inl ⟨rfl, rfl, s.drop_thins _⟩

end Schedule

end Reminders
