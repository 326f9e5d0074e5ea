import Mathlib
import Reminders.Proofs.Effect

/-!
# Which reminders are accepted

Whether a publishing is accepted depends on five questions.  Has the bundle a name, and does the
request make sense?  Is there room for another reminder, and for another one of this bundle?  Does
the request ring after now?  They are asked in this order, and the first one that is denied is the
cause of the refusal (`Schedule.Refuses`).

Reminders that are over make room before the third question.  Nobody sees them go, since they are
neither valid nor on screen and do not ring (`Schedule.purge_undisturbed`).  So a publishing that
is refused goes unnoticed.  One that is accepted adds its reminder behind those that are left.
It rings after now, whatever its kind (`ReminderRequest.firstTrigger_lt`), so nothing becomes due.
-/

namespace Reminders

/-! ## Requests -/

/-- A valid kind triggers later than now, timers included. -/
theorem ReminderKind.trigger_lt_of_valid {kind : ReminderKind} {now t : DateTime}
    (valid : kind.validate = .ok ()) (h : kind.trigger now = .ok (.ok (some t))) : now < t := by
  cases kind with
  | timer seconds =>
    have hzero : seconds ≠ 0 := by
      rintro rfl
      simp [validate] at valid
    have hpos : 0 < seconds.toNat := UInt64.lt_iff_toNat_lt.1 (UInt64.pos_iff_ne_zero.2 hzero)
    have hlater : now.later? seconds.toNat = some t := Except.ok.inj (Except.ok.inj h)
    exact DateTime.lt_of_later? hpos hlater
  | calendar dateTime months days => exact trigger_lt (by simp [type]) h
  | alarm hour minute weekdays => exact trigger_lt (by simp [type]) h

/-- A valid request rings after now. -/
theorem ReminderRequest.firstTrigger_lt {r : ReminderRequest} {now t : DateTime}
    (valid : r.validate = .ok ()) (h : r.firstTrigger now = .ok (.ok (some t))) : now < t :=
  ReminderKind.trigger_lt_of_valid (kind_valid valid) h

/-- Whether a check refuses nothing but parameters. -/
def RefusesParameters (check : Except Error Unit) : Prop :=
  ∀ cause, check = .error cause → ∃ invalid, cause = .invalid invalid

namespace RefusesParameters

variable {check rest : Except Error Unit}

theorem passed : RefusesParameters (.ok ()) := fun _ h => (by cases h)

theorem ifNot {p : Prop} [Decidable p] {invalid : Invalid} (h : RefusesParameters rest) :
    RefusesParameters (if p then .error (.invalid invalid) else rest) := by
  intro cause hcause
  split at hcause
  case isTrue =>
    cases hcause
    exact ⟨invalid, rfl⟩
  case isFalse => exact h cause hcause

theorem andThen (h : RefusesParameters check) (hrest : RefusesParameters rest) :
    RefusesParameters (do check; rest) := by
  cases check with
  | error cause => exact h
  | ok => exact hrest

end RefusesParameters

/-- The check of a kind refuses with invalid parameters only. -/
theorem ReminderKind.validate_refusesParameters (kind : ReminderKind) :
    RefusesParameters kind.validate := by
  cases kind with
  | timer seconds => exact .ifNot .passed
  | calendar dateTime months days =>
    rw [validate, LocalDateTime.toDateTime]
    cases dateTime.toDateTime? with
    | none =>
      rintro _ ⟨⟩
      exact ⟨.localDateTime dateTime, rfl⟩
    | some first => exact .ifNot (.ifNot .passed)
  | alarm hour minute weekdays => exact .ifNot (.ifNot (.ifNot .passed))

theorem ReminderRequest.validate_refusesParameters (r : ReminderRequest) :
    RefusesParameters r.validate := by
  refine r.kind.validate_refusesParameters.andThen ?_
  rw [validateButtons.eq_def]
  refine .ifNot ?_
  split
  case h_1 => exact .ifNot .passed
  case h_2 => exact .passed

/-! ## Making room -/

/-- A reminder that was just published. -/
def Entry.published (id : Int32) (bundle : Bundle) (request : ReminderRequest)
    (trigger : DateTime) : Entry where
  id := id
  bundle := bundle
  request := request
  trigger := some trigger
  status := .active
  expired := false
  snoozesLeft := request.snoozes
  lastShown := none

namespace Schedule

variable {s s' : Schedule} {bundle : Bundle} {request : ReminderRequest} {now trigger : DateTime}
  {cause cause' : Error}

/-- The reminders that are not over. -/
def remaining (s : Schedule) : List Entry := s.entries.filter fun e => !e.isOver

theorem purge_entries (s : Schedule) : s.purge.1.entries = s.remaining := rfl

/-- A purge drops nothing of what a filter keeps, if that keeps only what is not over. -/
theorem filter_remaining {p : Entry → Bool} (h : ∀ e, p e → ¬ e.isOver) :
    s.remaining.filter p = s.entries.filter p := by
  rw [remaining, List.filter_filter]
  refine List.filter_congr fun e _ => ?_
  cases hp : p e with
  | false => rfl
  | true => simp [h e hp]

/-- What another schedule shows of one that at most lost the reminders that are over. -/
structure Undisturbed (s s' : Schedule) : Prop where
  lastId_eq : s'.lastId = s.lastId
  entries_eq : s'.entries = s.entries ∨ s'.entries = s.remaining
  valid_eq : ∀ bundle, s'.valid bundle = s.valid bundle
  nextTrigger?_eq : s'.nextTrigger? = s.nextTrigger?
  showing_eq : s'.entries.filter (fun e => e.status.isShowing) =
    s.entries.filter fun e => e.status.isShowing

theorem Undisturbed.refl (s : Schedule) : s.Undisturbed s where
  lastId_eq := rfl
  entries_eq := .inl rfl
  valid_eq _ := rfl
  nextTrigger?_eq := rfl
  showing_eq := rfl

theorem not_isOver_of_isValidFor {e : Entry} (h : isValidFor bundle e) : ¬ e.isOver := by
  simp only [isValidFor, Bool.and_eq_true, Bool.not_eq_true'] at h
  simp [Entry.isOver, h.1]

/-- A purge disturbs nothing that can be observed. -/
theorem purge_undisturbed (s : Schedule) : s.Undisturbed s.purge.1 where
  lastId_eq := rfl
  entries_eq := .inr rfl
  valid_eq bundle := by
    rw [valid, purge_entries, filter_remaining fun _ => not_isOver_of_isValidFor, valid]
  nextTrigger?_eq := by
    rw [nextTrigger?, purge_entries, remaining, List.filterMap_filter, nextTrigger?]
    refine congrArg List.min? (List.filterMap_congr fun e _ => ?_)
    cases hexpired : e.expired <;> simp [Entry.isOver, hexpired]
  showing_eq := by
    rw [purge_entries, filter_remaining]
    intro e hshowing
    simp [Entry.isOver, hshowing]

/-! ## Accepting and refusing -/

/-- What a publishing has to meet to be accepted. -/
structure Accepts (s : Schedule) (bundle : Bundle) (request : ReminderRequest)
    (now trigger : DateTime) : Prop where
  bundle_valid : bundle.validate = .ok ()
  request_valid : request.validate = .ok ()
  room : s.remaining.length < 2000
  bundle_room : s.entries.countP (isValidFor bundle) < 30
  rings : request.firstTrigger now = .ok (.ok (some trigger))

/-- Why a publishing is refused.  Each cause counts only where none of those before it does. -/
inductive Refuses (s : Schedule) (bundle : Bundle) (request : ReminderRequest) (now : DateTime) :
    Error → Prop where
  | unnamed : bundle.validate ≠ .ok () → Refuses s bundle request now (.invalidBundle bundle.name)
  | invalid {cause : Invalid} : bundle.validate = .ok () →
      request.validate = .error (.invalid cause) → Refuses s bundle request now (.invalid cause)
  | full : bundle.validate = .ok () → request.validate = .ok () →
      2000 ≤ s.remaining.length → Refuses s bundle request now (.systemFull 2000)
  | bundleFull : bundle.validate = .ok () → request.validate = .ok () →
      s.remaining.length < 2000 → 30 ≤ s.entries.countP (isValidFor bundle) →
      Refuses s bundle request now (.bundleFull bundle.name 30)
  | neverRings : bundle.validate = .ok () → request.validate = .ok () →
      s.remaining.length < 2000 → s.entries.countP (isValidFor bundle) < 30 →
      request.firstTrigger now = .ok (.ok none) → Refuses s bundle request now .neverRings

/-- No request is both refused and accepted. -/
theorem Refuses.not_accepts (h : s.Refuses bundle request now cause) :
    ¬ s.Accepts bundle request now trigger := by
  rintro ⟨hbundle, hrequest, hroom, hbundleRoom, hrings⟩
  cases h with
  | unnamed hunnamed => exact hunnamed hbundle
  | invalid _ hinvalid => simp [hrequest] at hinvalid
  | full _ _ hfull => omega
  | bundleFull _ _ _ hfull => omega
  | neverRings _ _ _ _ hnever => simp [hrings] at hnever

/-- There is no more than one cause.  Of two causes, one relies on what the other one denies. -/
theorem Refuses.unique (h : s.Refuses bundle request now cause)
    (h' : s.Refuses bundle request now cause') : cause = cause' := by
  cases h <;> cases h' <;> grind

/-- What the checks of a request refuse is refused for that cause. -/
theorem refuses_of_checkRequest (h : checkRequest bundle request = .error cause) :
    s.Refuses bundle request now cause := by
  rw [checkRequest] at h
  cases hbundle : bundle.validate with
  | error cause' =>
    have hcause : cause' = .invalidBundle bundle.name := by
      rw [Bundle.validate] at hbundle
      split at hbundle
      case isTrue => cases hbundle
      case isFalse =>
        cases hbundle
        rfl
    rw [hbundle] at h
    cases h
    rw [hcause]
    exact .unnamed (by simp [hbundle])
  | ok =>
    rw [hbundle] at h
    obtain ⟨invalid, rfl⟩ := request.validate_refusesParameters cause h
    exact .invalid hbundle h

/-- Whether there is room can be told from the schedule before the others went. -/
theorem checkRoom_purge (s : Schedule) (bundle : Bundle) :
    s.purge.1.checkRoom bundle =
      if 2000 ≤ s.remaining.length then .error (.systemFull 2000)
      else if 30 ≤ s.entries.countP (isValidFor bundle) then
        .error (.bundleFull bundle.name 30)
      else .ok () := by
  rw [checkRoom, systemLimit, bundleLimit, size, purge_entries, List.countP_eq_length_filter,
    filter_remaining fun _ => not_isOver_of_isValidFor, ← List.countP_eq_length_filter]

/-- A publishing is accepted, or it is refused and goes unnoticed. -/
theorem publish_accepts_or_refuses {result : Except Error Int32}
    (h : s.publish bundle request now = (s', .ok result)) :
    (∃ trigger, s.Accepts bundle request now trigger ∧ result = .ok (idAfter s.lastId) ∧
      s' = s.purge.1.accept bundle request trigger) ∨
    ∃ cause, s.Refuses bundle request now cause ∧ result = .error cause ∧ s.Undisturbed s' := by
  rw [publish] at h
  split at h
  case h_1 cause hcheck =>
    cases h
    exact .inr ⟨cause, refuses_of_checkRequest hcheck, rfl, .refl s⟩
  case h_2 hcheck =>
    obtain ⟨hbundle, hrequest⟩ := checkRequest_eq_ok.1 hcheck
    simp only [checkRoom_purge] at h
    by_cases hfull : 2000 ≤ s.remaining.length
    case pos =>
      rw [if_pos hfull] at h
      cases h
      exact .inr ⟨_, .full hbundle hrequest hfull, rfl, s.purge_undisturbed⟩
    case neg =>
      have hroom : s.remaining.length < 2000 := Nat.not_le.1 hfull
      rw [if_neg hfull] at h
      by_cases hbundleFull : 30 ≤ s.entries.countP (isValidFor bundle)
      case pos =>
        rw [if_pos hbundleFull] at h
        cases h
        exact .inr ⟨_, .bundleFull hbundle hrequest hroom hbundleFull, rfl, s.purge_undisturbed⟩
      case neg =>
        have hbundleRoom := Nat.not_le.1 hbundleFull
        rw [if_neg hbundleFull] at h
        simp only at h
        split at h
        case h_1 => cases h
        case h_2 cause hcause =>
          exact absurd hcause (ReminderKind.trigger_ne_error (request.kind_valid hrequest) now cause)
        case h_3 hnever =>
          cases h
          exact .inr ⟨_, .neverRings hbundle hrequest hroom hbundleRoom hnever, rfl,
            s.purge_undisturbed⟩
        case h_4 trigger hrings =>
          cases h
          exact .inl ⟨trigger, ⟨hbundle, hrequest, hroom, hbundleRoom, hrings⟩, rfl, rfl⟩

/-- An accepted reminder makes nothing due. -/
theorem mem_of_isDue_accept (accepts : s.Accepts bundle request now trigger) {e : Entry}
    (he : e ∈ (s.purge.1.accept bundle request trigger).entries) (hdue : e.isDue now) :
    e ∈ s.entries := by
  rcases List.mem_append.1 he with he | he
  · exact List.mem_of_mem_filter he
  · have hlt := ReminderRequest.firstTrigger_lt accepts.request_valid accepts.rings
    rw [List.mem_singleton.1 he] at hdue
    simp [Entry.isDue, DateTime.not_le_iff_lt.2 hlt] at hdue

/-- A publishing is accepted if it meets what is asked for, and is otherwise refused for the first
thing that it does not meet.  If it is accepted, the reminder comes last, and it will ring.  If it
is refused, nobody notices. -/
theorem publish_decides {result : Except Error Int32}
    (h : s.publish bundle request now = (s', .ok result)) :
    ((∃ id, result = .ok id) ↔ ∃ trigger, s.Accepts bundle request now trigger) ∧
    (∀ cause, result = .error cause ↔ s.Refuses bundle request now cause) ∧
    (∀ id, result = .ok id → ∃ trigger, s.Accepts bundle request now trigger ∧ now < trigger ∧
      id = idAfter s.lastId ∧ s'.lastId = id ∧
      s'.entries = s.remaining ++ [.published id bundle request trigger] ∧
      ∀ e ∈ s'.entries, e.isDue now → e ∈ s.entries) ∧
    ∀ cause, result = .error cause → s.Undisturbed s' := by
  obtain ⟨trigger, accepts, rfl, rfl⟩ | ⟨cause, refuses, rfl, undisturbed⟩ :=
    publish_accepts_or_refuses h
  · refine ⟨iff_of_true ⟨_, rfl⟩ ⟨trigger, accepts⟩,
      fun cause => iff_of_false (fun hcause => (by cases hcause)) fun refuses =>
        refuses.not_accepts accepts, ?_, fun _ hcause => (by cases hcause)⟩
    rintro id ⟨⟩
    exact ⟨trigger, accepts, ReminderRequest.firstTrigger_lt accepts.request_valid accepts.rings,
      rfl, rfl, rfl, fun e he hdue => mem_of_isDue_accept accepts he hdue⟩
  · refine ⟨iff_of_false (fun ⟨_, hid⟩ => (by cases hid)) fun ⟨_, accepts⟩ =>
      refuses.not_accepts accepts, fun cause' => ⟨?_, fun refuses' => ?_⟩,
      fun _ hid => (by cases hid), fun _ _ => undisturbed⟩
    · rintro ⟨⟩
      exact refuses
    · rw [refuses.unique refuses']

/-- A kettle that is due, and one that is over. -/
def oldKettles : Schedule where
  lastId := 3
  entries := [.kettle 1, { Entry.kettle 3 with expired := true }]

/-- At the first moment. -/
def firstMoment : ReminderRequest where
  kind := .calendar ⟨-262143, 1, 1, 0, 0, 0⟩ [] []

/-- A second kettle is put on, and the one that is over is gone.  It is gone as well when somebody
asks to be reminded of the first moment, which is past, but nobody notices. -/
theorem publish_decides_oldKettles :
    ∃ accepted refused trigger,
      oldKettles.publish .kitchen .minute .first = (accepted, .ok (.ok 4)) ∧
      oldKettles.Accepts .kitchen .minute .first trigger ∧ .first < trigger ∧
      accepted.entries = [.kettle 1, .published 4 .kitchen .minute trigger] ∧
      oldKettles.publish .kitchen firstMoment .first = (refused, .ok (.error .neverRings)) ∧
      oldKettles.Refuses .kitchen firstMoment .first .neverRings ∧
      oldKettles.Undisturbed refused ∧ refused.entries = [.kettle 1] := by
  have haccept : oldKettles.publish .kitchen .minute .first =
      (⟨4, [.kettle 1, .published 4 .kitchen .minute (.sinceFirst 60)]⟩, .ok (.ok 4)) := by cbv
  have hrefuse : oldKettles.publish .kitchen firstMoment .first =
      (⟨3, [.kettle 1]⟩, .ok (.error .neverRings)) := by cbv
  obtain ⟨-, -, haccepted, -⟩ := publish_decides haccept
  obtain ⟨trigger, accepts, hlt, -, -, hentries, -⟩ := haccepted 4 rfl
  obtain ⟨-, hrefused, -, hundisturbed⟩ := publish_decides hrefuse
  exact ⟨_, _, trigger, haccept, accepts, hlt, hentries, hrefuse, (hrefused _).1 rfl,
    hundisturbed _ rfl, rfl⟩

end Schedule

end Reminders
