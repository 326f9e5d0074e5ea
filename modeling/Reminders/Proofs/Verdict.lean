import Reminders.Proofs.ServiceRun

/-!
# Who may publish

Whether a publishing is accepted can be told from the calls so far.  The name of the bundle has
to say something, the last grant to that name and the last one to its user may not say no, and
the slot may not be of the unknown type.  `verdict` asks for these in this order, and
`Run.publish_verdict` says that the service decides the same way.

A refused publishing leaves the service as it was.  This rests on two facts about a run.  No slot
of the unknown type is ever registered (`Run.known`), so a request for one finds none.  And quiet
hours refuse nothing to a notification that has a slot, so nothing can go wrong once a missing
slot is made.
-/

namespace Reminders

namespace Service

/-- Whether the last grants to the name of a bundle and to its user let it notify. -/
def isGranted (steps : List Step) (bundle : Bundle) : Bool :=
  lastGrant? steps (.name bundle.name) != some false &&
    bundle.uid.all fun uid => lastGrant? steps (.user uid) != some false

/-- Whether a bundle may publish a notification with a slot type after some steps. -/
def verdict (steps : List Step) (bundle : Bundle) (type : SlotType) : Except Error Unit :=
  if Text.isBlank bundle.name then .error (.invalidBundle bundle.name)
  else if !isGranted steps bundle then .error (.notAllowed bundle.name)
  else if type = .unknown then .error (.noSlot .unknown)
  else .ok ()

variable {start s s' : Service} {steps : List Step} {bundle : Bundle}

theorem Run.isEnabled_eq (new : start.IsNew) (run : Run start steps s) (bundle : Bundle) :
    s.isEnabled bundle = isGranted steps bundle := by
  have hgetD : ∀ last : Option Bool, last.getD true = (last != some false) := by decide
  have hprincipal : ∀ principal,
      s.mayNotify principal = (lastGrant? steps principal != some false) :=
    fun principal => (run.mayNotify_eq new principal).trans (hgetD _)
  have hname : (s.barredNames.get? bundle.name).isNone = s.mayNotify (.name bundle.name) := rfl
  have huser : s.isUserAllowed = fun uid => s.mayNotify (.user uid) := rfl
  simp only [isEnabled, hname, huser, hprincipal, isGranted]

/-- The service decides by the calls so far. -/
theorem Run.permit_verdict (new : start.IsNew) (run : Run start steps s) (bundle : Bundle)
    (type : SlotType) :
    s.permit bundle type = (verdict steps bundle type).map fun _ =>
      (s.slots.ensure bundle type, s.slots.provided bundle type) := by
  have hslot : s.slots.has bundle .unknown = false := by
    rw [SlotRegistry.has, run.known new bundle]
    rfl
  rw [permit_eq, run.isEnabled_eq new bundle, verdict, Bundle.isNamed]
  cases Text.isBlank bundle.name with
  | true => rfl
  | false =>
    cases isGranted steps bundle with
    | false => rfl
    | true =>
      by_cases htype : type = .unknown
      · subst htype
        simp [hslot, Except.map]
      · simp [htype, Except.map]

/-- A publishing is decided by the calls so far.  If it is refused, nothing changes.  If it is
accepted, the notification is shown, and a missing slot is made. -/
theorem Run.publish_verdict (new : start.IsNew) (run : Run start steps s)
    {request : NotificationRequest} {now : DateTime} {result : Except Error Unit}
    (h : s.publish bundle request now = (s', .ok result)) :
    result = verdict steps bundle request.slotType ∧
      (∀ cause, result = .error cause → s' = s) ∧
      (result = .ok () → ∃ n, n.Shows bundle request ∧
        s' = { s with slots := s.slots.ensure bundle request.slotType }.put n) := by
  obtain ⟨cause, hpermit, rfl, rfl⟩ | ⟨slots, slot, n, hpermit, rfl, hshows, rfl⟩ :=
    publish_cases h
  · rw [run.permit_verdict new] at hpermit
    cases hverdict : verdict steps bundle request.slotType with
    | error cause' =>
      rw [hverdict] at hpermit
      cases hpermit
      exact ⟨rfl, fun _ _ => rfl, fun hok => (by cases hok)⟩
    | ok =>
      rw [hverdict] at hpermit
      cases hpermit
  · rw [run.permit_verdict new] at hpermit
    obtain ⟨⟨⟩, hverdict, hslots⟩ := Except.map_eq_ok.1 hpermit
    cases hslots
    exact ⟨hverdict.symm, fun _ hcause => (by cases hcause), fun _ => ⟨n, hshows, rfl⟩⟩

/-- The kitchen is barred and let in again, and one of its users is barred. -/
def grants : List Call :=
  [.enable .kitchen false, .enable .kitchen true, .allowUser 7 false]

/-- So the kitchen may publish, and gets a slot.  For the user it is refused. -/
theorem Run.publish_verdict_grants :
    ∃ steps s s', board.performAll grants = .ok (steps, s) ∧ board.IsNew ∧ Run board steps s ∧
      s.publish .kitchen (.note 1 "tea") .first = (s', .ok (.ok ())) ∧
      verdict steps .kitchen .socialCommunication = .ok () ∧
      s.slots.count .kitchen = 0 ∧ s'.slots.count .kitchen = 1 ∧
      s.publish { Bundle.kitchen with uid := some 7 } (.note 1 "tea") .first =
        (s, .ok (.error (.notAllowed "kitchen"))) ∧
      verdict steps { Bundle.kitchen with uid := some 7 } .socialCommunication =
        .error (.notAllowed "kitchen") := by
  have hend : (board.performAll grants).map (fun r =>
      ((r.2.publish .kitchen (.note 1 "tea") .first).2,
        (r.2.publish { Bundle.kitchen with uid := some 7 } (.note 1 "tea") .first).2,
        r.2.slots.count .kitchen,
        (r.2.publish .kitchen (.note 1 "tea") .first).1.slots.count .kitchen)) =
      .ok (.ok (.ok ()), .ok (.error (.notAllowed "kitchen")), 0, 1) := by cbv
  obtain ⟨⟨steps, s⟩, hperform, hs⟩ := Except.map_eq_ok.1 hend
  simp only [Prod.mk.injEq] at hs
  obtain ⟨haccepted, hrefused, hbefore, hbehind⟩ := hs
  have run : Run board steps s := Run.start.performAll hperform
  obtain ⟨hverdict, -, -⟩ := run.publish_verdict board_isNew (Prod.ext rfl haccepted)
  obtain ⟨hverdict', hsame, -⟩ := run.publish_verdict board_isNew (Prod.ext rfl hrefused)
  exact ⟨steps, s, _, hperform, board_isNew, run, Prod.ext rfl haccepted, hverdict.symm, hbefore,
    hbehind, Prod.ext (hsame _ rfl) hrefused, hverdict'.symm⟩

end Service

end Reminders
