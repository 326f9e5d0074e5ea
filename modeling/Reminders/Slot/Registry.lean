import Reminders.Error
import Reminders.Table

/-!
# Registry of slots

A registry holds at most one slot of each type for each bundle name.  Adding a
slot replaces the one of its type.  A bundle needs a name to add a slot, and no
slot of the unknown type is added.  `addAll` adds the slots of a list one after
another, after a look at all of them.
-/

namespace Reminders

/-! ## Keys -/

/-- The place of a slot in a registry. -/
structure SlotKey where
  /-- The name of the bundle that owns it. -/
  bundle : String
  /-- Its type. -/
  type : SlotType
deriving DecidableEq

namespace SlotKey

instance : Ord SlotKey :=
  ⟨compareLex (compareOn SlotKey.bundle) (compareOn fun key => Coded.number key.type)⟩

instance : Std.TransOrd SlotKey :=
  inferInstanceAs (Std.TransCmp
    (compareLex (compareOn SlotKey.bundle) (compareOn fun key => Coded.number key.type)))

instance : Std.LawfulEqOrd SlotKey where
  eq_of_compare {a b} h := by
    obtain ⟨hbundle, htype⟩ := Ordering.then_eq_eq.1 h
    have hbundle : a.bundle = b.bundle := Std.LawfulEqCmp.eq_of_compare hbundle
    have htype : Coded.number a.type = Coded.number b.type :=
      Std.LawfulEqCmp.eq_of_compare htype
    have htype : a.type = b.type := by
      have ha := Coded.ofNumber?_number a.type
      rw [htype, Coded.ofNumber?_number] at ha
      exact (Option.some.inj ha).symm
    cases a
    cases b
    simp_all

end SlotKey

/-! ## The registry -/

/-- The slots of all bundles. -/
structure SlotRegistry where
  /-- The slots under their keys. -/
  slots : Table SlotKey Slot := {}
deriving Inhabited

namespace SlotRegistry

/-- The slot of a type that a bundle has. -/
def get? (r : SlotRegistry) (bundle : Bundle) (type : SlotType) : Option Slot :=
  r.slots.get? ⟨bundle.name, type⟩

/-- The entries that a bundle owns. -/
def entries (r : SlotRegistry) (bundle : Bundle) : List (SlotKey × Slot) :=
  r.slots.entries.filter fun e => e.1.bundle == bundle.name

/-- The slots of a bundle in ascending order of their types. -/
def list (r : SlotRegistry) (bundle : Bundle) : List Slot := (r.entries bundle).map (·.2)

/-- How many slots a bundle has. -/
def count (r : SlotRegistry) (bundle : Bundle) : Nat := (r.entries bundle).length

/-- The registry with a slot in place of the one of its type. -/
def put (r : SlotRegistry) (bundle : Bundle) (slot : Slot) : SlotRegistry :=
  ⟨r.slots.insert ⟨bundle.name, slot.type⟩ slot⟩

/-- Adds a slot of a bundle. -/
def add (r : SlotRegistry) (bundle : Bundle) (slot : Slot) : Except Error SlotRegistry := do
  bundle.validate
  if slot.type = .unknown then throw (.invalid .unknownSlot)
  return r.put bundle slot

/-- Adds the slots of a list up to the first that is refused. -/
def addEach (r : SlotRegistry) (bundle : Bundle) : List Slot → Outcome SlotRegistry Unit
  | [] => (r, .ok ())
  | slot :: rest =>
      match r.add bundle slot with
      | .ok r => r.addEach bundle rest
      | .error e => (r, .error e)

/-- Adds the slots of a list, unless one of them is of the unknown type. -/
def addAll (r : SlotRegistry) (bundle : Bundle) (slots : List Slot) : Outcome SlotRegistry Unit :=
  if slots.any (·.type = .unknown) then (r, .error (.invalid .unknownSlot))
  else r.addEach bundle slots

/-- Whether a bundle has a slot of a type. -/
def has (r : SlotRegistry) (bundle : Bundle) (type : SlotType) : Bool :=
  (r.get? bundle type).isSome

/-- Drops the slot of a type, if there is one. -/
def remove (r : SlotRegistry) (bundle : Bundle) (type : SlotType) : SlotRegistry :=
  ⟨r.slots.erase ⟨bundle.name, type⟩⟩

/-- Drops all slots of a bundle. -/
def removeAll (r : SlotRegistry) (bundle : Bundle) : SlotRegistry :=
  ⟨r.slots.filter fun key => key.bundle != bundle.name⟩

end SlotRegistry

end Reminders
