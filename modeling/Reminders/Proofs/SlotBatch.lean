import Reminders.Proofs.ServiceRun
import Reminders.Proofs.Spared

/-!
# Slots added together

A list of slots is added as a whole or not at all.  The slots are put one after another and
each of them may be refused, but what refuses one is known before the first: a slot of the
unknown type by the look at all of them, and the name of the bundle since it is the same for
all.  So `addAll` either refuses and leaves the registry as it was, or it puts every slot
(`SlotRegistry.addAll_eq`).  Of two slots of one type the later counts
(`SlotRegistry.get?_putEach`).

A registry is *reachable* if changes lead to it from the empty one.  Every slot of a reachable
registry is filed under its own type, and none under the unknown one
(`SlotRegistry.Reachable.filed`).  So the list of the slots of a bundle is told by the look-up
(`SlotRegistry.Filed.lists`).
-/

namespace Reminders

namespace SlotRegistry

/-! ## Reachable registries -/

/-- A call that changes a registry. -/
inductive Change where
  | add (bundle : Bundle) (slot : Slot)
  | addAll (bundle : Bundle) (slots : List Slot)
  | remove (bundle : Bundle) (type : SlotType)
  | removeAll (bundle : Bundle)

/-- The registry behind a change.  A slot that is refused leaves it as it was. -/
def perform (r : SlotRegistry) : Change → SlotRegistry
  | .add bundle slot =>
      match r.add bundle slot with
      | .ok r' => r'
      | .error _ => r
  | .addAll bundle slots => (r.addAll bundle slots).1
  | .remove bundle type => r.remove bundle type
  | .removeAll bundle => r.removeAll bundle

/-- The registries to which changes lead from the empty one. -/
inductive Reachable : SlotRegistry → Prop where
  | empty : Reachable {}
  | step {r : SlotRegistry} (change : Change) : Reachable r → Reachable (r.perform change)

/-! ## Putting slots one after another -/

/-- The registry with the slots of a list in place of those of their types. -/
def putEach (r : SlotRegistry) (bundle : Bundle) (slots : List Slot) : SlotRegistry :=
  slots.foldl (fun r slot => r.put bundle slot) r

/-- The last slot of a type in a list. -/
def lastOf? (slots : List Slot) (type : SlotType) : Option Slot :=
  slots.findRev? fun slot => slot.type = type

variable {r : SlotRegistry} {bundle owner : Bundle} {slots : List Slot}

theorem get?_put (r : SlotRegistry) (slot : Slot) (type : SlotType) :
    (r.put bundle slot).get? bundle type =
      if slot.type = type then some slot else r.get? bundle type := by
  rw [get?, put, Table.get?_insert]
  by_cases h : slot.type = type
  · rw [if_pos (by rw [h]), if_pos h]
  · rw [if_neg fun hkey => h (congrArg SlotKey.type hkey).symm, if_neg h]
    rfl

/-- Writing a slot of one bundle leaves those of the others alone. -/
theorem get?_put_of_ne (h : owner.name ≠ bundle.name) (r : SlotRegistry) (slot : Slot)
    (type : SlotType) : (r.put bundle slot).get? owner type = r.get? owner type := by
  rw [get?, put, Table.get?_insert, if_neg fun hkey => h (congrArg SlotKey.bundle hkey)]
  rfl

/-- Of the slots of one type the last one counts. -/
theorem get?_putEach (r : SlotRegistry) (bundle : Bundle) (slots : List Slot) (type : SlotType) :
    (r.putEach bundle slots).get? bundle type =
      (lastOf? slots type).or (r.get? bundle type) := by
  induction slots generalizing r with
  | nil => rfl
  | cons slot rest ih =>
    have hrest : (r.putEach bundle (slot :: rest)).get? bundle type =
        (lastOf? rest type).or ((r.put bundle slot).get? bundle type) := ih (r.put bundle slot)
    rw [hrest, get?_put, lastOf?, lastOf?, List.findRev?]
    cases rest.findRev? fun slot => slot.type = type with
    | some last => rfl
    | none => by_cases h : slot.type = type <;> simp [h]

theorem get?_putEach_of_ne (h : owner.name ≠ bundle.name) (r : SlotRegistry) (slots : List Slot)
    (type : SlotType) : (r.putEach bundle slots).get? owner type = r.get? owner type := by
  induction slots generalizing r with
  | nil => rfl
  | cons slot rest ih => exact (ih (r.put bundle slot)).trans (get?_put_of_ne h r slot type)

/-- The slots of other bundles stay as they are, in their order. -/
theorem entries_putEach (h : owner.name ≠ bundle.name) (r : SlotRegistry) (slots : List Slot) :
    (r.putEach bundle slots).entries owner = r.entries owner := by
  induction slots generalizing r with
  | nil => rfl
  | cons slot rest ih => exact (ih (r.put bundle slot)).trans (entries_put h r slot)

/-! ## All or nothing -/

/-- A named bundle adds slots of known types without a refusal. -/
theorem addEach_of_named (hnamed : bundle.isNamed) (hknown : ∀ slot ∈ slots, slot.type ≠ .unknown)
    (r : SlotRegistry) : r.addEach bundle slots = (r.putEach bundle slots, .ok ()) := by
  induction slots generalizing r with
  | nil => rfl
  | cons slot rest ih =>
    rw [List.forall_mem_cons] at hknown
    have hadd : r.add bundle slot = .ok (r.put bundle slot) :=
      add_eq_ok_iff.2 ⟨Bundle.validate_eq_ok.2 hnamed, hknown.1, rfl⟩
    rw [addEach, hadd]
    exact ih hknown.2 (r.put bundle slot)

/-- A bundle without a name is refused at its first slot. -/
theorem addEach_of_unnamed (hunnamed : bundle.isNamed = false) (hslots : slots ≠ [])
    (r : SlotRegistry) : r.addEach bundle slots = (r, .error (.invalidBundle bundle.name)) := by
  have hvalidate : bundle.validate = .error (.invalidBundle bundle.name) := by
    rw [Bundle.validate, hunnamed]
    rfl
  cases slots with
  | nil => exact absurd rfl hslots
  | cons slot rest =>
    rw [addEach, add, hvalidate]
    rfl

/-- Either every slot is put, or none is. -/
theorem addAll_eq (r : SlotRegistry) (bundle : Bundle) (slots : List Slot) :
    r.addAll bundle slots =
      if ∃ slot ∈ slots, slot.type = .unknown then (r, .error (.invalid .unknownSlot))
      else if slots ≠ [] ∧ bundle.isNamed = false then (r, .error (.invalidBundle bundle.name))
      else (r.putEach bundle slots, .ok ()) := by
  have hany : slots.any (fun slot => decide (slot.type = .unknown)) = true ↔
      ∃ slot ∈ slots, slot.type = .unknown := by simp
  rw [addAll]
  by_cases hunknown : ∃ slot ∈ slots, slot.type = .unknown
  · rw [if_pos (hany.2 hunknown), if_pos hunknown]
  · rw [if_neg fun h => hunknown (hany.1 h), if_neg hunknown]
    have hknown : ∀ slot ∈ slots, slot.type ≠ .unknown := fun slot hslot htype =>
      hunknown ⟨slot, hslot, htype⟩
    split
    case isTrue h => exact addEach_of_unnamed h.2 h.1 r
    case isFalse h =>
      by_cases hslots : slots = []
      · rw [hslots]
        rfl
      · have hnamed : bundle.isNamed = true := by
          rw [← Bool.not_eq_false]
          exact fun hunnamed => h ⟨hslots, hunnamed⟩
        exact addEach_of_named hnamed hknown r

/-! ## Slots under their own types -/

/-- Whether every slot is filed under its own type, which is not the unknown one. -/
def Filed (r : SlotRegistry) : Prop :=
  ∀ entry ∈ r.slots.entries, entry.2.type = entry.1.type ∧ entry.1.type ≠ .unknown

/-- A slot is written under its own type. -/
theorem Filed.put (h : r.Filed) {slot : Slot} (hslot : slot.type ≠ .unknown) :
    (r.put bundle slot).Filed := by
  intro entry hentry
  rcases Table.fst_of_mem_put hentry with rfl | hold
  · exact ⟨rfl, hslot⟩
  · exact h entry hold

theorem Filed.putEach (h : r.Filed) (hslots : ∀ slot ∈ slots, slot.type ≠ .unknown) :
    (r.putEach bundle slots).Filed := by
  induction slots generalizing r with
  | nil => exact h
  | cons slot rest ih =>
    rw [List.forall_mem_cons] at hslots
    exact ih (h.put hslots.1) hslots.2

theorem Filed.filter (h : r.Filed) (p : SlotKey → Bool) : Filed ⟨r.slots.filter p⟩ :=
  fun entry hentry => h entry (List.mem_of_mem_filter hentry)

/-- No change files a slot under another type. -/
theorem Filed.perform (h : r.Filed) (change : Change) : (r.perform change).Filed := by
  cases change with
  | add bundle slot =>
    rw [SlotRegistry.perform]
    split
    case h_1 hadd =>
      obtain ⟨-, hslot, rfl⟩ := add_eq_ok_iff.1 hadd
      exact h.put hslot
    case h_2 => exact h
  | addAll bundle slots =>
    rw [SlotRegistry.perform, addAll_eq]
    split_ifs with hunknown hunnamed
    · exact h
    · exact h
    · exact h.putEach fun slot hslot htype => hunknown ⟨slot, hslot, htype⟩
  | remove bundle type => exact h.filter _
  | removeAll bundle => exact h.filter _

/-- In every registry that can be reached the slots stand under their own types. -/
theorem Reachable.filed (h : r.Reachable) : r.Filed := by
  induction h with
  | empty =>
    intro entry hentry
    cases hentry
  | step change _ ih => exact ih.perform change

/-! ## The list of a bundle -/

/-- How the slots of a bundle are listed: each stored type once, in ascending order, under the
slot's own type and never the unknown one. -/
structure Lists (r : SlotRegistry) (bundle : Bundle) : Prop where
  /-- Every slot stands under its own type. -/
  type_eq : ∀ {type : SlotType} {slot : Slot}, r.get? bundle type = some slot → slot.type = type
  /-- The listed slots are those that the look-up of their type finds. -/
  mem_iff : ∀ slot : Slot, slot ∈ r.list bundle ↔ r.get? bundle slot.type = some slot
  /-- The listed types are the stored ones. -/
  type_mem_iff : ∀ type : SlotType, type ∈ (r.list bundle).map Slot.type ↔ r.has bundle type
  /-- The types ascend, so none of them comes twice. -/
  ascending : ((r.list bundle).map Slot.type).Pairwise fun a b => Coded.number a < Coded.number b
  /-- The unknown type is not listed. -/
  known : .unknown ∉ (r.list bundle).map Slot.type
  /-- The count is that of the list. -/
  count_eq : r.count bundle = (r.list bundle).length

theorem get?_eq_some_iff {type : SlotType} {slot : Slot} :
    r.get? bundle type = some slot ↔ (⟨bundle.name, type⟩, slot) ∈ r.slots.entries :=
  Table.get?_eq_some_iff

/-- Keys of one bundle are in the order of their types. -/
theorem number_lt_of_compare {a b : SlotKey} (h : compare a b = .lt)
    (hbundle : a.bundle = b.bundle) : Coded.number a.type < Coded.number b.type := by
  rcases Ordering.then_eq_lt.1 h with hlt | ⟨-, hlt⟩
  · simp [compareOn, hbundle] at hlt
  · exact Std.compare_eq_lt.1 hlt

namespace Filed

theorem type_eq (h : r.Filed) {type : SlotType} {slot : Slot}
    (hget : r.get? bundle type = some slot) : slot.type = type :=
  (h _ (get?_eq_some_iff.1 hget)).1

/-- The list holds just the slots that can be looked up. -/
theorem mem_list_iff (h : r.Filed) (slot : Slot) :
    slot ∈ r.list bundle ↔ r.get? bundle slot.type = some slot := by
  rw [get?_eq_some_iff, list, List.mem_map]
  constructor
  · rintro ⟨⟨key, _⟩, hentry, rfl⟩
    obtain ⟨hentry, hbundle⟩ := List.mem_filter.1 hentry
    have htype := (h _ hentry).1
    have hkey : key = ⟨bundle.name, key.type⟩ := by
      rw [← eq_of_beq hbundle]
    rw [hkey] at hentry
    rwa [htype]
  · intro hentry
    exact ⟨_, List.mem_filter.2 ⟨hentry, beq_self_eq_true _⟩, rfl⟩

/-- The types in the list are those the bundle has. -/
theorem type_mem_list_iff (h : r.Filed) (type : SlotType) :
    type ∈ (r.list bundle).map Slot.type ↔ r.has bundle type := by
  rw [has, Option.isSome_iff_exists, List.mem_map]
  constructor
  · rintro ⟨slot, hslot, rfl⟩
    exact ⟨slot, (h.mem_list_iff slot).1 hslot⟩
  · rintro ⟨slot, hget⟩
    have hslot := h.type_eq hget
    exact ⟨slot, (h.mem_list_iff slot).2 (by rwa [hslot]), hslot⟩

/-- The list is in the order of the numbers of the types, each at most once. -/
theorem list_ascending (h : r.Filed) (bundle : Bundle) :
    ((r.list bundle).map Slot.type).Pairwise fun a b => Coded.number a < Coded.number b := by
  rw [list, List.map_map, List.pairwise_map]
  have hsorted : (r.entries bundle).Pairwise fun a b => compare a.1 b.1 = .lt :=
    r.slots.ascending.filter _
  refine hsorted.imp_of_mem fun {a b} ha hb hlt => ?_
  obtain ⟨ha, habundle⟩ := List.mem_filter.1 ha
  obtain ⟨hb, hbbundle⟩ := List.mem_filter.1 hb
  have hbundle : a.1.bundle = b.1.bundle := (eq_of_beq habundle).trans (eq_of_beq hbbundle).symm
  rw [Function.comp_apply, Function.comp_apply, (h a ha).1, (h b hb).1]
  exact number_lt_of_compare hlt hbundle

/-- No bundle has a slot of the unknown type. -/
theorem not_has_unknown (h : r.Filed) : ¬ r.has bundle .unknown := by
  rw [has, Option.isSome_iff_exists]
  rintro ⟨slot, hget⟩
  exact (h _ (get?_eq_some_iff.1 hget)).2 rfl

/-- A filed registry lists its slots. -/
theorem lists (h : r.Filed) (bundle : Bundle) : r.Lists bundle where
  type_eq := h.type_eq
  mem_iff := h.mem_list_iff
  type_mem_iff := h.type_mem_list_iff
  ascending := h.list_ascending bundle
  known := fun hmem => h.not_has_unknown ((h.type_mem_list_iff .unknown).1 hmem)
  count_eq := (List.length_map ..).symm

end Filed

/-! ## The main statement -/

/-- Whether the slots of a list are added as a whole or not at all. -/
structure AddsWhole (r : SlotRegistry) (bundle : Bundle) (slots : List Slot) : Prop where
  /-- What is refused, and nothing else is: a slot of the unknown type, and any slot of a bundle
  with a blank name. -/
  refused_iff : (∃ e, (r.addAll bundle slots).2 = .error e) ↔
    (∃ slot ∈ slots, slot.type = .unknown) ∨ slots ≠ [] ∧ Text.trim bundle.name = ""
  /-- A refusal changes nothing. -/
  refused : ∀ e, (r.addAll bundle slots).2 = .error e → (r.addAll bundle slots).1 = r
  /-- Of a type that is in the list its last slot is stored. -/
  own : (r.addAll bundle slots).2 = .ok () → ∀ type : SlotType,
    (r.addAll bundle slots).1.get? bundle type = (lastOf? slots type).or (r.get? bundle type)
  /-- The slots of other bundles stay as they were. -/
  others : (r.addAll bundle slots).2 = .ok () → ∀ other : Bundle, other.name ≠ bundle.name →
    (∀ type : SlotType, (r.addAll bundle slots).1.get? other type = r.get? other type) ∧
      (r.addAll bundle slots).1.list other = r.list other

theorem isNamed_eq_false_iff : bundle.isNamed = false ↔ Text.trim bundle.name = "" := by
  rw [Text.trim_eq_empty_iff, Bundle.isNamed, Bool.not_eq_false']

/-- Adding many slots adds all of them or none, in any registry. -/
theorem addsWhole (r : SlotRegistry) (bundle : Bundle) (slots : List Slot) :
    r.AddsWhole bundle slots := by
  have hadd := addAll_eq r bundle slots
  simp only [isNamed_eq_false_iff] at hadd
  split_ifs at hadd with hunknown hunnamed
  · refine ⟨?_, ?_, ?_, ?_⟩
    · simp [hadd, hunknown]
    · simp [hadd]
    · simp [hadd]
    · simp [hadd]
  · refine ⟨?_, ?_, ?_, ?_⟩
    · simp [hadd, hunnamed]
    · simp [hadd]
    · simp [hadd]
    · simp [hadd]
  · refine ⟨?_, ?_, ?_, ?_⟩
    · simp [hadd, hunknown, hunnamed]
    · simp [hadd]
    · intro _ type
      rw [hadd]
      exact get?_putEach r bundle slots type
    · intro _ other hother
      rw [hadd]
      refine ⟨get?_putEach_of_ne hother r slots, ?_⟩
      rw [list, list, entries_putEach hother]

/-- A list of slots is added as a whole or not at all, and the slots of each bundle are listed
by their types. -/
theorem Reachable.addAll_whole (h : r.Reachable) (bundle : Bundle) (slots : List Slot) :
    r.AddsWhole bundle slots ∧ ∀ owner : Bundle, r.Lists owner :=
  ⟨r.addsWhole bundle slots, h.filed.lists⟩

/-- A registry in which the kitchen has a slot for messages. -/
def messageSlots : SlotRegistry := perform {} (.add .kitchen (Slot.ofType .socialCommunication))

/-- Two slots of one type. -/
def timerSlots : List Slot :=
  [Slot.ofType .other, { Slot.ofType .other with description := "timers" }]

/-- The kitchen adds two slots of one type, of which the second counts. -/
theorem Reachable.addAll_whole_timers :
    messageSlots.Reachable ∧ (messageSlots.addAll .kitchen timerSlots).2 = .ok () ∧
      messageSlots.AddsWhole .kitchen timerSlots ∧ ∀ owner : Bundle, messageSlots.Lists owner :=
  ⟨.step _ .empty, rfl, addAll_whole (.step _ .empty) .kitchen timerSlots⟩

end SlotRegistry

end Reminders
