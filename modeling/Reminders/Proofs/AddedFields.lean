import Reminders.Proofs.Records

/-!
# Fields among others

An object may hold other fields besides those of a record, and its fields may stand in any
order.  `Json.Fields.Extends` says that the fields of an object are those of a record and some
that were added, none of which has one of the names that the reader asks for.  Then under each
of these names stands what stood there before (`Json.Fields.Extends.filter_name`), so every part
is read as it would be from the record alone.
-/

namespace Reminders.Json

namespace Fields

/-- Whether fields are those of a record and some added ones, in any order.  No added field
has one of the names. -/
structure Extends (fields : Fields) (names : List String) (own added : Fields) : Prop where
  /-- The fields are those of the record and the added ones. -/
  perm : fields.Perm (own ++ added)
  /-- An added field has another name. -/
  fresh : ∀ field ∈ added, field.1 ∉ names

variable {fields own added : Fields} {names : List String} {name : String} {α : Type}
  {read : Json → Option α} {default : α}

/-- A field is the first one with its name. -/
theorem get?_eq_head? (fields : Fields) (name : String) :
    fields.get? name = ((fields.filter fun field => field.1 == name).head?).map Prod.snd := by
  rw [List.head?_filter, get?]
  induction fields with
  | nil => rfl
  | cons field rest ih =>
    obtain ⟨other, value⟩ := field
    by_cases h : name = other
    · simp [h]
    · have hne : other ≠ name := fun heq => h heq.symm
      simp [List.lookup_cons, beq_eq_false_iff_ne.2 h, hne, ih]

namespace Extends

theorem refl (fields : Fields) (names : List String) : fields.Extends names fields [] :=
  ⟨by rw [List.append_nil], by simp⟩

/-- Under a name of the record stands what stood there before. -/
theorem filter_name (h : fields.Extends names own added) (hown : (own.map Prod.fst).Nodup)
    (hname : name ∈ names) :
    (fields.filter fun field => field.1 == name) = own.filter fun field => field.1 == name := by
  have hadded : (added.filter fun field => field.1 == name) = [] := by
    rw [List.filter_eq_nil_iff]
    intro field hfield heq
    exact h.fresh field hfield (eq_of_beq heq ▸ hname)
  have hperm := h.perm.filter fun field => field.1 == name
  rw [List.filter_append, hadded, List.append_nil] at hperm
  have honce : (own.filter fun field => field.1 == name).length ≤ 1 := by
    have hcount := List.all_eq_true.1 (unrepeated_of_nodup hown [name]) name (by simp)
    rwa [decide_eq_true_eq] at hcount
  generalize own.filter (fun field => field.1 == name) = found at hperm honce
  match found, honce with
  | [], _ => exact hperm.eq_nil
  | [field], _ => exact List.perm_singleton.1 hperm

/-- An own field is found among added ones. -/
theorem get?_eq (h : fields.Extends names own added) (hown : (own.map Prod.fst).Nodup)
    (hname : name ∈ names) : fields.get? name = own.get? name := by
  rw [get?_eq_head?, get?_eq_head?, h.filter_name hown hname]

theorem required_eq (h : fields.Extends names own added) (hown : (own.map Prod.fst).Nodup)
    (hname : name ∈ names) : fields.required name read = own.required name read := by
  rw [required, required, h.get?_eq hown hname]

theorem defaulted_eq (h : fields.Extends names own added) (hown : (own.map Prod.fst).Nodup)
    (hname : name ∈ names) :
    fields.defaulted name read default = own.defaulted name read default := by
  rw [defaulted, defaulted, h.get?_eq hown hname]

/-- None of the names of the record comes twice. -/
theorem unrepeated_eq (h : fields.Extends names own added) (hown : (own.map Prod.fst).Nodup)
    {asked : List String} (hasked : ∀ name ∈ asked, name ∈ names) :
    fields.unrepeated asked = true := by
  rw [unrepeated, List.all_eq_true]
  intro name hname
  have hcount := List.all_eq_true.1 (unrepeated_of_nodup hown asked) name hname
  rwa [count, h.filter_name hown (hasked name hname)]

/-- Added fields repeat none of the own names. -/
theorem objectFields?_eq (h : fields.Extends names own added) (hown : (own.map Prod.fst).Nodup)
    {asked : List String} (hasked : ∀ name ∈ asked, name ∈ names) :
    objectFields? asked (.object fields) = some fields := by
  rw [objectFields?, if_pos (h.unrepeated_eq hown hasked)]

end Extends

end Fields

end Reminders.Json
