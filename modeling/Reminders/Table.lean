/-!
# Tables in the order of their keys

A *table* is a list of entries, a key and a value each, in strictly ascending
order of the keys.  So no key comes twice, and two tables with the same entries
are equal.

`insert` puts a value under a key and replaces the one that stood there.
`erase` and `filter` drop entries.  `get?_insert`, `get?_erase` and `get?_filter`
say what each of them does to the look-up, and `ext_get?` says that the look-up
determines the table.
-/

namespace Reminders

open Std (TransOrd LawfulEqOrd)

universe u v

/-- Entries in strictly ascending order of their keys. -/
structure Table (κ : Type u) (ν : Type v) [Ord κ] where
  /-- The entries, least key first. -/
  entries : List (κ × ν)
  /-- The keys ascend. -/
  ascending : entries.Pairwise fun a b => compare a.1 b.1 = .lt

namespace Table

variable {κ : Type u} {ν : Type v}

/-! ## Entries of a sorted list -/

/-- Puts an entry into an ascending list and replaces the one with its key. -/
def put [Ord κ] (key : κ) (value : ν) : List (κ × ν) → List (κ × ν)
  | [] => [(key, value)]
  | entry :: rest =>
      match compare key entry.1 with
      | .lt => (key, value) :: entry :: rest
      | .eq => (key, value) :: rest
      | .gt => entry :: put key value rest

/-- The value that a list of entries holds for a key. -/
def find? [Ord κ] (key : κ) : List (κ × ν) → Option ν
  | [] => none
  | entry :: rest => if compare key entry.1 = .eq then some entry.2 else find? key rest

theorem fst_of_mem_put [Ord κ] {key : κ} {value : ν} {es : List (κ × ν)} {e : κ × ν}
    (h : e ∈ put key value es) : e = (key, value) ∨ e ∈ es := by
  induction es with
  | nil => simp_all [put]
  | cons entry rest ih =>
    simp only [put] at h
    split at h <;> grind

theorem pairwise_put [Ord κ] [TransOrd κ] (key : κ) (value : ν) {es : List (κ × ν)}
    (h : es.Pairwise fun a b => compare a.1 b.1 = .lt) :
    (put key value es).Pairwise fun a b => compare a.1 b.1 = .lt := by
  induction es with
  | nil => simp [put]
  | cons entry rest ih =>
    obtain ⟨hfirst, hrest⟩ := List.pairwise_cons.1 h
    simp only [put]
    split
    case h_1 hlt =>
      refine List.Pairwise.cons (fun e he => ?_) h
      rcases List.mem_cons.1 he with rfl | he
      · exact hlt
      · exact Std.TransCmp.lt_trans hlt (hfirst e he)
    case h_2 heq =>
      exact List.Pairwise.cons (fun e he => Std.TransCmp.lt_of_eq_of_lt heq (hfirst e he)) hrest
    case h_3 hgt =>
      refine List.Pairwise.cons (fun e he => ?_) (ih hrest)
      rcases fst_of_mem_put he with rfl | he
      · exact Std.OrientedCmp.lt_of_gt hgt
      · exact hfirst e he

/-! ## Operations -/

variable [Ord κ]

/-- The table without entries. -/
def empty : Table κ ν := ⟨[], .nil⟩

instance : EmptyCollection (Table κ ν) := ⟨empty⟩

instance : Inhabited (Table κ ν) := ⟨empty⟩

/-- The value under a key. -/
def get? (t : Table κ ν) (key : κ) : Option ν := find? key t.entries

/-- The keys, least first. -/
def keys (t : Table κ ν) : List κ := t.entries.map (·.1)

/-- The values, in the order of their keys. -/
def values (t : Table κ ν) : List ν := t.entries.map (·.2)

/-- How many entries there are. -/
def size (t : Table κ ν) : Nat := t.entries.length

/-- The table with a value under a key, in place of the one that stood there. -/
def insert [TransOrd κ] (t : Table κ ν) (key : κ) (value : ν) : Table κ ν :=
  ⟨put key value t.entries, pairwise_put key value t.ascending⟩

/-- The entries whose key satisfies a test. -/
def filter (t : Table κ ν) (p : κ → Bool) : Table κ ν :=
  ⟨t.entries.filter fun e => p e.1, t.ascending.filter _⟩

/-- The table without a key. -/
def erase (t : Table κ ν) (key : κ) : Table κ ν := t.filter fun k => compare key k != .eq

/-- The table of a list of entries.  Of two with one key the later counts. -/
def ofList [TransOrd κ] (es : List (κ × ν)) : Table κ ν :=
  es.foldl (fun t e => t.insert e.1 e.2) empty

/-! ## The look-up -/

theorem get?_empty (key : κ) : (empty : Table κ ν).get? key = none := rfl

private theorem find?_put [TransOrd κ] [LawfulEqOrd κ] [DecidableEq κ] (key key' : κ) (value : ν)
    (es : List (κ × ν)) :
    find? key' (put key value es) = if key' = key then some value else find? key' es := by
  induction es with
  | nil => simp [put, find?]
  | cons entry rest ih =>
    simp only [put]
    split
    case h_1 hlt => simp [find?]
    case h_2 heq =>
      have hkey : key = entry.1 := Std.LawfulEqCmp.eq_of_compare heq
      by_cases h : key' = key
      · simp [find?, h]
      · have : key' ≠ entry.1 := fun e => h (e.trans hkey.symm)
        simp [find?, h, this]
    case h_3 hgt =>
      have hne : key ≠ entry.1 := by
        rintro rfl
        simp at hgt
      by_cases h : key' = entry.1
      · have : entry.1 ≠ key := fun e => hne e.symm
        simp [find?, h, this]
      · simp [find?, h, ih]

theorem get?_insert [TransOrd κ] [LawfulEqOrd κ] [DecidableEq κ] (t : Table κ ν)
    (key key' : κ) (value : ν) :
    (t.insert key value).get? key' = if key' = key then some value else t.get? key' :=
  find?_put key key' value t.entries

private theorem find?_filter [TransOrd κ] [LawfulEqOrd κ] (p : κ → Bool) (key : κ)
    (es : List (κ × ν)) :
    find? key (es.filter fun e => p e.1) = if p key then find? key es else none := by
  induction es with
  | nil => simp [find?]
  | cons entry rest ih =>
    by_cases hk : key = entry.1
    · subst hk
      by_cases hp : p entry.1
      · simp [find?, hp]
      · simpa [find?, hp] using ih
    · by_cases hp : p entry.1
      · simp [find?, hk, hp, ih]
      · simp [find?, hk, hp, ih]

theorem get?_filter [TransOrd κ] [LawfulEqOrd κ] (t : Table κ ν) (p : κ → Bool) (key : κ) :
    (t.filter p).get? key = if p key then t.get? key else none :=
  find?_filter p key t.entries

theorem get?_erase [TransOrd κ] [LawfulEqOrd κ] [DecidableEq κ] (t : Table κ ν) (key key' : κ) :
    (t.erase key).get? key' = if key' = key then none else t.get? key' := by
  rw [erase, get?_filter]
  by_cases h : key' = key
  · simp [h]
  · have : key ≠ key' := fun e => h e.symm
    simp [h, this]

private theorem find?_eq_some_iff [TransOrd κ] [LawfulEqOrd κ] {key : κ} {value : ν}
    {es : List (κ × ν)} (h : es.Pairwise fun a b => compare a.1 b.1 = .lt) :
    find? key es = some value ↔ (key, value) ∈ es := by
  induction es with
  | nil => simp [find?]
  | cons entry rest ih =>
    obtain ⟨hfirst, hrest⟩ := List.pairwise_cons.1 h
    rw [List.mem_cons]
    by_cases hkey : key = entry.1
    · subst hkey
      have hbehind : (entry.1, value) ∉ rest := fun hmem => by
        have := hfirst _ hmem
        simp at this
      simp [find?, hbehind, Prod.ext_iff, eq_comm]
    · have hne : (key, value) ≠ entry := fun heq => hkey (congrArg Prod.fst heq)
      simp [find?, hkey, hne, ih hrest]

theorem get?_eq_some_iff [TransOrd κ] [LawfulEqOrd κ] {t : Table κ ν} {key : κ} {value : ν} :
    t.get? key = some value ↔ (key, value) ∈ t.entries :=
  find?_eq_some_iff t.ascending

theorem keys_ascending (t : Table κ ν) : t.keys.Pairwise fun a b => compare a b = .lt :=
  List.pairwise_map.2 t.ascending

/-! ## The look-up determines the table -/

private theorem find?_eq_none_of_lt [TransOrd κ] {key : κ} {es : List (κ × ν)}
    (h : ∀ e ∈ es, compare key e.1 = .lt) : find? key es = none := by
  induction es with
  | nil => rfl
  | cons entry rest ih =>
    have := h entry (by simp)
    simp [find?, this, ih fun e he => h e (by simp [he])]

private theorem entries_ext [TransOrd κ] [LawfulEqOrd κ] {es es' : List (κ × ν)}
    (hes : es.Pairwise fun a b => compare a.1 b.1 = .lt)
    (hes' : es'.Pairwise fun a b => compare a.1 b.1 = .lt)
    (h : ∀ key, find? key es = find? key es') : es = es' := by
  induction es generalizing es' with
  | nil =>
    cases es' with
    | nil => rfl
    | cons e' rest' => simpa [find?] using h e'.1
  | cons e rest ih =>
    obtain ⟨hfirst, hrest⟩ := List.pairwise_cons.1 hes
    cases es' with
    | nil => simpa [find?] using h e.1
    | cons e' rest' =>
      obtain ⟨hfirst', hrest'⟩ := List.pairwise_cons.1 hes'
      cases hc : compare e.1 e'.1 with
      | lt =>
        have hnone : find? e.1 (e' :: rest') = none := find?_eq_none_of_lt fun x hx => by
          rcases List.mem_cons.1 hx with rfl | hx
          · exact hc
          · exact Std.TransCmp.lt_trans hc (hfirst' x hx)
        have := h e.1
        rw [hnone] at this
        simp [find?] at this
      | gt =>
        have hlt := Std.OrientedCmp.lt_of_gt hc
        have hnone : find? e'.1 (e :: rest) = none := find?_eq_none_of_lt fun x hx => by
          rcases List.mem_cons.1 hx with rfl | hx
          · exact hlt
          · exact Std.TransCmp.lt_trans hlt (hfirst x hx)
        have := h e'.1
        rw [hnone] at this
        simp [find?] at this
      | eq =>
        have hkey : e.1 = e'.1 := Std.LawfulEqCmp.eq_of_compare hc
        have hvalue : e.2 = e'.2 := by
          have := h e.1
          simpa [find?, hkey] using this
        have hes : e = e' := Prod.ext hkey hvalue
        subst hes
        congr 1
        refine ih hrest hrest' fun key => ?_
        by_cases hk : key = e.1
        · rw [hk, find?_eq_none_of_lt hfirst, find?_eq_none_of_lt hfirst']
        · have := h key
          simpa [find?, hk] using this

theorem ext_get? [TransOrd κ] [LawfulEqOrd κ] {t t' : Table κ ν}
    (h : ∀ key, t.get? key = t'.get? key) : t = t' := by
  cases t with
  | mk es hes =>
    cases t' with
    | mk es' hes' =>
      have := entries_ext hes hes' h
      subst this
      rfl

end Table

end Reminders
