import Mathlib.Data.List.Nodup
import Reminders.Locale
import Reminders.Json.Record

/-!
# Dotted keys lead to texts

The dotted key of a path names one text of a resource: the one at the end of the path through
nested objects.  This needs that no name is empty and that none holds a dot (`Locale.IsPart`).
Then a path is known by its key (`Locale.keyOf_inj`), and the key of no names at all, which
stands in front of the first name, is that of no path.

What `flatten` gives is told by the paths (`Locale.mem_flatten_iff`), by induction on the
value.  Since a path leads to one text at most, no entry of the table overwrites another one.

A resource may hold a name twice.  The later field counts, for the path through the objects
as for the canonical value that is flattened (`Json.textAt?_canonical`).
-/

namespace Reminders

/-! ## The last entry of a key -/

section LastUnder

variable {κ ν μ : Type} [DecidableEq κ] {key : κ} {value : ν} {es : List (κ × ν)}

/-- What the last entry of a key holds. -/
def lastUnder? (key : κ) (es : List (κ × ν)) : Option ν :=
  (es.findRev? fun e => e.1 = key).map Prod.snd

/-- Of two values under a key the later one counts. -/
theorem lastUnder?_cons (key : κ) (e : κ × ν) (es : List (κ × ν)) :
    lastUnder? key (e :: es) =
      (lastUnder? key es).or (if e.1 = key then some e.2 else none) := by
  rw [lastUnder?, lastUnder?, List.findRev?]
  cases es.findRev? fun e => e.1 = key with
  | some last => rfl
  | none => by_cases h : e.1 = key <;> simp [h]

theorem lastUnder?_map (f : ν → μ) (key : κ) (es : List (κ × ν)) :
    lastUnder? key (es.map fun e => (e.1, f e.2)) = (lastUnder? key es).map f := by
  induction es with
  | nil => rfl
  | cons e es ih =>
    rw [List.map_cons, lastUnder?_cons, ih, lastUnder?_cons]
    cases lastUnder? key es with
    | some last => rfl
    | none => by_cases h : e.1 = key <;> simp [h]

theorem mem_of_lastUnder? (h : lastUnder? key es = some value) : (key, value) ∈ es := by
  induction es with
  | nil => cases h
  | cons e es ih =>
    rw [lastUnder?_cons, Option.or_eq_some_iff] at h
    rcases h with hlast | ⟨-, he⟩
    · exact List.mem_cons_of_mem e (ih hlast)
    · split at he
      case isTrue hkey =>
        cases he
        simp [← hkey]
      case isFalse => cases he

theorem lastUnder?_ne_none (h : (key, value) ∈ es) : lastUnder? key es ≠ none := by
  rw [lastUnder?, ne_eq, Option.map_eq_none_iff, List.findRev?_eq_find?_reverse, List.find?_eq_none]
  exact fun hnone => hnone _ (List.mem_reverse.2 h) (by simp)

/-- Where no key comes twice, every entry is the last one of its key. -/
theorem lastUnder?_eq_some_iff (h : (es.map Prod.fst).Nodup) :
    lastUnder? key es = some value ↔ (key, value) ∈ es := by
  refine ⟨mem_of_lastUnder?, fun hmem => ?_⟩
  obtain ⟨last, hlast⟩ := Option.ne_none_iff_exists'.1 (lastUnder?_ne_none hmem)
  have heq := List.inj_on_of_nodup_map h (mem_of_lastUnder? hlast) hmem rfl
  cases heq
  exact hlast

end LastUnder

namespace Table

open Std (TransOrd LawfulEqOrd)

variable {κ ν : Type} [Ord κ] [TransOrd κ] [LawfulEqOrd κ] [DecidableEq κ]

/-- Values put in one after the other are found by the last one under a key. -/
private theorem get?_foldl_insert (t : Table κ ν) (es : List (κ × ν)) (key : κ) :
    (es.foldl (fun t e => t.insert e.1 e.2) t).get? key =
      (lastUnder? key es).or (t.get? key) := by
  induction es generalizing t with
  | nil => rfl
  | cons e es ih =>
    rw [List.foldl_cons, ih, get?_insert, lastUnder?_cons, Option.or_assoc]
    by_cases h : key = e.1
    · rw [if_pos h, if_pos h.symm, Option.some_or]
    · rw [if_neg h, if_neg fun heq => h heq.symm, Option.none_or]

/-- The table of a list holds the last entry of each key. -/
theorem get?_ofList (es : List (κ × ν)) (key : κ) :
    (ofList es).get? key = lastUnder? key es := by
  rw [ofList, get?_foldl_insert, get?_empty, Option.or_none]

theorem mem_of_mem_ofList {e : κ × ν} {es : List (κ × ν)} (h : e ∈ (ofList es).entries) :
    e ∈ es := by
  have hget := get?_eq_some_iff.2 h
  rw [get?_ofList] at hget
  exact mem_of_lastUnder? hget

/-- The keys of a table are those of its list. -/
theorem mem_keys_ofList {key : κ} {es : List (κ × ν)} :
    key ∈ (ofList es).keys ↔ key ∈ es.map Prod.fst := by
  rw [keys, List.mem_map, List.mem_map]
  constructor
  · rintro ⟨e, he, rfl⟩
    exact ⟨e, mem_of_mem_ofList he, rfl⟩
  · rintro ⟨e, he, rfl⟩
    obtain ⟨value, hvalue⟩ := Option.ne_none_iff_exists'.1 (lastUnder?_ne_none he)
    rw [← get?_ofList, get?_eq_some_iff] at hvalue
    exact ⟨(e.1, value), hvalue, rfl⟩

omit [TransOrd κ] [DecidableEq κ] in
theorem nodup_keys (t : Table κ ν) : (t.entries.map Prod.fst).Nodup := by
  refine t.keys_ascending.imp ?_
  rintro a b hlt rfl
  simp at hlt

/-- In a table each key stands once, so the last value under it is the one that is found. -/
theorem lastUnder?_entries (t : Table κ ν) (key : κ) : lastUnder? key t.entries = t.get? key := by
  refine Option.ext fun value => ?_
  rw [lastUnder?_eq_some_iff t.nodup_keys, get?_eq_some_iff]

end Table

/-! ## Paths through objects -/

namespace Json

/-- The field of a name, if the value is an object.  Of two with that name the later counts. -/
def field? (name : String) : Json → Option Json
  | .object fields => lastUnder? name fields
  | _ => none

/-- The text at the end of a path through nested objects. -/
def textAt? : Json → List String → Option String
  | value, [] => value.text?
  | value, name :: rest => (value.field? name).bind fun inner => inner.textAt? rest

theorem canonicalFields_eq (fields : Fields) :
    canonicalFields fields = fields.map fun field => (field.1, field.2.canonical) := by
  induction fields with
  | nil => rfl
  | cons field rest ih => rw [canonicalFields, ih, List.map_cons]

/-- Canonical objects have the same fields, made canonical. -/
theorem field?_canonical (name : String) (value : Json) :
    value.canonical.field? name = (value.field? name).map canonical := by
  cases value with
  | object fields =>
    rw [canonical, field?, field?, Table.lastUnder?_entries, Table.get?_ofList, canonicalFields_eq,
      lastUnder?_map]
  | _ => rfl

/-- Paths lead through the canonical value as through the value itself. -/
theorem textAt?_canonical (path : List String) (value : Json) :
    value.canonical.textAt? path = value.textAt? path := by
  induction path generalizing value with
  | nil => cases value <;> rfl
  | cons name rest ih =>
    rw [textAt?, textAt?, field?_canonical, Option.bind_map]
    exact Option.bind_congr fun inner _ => ih inner

/-- Whether the fields of a value have a property if it is an object, and those of every object
among them. -/
inductive EveryObject (p : Fields → Prop) : Json → Prop where
  | object {fields : Fields} :
      p fields → (∀ field ∈ fields, EveryObject p field.2) → EveryObject p (.object fields)
  | leaf {value : Json} : (∀ fields, value ≠ .object fields) → EveryObject p value

theorem canonical_of_not_object {value : Json} (h : ∀ fields, value ≠ .object fields) :
    ∀ fields, value.canonical ≠ .object fields := by
  cases value with
  | object fields => exact absurd rfl (h fields)
  | _ => intro fields hvalue; cases hvalue

end Json

namespace Locale

/-! ## Keys and their paths -/

/-- Whether a name may be part of a dotted key: it is not empty and holds no dot. -/
def IsPart (name : String) : Prop := name ≠ "" ∧ '.' ∉ name.toList

instance (name : String) : Decidable (IsPart name) := inferInstanceAs (Decidable (_ ∧ _))

/-- A way through nested objects: one name or more, each of which may be part of a dotted key. -/
structure IsPath (path : List String) : Prop where
  /-- There is a name. -/
  ne_nil : path ≠ []
  /-- Every name may be part of a dotted key. -/
  parts : ∀ name ∈ path, IsPart name

/-- The dotted key of a path. -/
def keyOf (path : List String) : String := ".".intercalate path

theorem keyOf_ne_empty {path : List String} (h : IsPath path) : keyOf path ≠ "" := by
  obtain ⟨name, rest, rfl⟩ := List.exists_cons_of_ne_nil h.ne_nil
  have hname := (h.parts name (by simp)).1
  cases rest with
  | nil => simpa [keyOf] using hname
  | cons next rest => simp [keyOf, hname]

/-- A name behind a path makes a longer path.  The key of no names is not mistaken for one. -/
theorem dotted_keyOf {path : List String} (h : ∀ name ∈ path, IsPart name) (name : String) :
    dotted (keyOf path) name = keyOf (path ++ [name]) := by
  by_cases hpath : path = []
  · rw [hpath]
    simp [keyOf, dotted]
  · rw [dotted, if_neg (keyOf_ne_empty ⟨hpath, h⟩), keyOf, keyOf,
      String.intercalate_append_of_ne_nil hpath (by simp), String.intercalate_singleton]

/-- The key of a path tells its names apart at the dots. -/
theorem splitOn_keyOf {path : List String} (h : IsPath path) :
    (keyOf path).toList.splitOn '.' = path.map String.toList := by
  have hkey : (keyOf path).toList = ['.'].intercalate (path.map String.toList) := by
    rw [keyOf, String.toList_intercalate]
    rfl
  rw [hkey]
  refine List.splitOn_intercalate '.' ?_ (by simpa using h.ne_nil)
  intro cs hcs
  obtain ⟨name, hname, rfl⟩ := List.mem_map.1 hcs
  exact (h.parts name hname).2

/-- Names without dots can be told apart in the key, so it names one path. -/
theorem keyOf_inj {path path' : List String} (h : IsPath path) (h' : IsPath path')
    (heq : keyOf path = keyOf path') : path = path' := by
  have hsplit := splitOn_keyOf h
  rw [heq, splitOn_keyOf h'] at hsplit
  exact ((List.map_inj_right fun _ _ => String.toList_inj.1).1 hsplit).symm

/-! ## Entries and paths -/

/-- Whether every name among some fields may be part of a dotted key. -/
def PartNames (fields : Json.Fields) : Prop := ∀ field ∈ fields, IsPart field.1

instance (fields : Json.Fields) : Decidable (PartNames fields) :=
  inferInstanceAs (Decidable (∀ field ∈ fields, IsPart field.1))

/-- Whether every name may be part of a dotted key, and none comes twice. -/
def KeyNames (fields : Json.Fields) : Prop := PartNames fields ∧ (fields.map Prod.fst).Nodup

/-- In a canonical value no name comes twice. -/
theorem keyNames_canonical {value : Json} (h : value.EveryObject PartNames) :
    value.canonical.EveryObject KeyNames := by
  induction h with
  | leaf hleaf => exact .leaf (Json.canonical_of_not_object hleaf)
  | @object fields hnames _ ih =>
    rw [Json.canonical]
    have hfield : ∀ field ∈ (Table.ofList (Json.canonicalFields fields)).entries,
        ∃ old ∈ fields, (old.1, old.2.canonical) = field := by
      intro field hfield
      rw [← List.mem_map, ← Json.canonicalFields_eq]
      exact Table.mem_of_mem_ofList hfield
    refine .object ⟨?_, Table.nodup_keys _⟩ ?_
    · intro field hmem
      obtain ⟨old, hold, rfl⟩ := hfield field hmem
      exact hnames old hold
    · intro field hmem
      obtain ⟨old, hold, rfl⟩ := hfield field hmem
      exact ih old hold

theorem flattenFields_eq (path : String) (fields : Json.Fields) :
    flattenFields path fields =
      fields.flatMap fun field => flatten (dotted path field.1) field.2 := by
  induction fields with
  | nil => rfl
  | cons field rest ih => rw [flattenFields, ih, List.flatMap_cons]

/-- The entries behind a path are the texts at the ends of the paths that go on from it. -/
theorem mem_flatten_iff {value : Json} (h : value.EveryObject KeyNames) {front : List String}
    (hfront : ∀ name ∈ front, IsPart name) {key text : String} :
    (key, text) ∈ flatten (keyOf front) value ↔
      ∃ path : List String, (∀ name ∈ path, IsPart name) ∧ value.textAt? path = some text ∧
        key = keyOf (front ++ path) := by
  induction h generalizing front with
  | @leaf value hleaf =>
    cases value with
    | object fields => exact absurd rfl (hleaf fields)
    | text s =>
      rw [flatten, List.mem_singleton, Prod.mk.injEq]
      constructor
      · rintro ⟨rfl, rfl⟩
        exact ⟨[], by simp, rfl, by rw [List.append_nil]⟩
      · rintro ⟨path, -, htext, rfl⟩
        cases path with
        | nil =>
          cases htext
          exact ⟨by rw [List.append_nil], rfl⟩
        | cons name rest => cases htext
    | _ =>
      refine ⟨fun hmem => absurd hmem List.not_mem_nil, ?_⟩
      rintro ⟨path, -, htext, -⟩
      cases path <;> cases htext
  | @object fields hnames _ ih =>
    obtain ⟨hparts, hnodup⟩ := hnames
    have hlonger : ∀ field ∈ fields, ∀ name ∈ front ++ [field.1], IsPart name := by
      intro field hfield
      rw [List.forall_mem_append, List.forall_mem_singleton]
      exact ⟨hfront, hparts field hfield⟩
    rw [flatten, flattenFields_eq, List.mem_flatMap]
    constructor
    · rintro ⟨field, hfield, hmem⟩
      rw [dotted_keyOf hfront, ih field hfield (hlonger field hfield)] at hmem
      obtain ⟨rest, hrest, htext, rfl⟩ := hmem
      refine ⟨field.1 :: rest, List.forall_mem_cons.2 ⟨hparts field hfield, hrest⟩, ?_, by simp⟩
      rw [Json.textAt?, Json.field?, (lastUnder?_eq_some_iff hnodup).2 hfield,
        Option.bind_some, htext]
    · rintro ⟨path, hpath, htext, rfl⟩
      cases path with
      | nil => cases htext
      | cons name rest =>
        obtain ⟨inner, hget, htext⟩ := Option.bind_eq_some_iff.1 htext
        have hfield : (name, inner) ∈ fields := (lastUnder?_eq_some_iff hnodup).1 hget
        refine ⟨(name, inner), hfield, ?_⟩
        rw [dotted_keyOf hfront, ih _ hfield (hlonger _ hfield)]
        exact ⟨rest, (List.forall_mem_cons.1 hpath).2, htext, by simp⟩

variable {fields : Json.Fields}

/-- The entries of an object are the texts at the ends of its paths. -/
theorem mem_flatten_object_iff (h : (Json.object fields).EveryObject KeyNames)
    {key text : String} :
    (key, text) ∈ flatten "" (.object fields) ↔
      ∃ path, IsPath path ∧ (Json.object fields).textAt? path = some text ∧ key = keyOf path := by
  have hempty : keyOf [] = "" := by simp [keyOf]
  rw [← hempty, mem_flatten_iff h (by simp)]
  simp only [List.nil_append]
  constructor
  · rintro ⟨path, hparts, htext, rfl⟩
    have hne : path ≠ [] := by
      rintro rfl
      cases htext
    exact ⟨path, ⟨hne, hparts⟩, htext, rfl⟩
  · rintro ⟨path, hpath, htext, rfl⟩
    exact ⟨path, hpath.parts, htext, rfl⟩

/-- The last entry of the key of a path holds the text at its end. -/
theorem lastUnder?_keyOf (h : (Json.object fields).EveryObject KeyNames) {path : List String}
    (hpath : IsPath path) :
    lastUnder? (keyOf path) (flatten "" (.object fields)) =
      (Json.object fields).textAt? path := by
  cases hlast : lastUnder? (keyOf path) (flatten "" (.object fields)) with
  | some text =>
    obtain ⟨path', hpath', htext, hkey⟩ := (mem_flatten_object_iff h).1 (mem_of_lastUnder? hlast)
    rw [keyOf_inj hpath hpath' hkey, htext]
  | none =>
    cases htext : (Json.object fields).textAt? path with
    | none => rfl
    | some text =>
      have hmem := (mem_flatten_object_iff h).2 ⟨path, hpath, htext, rfl⟩
      exact absurd hlast (lastUnder?_ne_none hmem)

/-! ## Translations -/

/-- Whether a locale translates the dotted keys of an object to the texts at the ends of their
paths, and all other keys to themselves. -/
structure Translates (locale : Locale) (object : Json) : Prop where
  /-- A path leads to a text, or its key stands for itself. -/
  path : ∀ path, IsPath path →
    locale.translate (keyOf path) = (object.textAt? path).getD (keyOf path)
  /-- A key that is that of no path stands for itself. -/
  other : ∀ key, (∀ path, IsPath path → key ≠ keyOf path) → locale.translate key = key

/-- A resource whose names have no dots is translated by its paths. -/
theorem translates_of_keyNames (h : (Json.object fields).EveryObject KeyNames) :
    (ofJson (.object fields)).Translates (.object fields) where
  path := by
    intro path hpath
    rw [translate, ofJson, Table.get?_ofList, lastUnder?_keyOf h hpath]
  other := by
    intro key hkey
    rw [translate, ofJson, Table.get?_ofList]
    cases hlast : lastUnder? key (flatten "" (.object fields)) with
    | some text =>
      obtain ⟨path, hpath, -, heq⟩ := (mem_flatten_object_iff h).1 (mem_of_lastUnder? hlast)
      exact absurd heq (hkey path hpath)
    | none => rfl

/-- In the locale of an object whose names may be parts of dotted keys every path leads to its
text, and so it is in the locale of every JSON text that holds this object. -/
theorem translates_paths (h : (Json.object fields).EveryObject PartNames) :
    (ofJson (Json.object fields).canonical).Translates (.object fields) ∧
      ∀ resource : String, Json.read? resource = some (.object fields) →
        (Json.object fields).readable = true →
        ∃ locale, parse resource = .ok locale ∧ locale.Translates (.object fields) := by
  have htranslates : (ofJson (Json.object fields).canonical).Translates (.object fields) := by
    have hcanonical := translates_of_keyNames (keyNames_canonical h)
    refine ⟨fun path hpath => ?_, hcanonical.other⟩
    rw [← Json.textAt?_canonical]
    exact hcanonical.path path hpath
  refine ⟨htranslates, fun resource hresource hreadable => ⟨_, ?_, htranslates⟩⟩
  rw [parse, Json.parse?, hresource, Option.bind_some, if_pos hreadable]

theorem partNames_english : englishResource.EveryObject PartNames := by
  refine .object (by decide +kernel) ?_
  rw [List.forall_mem_singleton]
  refine .object (by decide +kernel) ?_
  rw [List.forall_mem_cons, List.forall_mem_cons, List.forall_mem_singleton]
  exact ⟨.leaf nofun, .leaf nofun, .leaf nofun⟩

/-- The texts of the dialog are at the ends of their paths. -/
theorem translates_paths_english :
    englishResource.EveryObject PartNames ∧
      englishResource.textAt? ["message", "allowButton"] = some "Allow" ∧
      (ofJson englishResource.canonical).Translates englishResource ∧
        ∀ resource : String, Json.read? resource = some englishResource →
          englishResource.readable = true →
          ∃ locale, parse resource = .ok locale ∧ locale.Translates englishResource :=
  ⟨partNames_english, by decide +kernel, translates_paths partNames_english⟩

end Locale

end Reminders
