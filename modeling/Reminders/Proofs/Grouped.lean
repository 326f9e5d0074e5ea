import Reminders.Proofs.Digits
import Reminders.Proofs.DottedKeys
import Reminders.Proofs.Restricted
import Reminders.Schedule.Dump

/-!
# Reminders under the names of their owners

A dump is a header, a block for each bundle name and a brace (`Schedule.dump_eq`).
`Schedule.GroupedIn` says which blocks these are, without the table that finds the names and
without the sort: the names ascend and are those of the owners, and under a name stand the
reminders that are owned under it, in the order of their triggers and ids.  Reminders that tie in
both keep the order in which they were published.

These facts leave no choice (`Schedule.GroupedIn.eq_blocks`).  Names that ascend are known by
which they are, and a list in order by the entries of each tie (`Entry.eq_of_ordered`).

Each reminder is owned under one name, so the blocks together hold every reminder exactly as
often as the schedule does (`Schedule.GroupedIn.flatMap_perm`).  A name stands for all bundles
that have it, whatever their users, and may hold line breaks.  The line of a reminder holds none
(`Entry.isLine_dumpLine`), since the title in it is quoted, and tells the id of the reminder
(`Entry.printedId?_dumpLine`).
-/

namespace Reminders

/-! ## Texts -/

namespace Text

theorem join_flatMap {α : Type} (f : α → List String) (l : List α) :
    String.join (l.flatMap f) = String.join (l.map fun a => String.join (f a)) := by
  induction l with
  | nil => rfl
  | cons a l ih => rw [List.flatMap_cons, String.join_append, ih, List.map_cons, String.join_cons]

/-- Whether a text holds no line break. -/
def IsLine (s : String) : Prop := '\n' ∉ s.toList

instance (s : String) : Decidable (IsLine s) := inferInstanceAs (Decidable (¬ _))

theorem isLine_append {s t : String} : IsLine (s ++ t) ↔ IsLine s ∧ IsLine t := by
  rw [IsLine, String.toList_append, List.mem_append, not_or]
  rfl

theorem isLine_truth (b : Bool) : IsLine (truth b) := by
  cases b <;> decide

theorem isLine_decimal (n : Int) : IsLine (decimal n) := by
  rw [IsLine, decimal, String.toList_ofList]
  intro h
  rcases eq_or_isDigit_of_mem_decimalChars h with hsign | hdigit
  · exact absurd hsign (by decide)
  · exact absurd hdigit (by decide)

theorem newline_not_mem_padded (width n : Nat) : '\n' ∉ padded width n := fun h =>
  absurd (isDigit_of_mem_padded h) (by decide)

theorem newline_not_mem_hexDigits (n : Nat) : '\n' ∉ hexDigits n := by
  have hdigit : ∀ m < 16, '\n' ≠ hexDigit m := by decide
  induction n using Nat.strongRecOn with
  | ind n ih =>
    rw [hexDigits]
    split
    case isTrue hlt => simpa using hdigit n hlt
    case isFalse hge =>
      rw [List.mem_append, List.mem_singleton, not_or]
      exact ⟨ih (n / 16) (by omega), hdigit (n % 16) (Nat.mod_lt n (by decide))⟩

/-- A line break is not written as it is. -/
theorem newline_not_mem_quotedChar (c : Char) : '\n' ∉ quotedChar c := by
  rw [quotedChar]
  split_ifs with hquote hbackslash htab hbreak hreturn hnull hunprintable
  · decide
  · decide
  · decide
  · decide
  · decide
  · decide
  · have hcode := newline_not_mem_hexDigits c.toNat
    simp [hcode]
  · simpa using Ne.symm hbreak

/-- A quoted text is one line, since line breaks are escaped. -/
theorem isLine_quoted (s : String) : IsLine (quoted s) := by
  rw [IsLine, quoted, String.toList_ofList]
  intro h
  simp only [List.cons_append, List.mem_cons, List.mem_append, List.mem_flatMap,
    List.not_mem_nil, or_false] at h
  rcases h with hquote | ⟨c, -, hc⟩ | hquote
  · exact absurd hquote (by decide)
  · exact newline_not_mem_quotedChar c hc
  · exact absurd hquote (by decide)

end Text

theorem DateTime.isLine_plainText (t : DateTime) : Text.IsLine t.plainText := by
  have hyear : '\n' ∉ yearChars t.date.calendar.year := by
    rw [yearChars]
    split_ifs <;> simp [Text.newline_not_mem_padded]
  rw [Text.IsLine, plainText, String.toList_ofList]
  simp [Date.chars, TimeOfDay.clockChars, Text.newline_not_mem_padded, hyear]

theorem ReminderStatus.isLine_shown (status : ReminderStatus) : Text.IsLine status.shown := by
  cases status with
  | active => decide
  | snoozed => decide
  | showing alerting => cases alerting <;> decide

/-- The line of an entry is a single line, whatever its title holds. -/
theorem Entry.isLine_dumpLine (e : Entry) : Text.IsLine e.dumpLine := by
  have htype : Text.IsLine (Coded.name e.request.type) := by
    cases e.request.type <;> decide
  unfold dumpLine
  extract_lets trigger
  have htrigger : Text.IsLine trigger := by
    unfold trigger
    cases e.trigger with
    | none => decide
    | some t => exact t.isLine_plainText
  simp only [Text.isLine_append, Text.isLine_decimal, Text.isLine_truth, Text.isLine_quoted,
    e.status.isLine_shown, htype, htrigger, and_true]
  -- The texts between these parts are left.
  decide

/-- The number that stands between the lead of the line of an entry and the comma behind it. -/
def Entry.printedId? (line : String) : Option Int :=
  Text.integer? (String.ofList
    ((line.toList.drop "    [id=".toList.length).takeWhile fun c => c ≠ ','))

/-- The line of an entry tells its id. -/
theorem Entry.printedId?_dumpLine (e : Entry) : printedId? e.dumpLine = some e.id.toInt := by
  have hline : ∃ rest, e.dumpLine.toList =
      "    [id=".toList ++ (Text.decimalChars e.id.toInt ++ ',' :: rest) := by
    unfold dumpLine
    simp [Text.decimal]
  obtain ⟨rest, hline⟩ := hline
  have hnumber : ∀ c ∈ Text.decimalChars e.id.toInt, decide (c ≠ ',') = true := by
    intro c hc
    rcases Text.eq_or_isDigit_of_mem_decimalChars hc with rfl | hdigit
    · decide
    · rw [decide_eq_true_eq]
      rintro rfl
      exact absurd hdigit (by decide)
  have hcomma : ∀ c ∈ (',' :: rest).head?, decide (c ≠ ',') = false := by simp
  rw [printedId?, hline, List.drop_left, (Text.span_append _ _ hnumber hcomma).1]
  exact Text.integer?_decimal e.id.toInt

/-! ## The order under a name -/

namespace Entry

/-- Whether the order leaves open which of two entries stands first. -/
def TiesWith (a b : Entry) : Prop := a.trigger = b.trigger ∧ a.id = b.id

instance (a b : Entry) : Decidable (TiesWith a b) := inferInstanceAs (Decidable (_ ∧ _))

/-- Two reminders that may stand in either order tie. -/
theorem tiesWith_of_standsBefore {a b : Entry} (hab : a.StandsBefore b) (hba : b.StandsBefore a) :
    a.TiesWith b := by
  have heq : order a b = .eq :=
    Std.OrientedCmp.isLE_antisymm (precedes_iff.2 hab) (precedes_iff.2 hba)
  obtain ⟨htrigger, hid⟩ := Ordering.then_eq_eq.1 heq
  exact ⟨Std.LawfulEqCmp.eq_of_compare htrigger, Std.LawfulEqCmp.eq_of_compare hid⟩

namespace TiesWith

theorem refl (e : Entry) : e.TiesWith e := ⟨rfl, rfl⟩

theorem symm {a b : Entry} (h : a.TiesWith b) : b.TiesWith a := ⟨h.1.symm, h.2.symm⟩

theorem trans {a b c : Entry} (hab : a.TiesWith b) (hbc : b.TiesWith c) : a.TiesWith c :=
  ⟨hab.1.trans hbc.1, hab.2.trans hbc.2⟩

theorem precedes {a b : Entry} (h : a.TiesWith b) : a.precedes b := by
  have htrigger : compare a.trigger b.trigger = .eq := h.1 ▸ Std.ReflCmp.compare_self
  have hid : compare a.id b.id = .eq := h.2 ▸ Std.ReflCmp.compare_self
  exact congrArg Ordering.isLE (Ordering.then_eq_eq.2 ⟨htrigger, hid⟩)

end TiesWith

/-- The entries of each tie are all entries. -/
theorem mem_iff_of_ties {l m : List Entry}
    (h : ∀ e, l.filter (fun a => a.TiesWith e) = m.filter fun a => a.TiesWith e) (e : Entry) :
    e ∈ l ↔ e ∈ m := by
  simpa [TiesWith.refl e] using congrArg (e ∈ ·) (h e)

/-- Entries in order are known by the entries of each tie. -/
theorem eq_of_ordered {l m : List Entry} (hl : l.Pairwise StandsBefore)
    (hm : m.Pairwise StandsBefore)
    (h : ∀ e, l.filter (fun a => a.TiesWith e) = m.filter fun a => a.TiesWith e) : l = m := by
  have hmem := mem_iff_of_ties h
  induction l generalizing m with
  | nil => exact (List.eq_nil_iff_forall_not_mem.2 fun e he => by simpa using (hmem e).2 he).symm
  | cons a l ih =>
    cases m with
    | nil => simpa using hmem a
    | cons b m =>
      rw [List.pairwise_cons] at hl hm
      -- Each of the two heads stands before the other one, or is the other one.
      have hties : a.TiesWith b := by
        rcases List.mem_cons.1 ((hmem a).1 (by simp)) with rfl | ha
        · exact .refl a
        · rcases List.mem_cons.1 ((hmem b).2 (by simp)) with rfl | hb
          · exact .refl b
          · exact tiesWith_of_standsBefore (hl.1 b hb) (hm.1 a ha)
      have hheads := h b
      rw [List.filter_cons_of_pos (by simpa using hties),
        List.filter_cons_of_pos (by simpa using TiesWith.refl b), List.cons.injEq] at hheads
      obtain ⟨rfl, -⟩ := hheads
      have hrest : ∀ e, l.filter (fun a => a.TiesWith e) = m.filter fun a => a.TiesWith e := by
        intro e
        by_cases hae : a.TiesWith e <;> simpa [hae] using h e
      rw [ih hl.2 hm.2 hrest (mem_iff_of_ties hrest)]

end Entry

/-! ## Blocks -/

/-- A name and the reminders that are listed under it. -/
structure Block where
  /-- The name. -/
  name : String
  /-- The reminders in their order. -/
  entries : List Entry

/-- A block in words: the name, the number of its reminders, a line for each and a brace. -/
def Block.text (b : Block) : String :=
  b.name ++ ":\x7b\n" ++
    "    totalCount:" ++ Text.decimal b.entries.length ++ ",\n" ++
    String.join (b.entries.map fun e => e.dumpLine ++ "\n") ++
    "\x7d,\n"

namespace Schedule

/-- Whether blocks list the reminders of a schedule under the names of their owners. -/
structure GroupedIn (s : Schedule) (blocks : List Block) : Prop where
  /-- The names ascend by their code points, so none of them comes twice. -/
  names_ascending : (blocks.map Block.name).Pairwise (· < ·)
  /-- There is a block for each name of an owner, and for no other. -/
  mem_names_iff : ∀ name : String,
    name ∈ blocks.map Block.name ↔ ∃ e ∈ s.entries, e.bundle.name = name
  /-- Under a name stand the reminders that are owned under it, each as often as it is stored. -/
  entries_perm : ∀ b ∈ blocks, b.entries.Perm (s.entries.filter fun e => e.bundle.name == b.name)
  /-- They are in the order of their triggers and ids. -/
  entries_ordered : ∀ b ∈ blocks, b.entries.Pairwise Entry.StandsBefore
  /-- Where these tie, they are in the order of publication. -/
  entries_ties : ∀ b ∈ blocks, ∀ e : Entry, b.entries.filter (fun a => a.TiesWith e) =
    (s.entries.filter fun a => a.bundle.name == b.name).filter fun a => a.TiesWith e

/-- The blocks of a dump. -/
def blocks (s : Schedule) : List Block :=
  s.bundleNames.map fun name => { name, entries := s.ownedBy name }

variable {s : Schedule} {blocks : List Block}

/-- Entries are told apart by the names of their owners. -/
theorem flatMap_filter_perm {names : List String} (hnodup : names.Nodup) {entries : List Entry}
    (h : ∀ e ∈ entries, e.bundle.name ∈ names) :
    (names.flatMap fun name => entries.filter fun e => e.bundle.name == name).Perm entries := by
  induction names generalizing entries with
  | nil =>
    have hnil : entries = [] := List.eq_nil_iff_forall_not_mem.2 fun e he => by simpa using h e he
    rw [hnil]
    exact .refl _
  | cons name names ih =>
    rw [List.nodup_cons] at hnodup
    have hrest : (names.flatMap fun n => entries.filter fun e => e.bundle.name == n) =
        names.flatMap fun n =>
          (entries.filter fun e => !(e.bundle.name == name)).filter fun e => e.bundle.name == n := by
      refine List.flatMap_congr fun n hn => ?_
      rw [List.filter_filter]
      refine List.filter_congr fun e _ => ?_
      have hne : n ≠ name := fun heq => hnodup.1 (heq ▸ hn)
      by_cases he : e.bundle.name = n
      · simp [he, hne]
      · simp [he]
    have hcovered : ∀ e ∈ entries.filter (fun e => !(e.bundle.name == name)),
        e.bundle.name ∈ names := by
      intro e he
      obtain ⟨he, hne⟩ := List.mem_filter.1 he
      exact (List.mem_cons.1 (h e he)).resolve_left (by simpa using hne)
    rw [List.flatMap_cons, hrest]
    exact ((ih hnodup.2 hcovered).append_left _).trans (List.filter_append_perm _ entries)

/-! ### The names -/

/-- Each name stands once, in ascending order. -/
theorem bundleNames_ascending (s : Schedule) : s.bundleNames.Pairwise (· < ·) :=
  (Table.keys_ascending _).imp fun hlt => compareOfLessAndEq_eq_lt.1 hlt

/-- The names are those of the owners. -/
theorem mem_bundleNames_iff {name : String} :
    name ∈ s.bundleNames ↔ ∃ e ∈ s.entries, e.bundle.name = name := by
  rw [bundleNames, Table.mem_keys_ofList]
  simp

/-! ### The reminders under a name -/

/-- The block of a name holds just its reminders. -/
theorem ownedBy_perm (s : Schedule) (name : String) :
    (s.ownedBy name).Perm (s.entries.filter fun e => e.bundle.name == name) :=
  List.mergeSort_perm _ _

/-- They stand in their order. -/
theorem ownedBy_ordered (s : Schedule) (name : String) :
    (s.ownedBy name).Pairwise Entry.StandsBefore := by
  refine (List.pairwise_mergeSort (fun a b c hab hbc => ?_) (fun a b => ?_) _).imp
    Entry.precedes_iff.1
  · exact Entry.precedes_trans hab hbc
  · exact Entry.precedes_total a b

/-- As the sort is stable, it leaves those that tie in the order of publication. -/
theorem ownedBy_ties (s : Schedule) (name : String) (e : Entry) :
    (s.ownedBy name).filter (fun a => a.TiesWith e) =
      (s.entries.filter fun a => a.bundle.name == name).filter fun a => a.TiesWith e := by
  have hsorted : (s.ownedBy name).filter (fun a => a.TiesWith e) =
      ((s.entries.filter fun a => a.bundle.name == name).filter fun a => a.TiesWith e).mergeSort
        Entry.precedes :=
    filter_mergeSort (@Entry.precedes_trans) Entry.precedes_total _ _
  rw [hsorted]
  refine List.mergeSort_of_pairwise (List.pairwise_of_forall_mem_list fun a ha b hb => ?_)
  have hae : a.TiesWith e := by simpa using (List.mem_filter.1 ha).2
  have hbe : b.TiesWith e := by simpa using (List.mem_filter.1 hb).2
  exact (hae.trans hbe.symm).precedes

/-! ### The blocks -/

theorem names_blocks (s : Schedule) : s.blocks.map Block.name = s.bundleNames := by
  rw [Schedule.blocks, List.map_map]
  exact List.map_id _

theorem text_block (s : Schedule) (name : String) :
    String.join ((s.dumpBundle name).map (· ++ "\n")) =
      Block.text { name, entries := s.ownedBy name } := by
  rw [← String.toList_inj]
  simp [dumpBundle, Block.text, countLine, String.toList_join, Function.comp_def]

/-- The dump is its header and the texts of the blocks. -/
theorem dump_eq (s : Schedule) :
    s.dump = "ReminderDataManager\x7b totalCount:" ++ Text.decimal s.size ++ ",\n" ++
      String.join (s.blocks.map Block.text) ++ "\x7d" := by
  have hblocks : String.join ((s.bundleNames.flatMap s.dumpBundle).map (· ++ "\n")) =
      String.join (s.blocks.map Block.text) := by
    rw [List.map_flatMap, Text.join_flatMap, Schedule.blocks, List.map_map]
    simp only [text_block, Function.comp_def]
  rw [dump, dumpLines, List.map_cons, String.join_cons, hblocks, ← String.toList_inj]
  simp [countLine]

/-- The blocks of the dump group the reminders by their owners. -/
theorem groupedIn_blocks (s : Schedule) : s.GroupedIn s.blocks where
  names_ascending := by
    rw [names_blocks]
    exact s.bundleNames_ascending
  mem_names_iff name := by
    rw [names_blocks]
    exact mem_bundleNames_iff
  entries_perm b hb := by
    obtain ⟨name, -, rfl⟩ := List.mem_map.1 hb
    exact s.ownedBy_perm name
  entries_ordered b hb := by
    obtain ⟨name, -, rfl⟩ := List.mem_map.1 hb
    exact s.ownedBy_ordered name
  entries_ties b hb e := by
    obtain ⟨name, -, rfl⟩ := List.mem_map.1 hb
    exact s.ownedBy_ties name e

-- The two users of the kitchen share a block, where what does not ring comes first.
example :
    let s : Schedule :=
      { entries := [.kettle 2, { Entry.kettle 1 with bundle := { name := "attic" } },
          { Entry.kettle 3 with bundle := { name := "kitchen", uid := some 7 }, trigger := none }] }
    s.blocks.map (fun b => (b.name, b.entries.map Entry.id)) =
      [("attic", [1]), ("kitchen", [3, 2])] := by
  cbv

namespace GroupedIn

/-- There is one way to list the reminders of a schedule. -/
theorem eq_blocks (h : s.GroupedIn blocks) : blocks = s.blocks := by
  have hnames : blocks.map Block.name = s.bundleNames :=
    h.names_ascending.eq_of_mem_iff s.bundleNames_ascending fun name =>
      (h.mem_names_iff name).trans mem_bundleNames_iff.symm
  have hentries : ∀ b ∈ blocks, b = { name := b.name, entries := s.ownedBy b.name } := by
    intro b hb
    have heq : b.entries = s.ownedBy b.name :=
      Entry.eq_of_ordered (h.entries_ordered b hb) (s.ownedBy_ordered b.name) fun e =>
        (h.entries_ties b hb e).trans (s.ownedBy_ties b.name e).symm
    rw [← heq]
  rw [Schedule.blocks, ← hnames, List.map_map]
  exact (List.map_id blocks).symm.trans (List.map_congr_left hentries)

/-- The blocks together hold every reminder as often as the schedule does. -/
theorem flatMap_perm (h : s.GroupedIn blocks) :
    (blocks.flatMap Block.entries).Perm s.entries := by
  have hnodup : (blocks.map Block.name).Nodup := h.names_ascending.imp fun hlt => ne_of_lt hlt
  have hnames : ∀ e ∈ s.entries, e.bundle.name ∈ blocks.map Block.name := fun e he =>
    (h.mem_names_iff _).2 ⟨e, he, rfl⟩
  have hperm := flatMap_filter_perm hnodup hnames
  rw [List.flatMap_map] at hperm
  exact (List.Perm.flatMap_left blocks h.entries_perm).trans hperm

/-- The blocks hold as many reminders as the schedule. -/
theorem sum_lengths (h : s.GroupedIn blocks) :
    (blocks.map fun b => b.entries.length).sum = s.size := by
  rw [← List.length_flatMap, h.flatMap_perm.length_eq, size]

end GroupedIn

/-- A dump is a header with the number of reminders, the blocks of all names and a brace, and
there is one choice of blocks.  Together they print each reminder as often as it is stored, on a
line that tells its id, and their numbers add up to that of the header. -/
theorem dump_grouped (s : Schedule) :
    ∃ blocks : List Block,
      s.GroupedIn blocks ∧ (∀ others, s.GroupedIn others → others = blocks) ∧
      s.dump = "ReminderDataManager\x7b totalCount:" ++ Text.decimal s.size ++ ",\n" ++
        String.join (blocks.map Block.text) ++ "\x7d" ∧
      (blocks.flatMap Block.entries).Perm s.entries ∧
      (∀ e ∈ s.entries, Text.IsLine e.dumpLine ∧ Entry.printedId? e.dumpLine = some e.id.toInt) ∧
      (blocks.map fun b => b.entries.length).sum = s.size := by
  have hgrouped : s.GroupedIn s.blocks := s.groupedIn_blocks
  exact ⟨s.blocks, hgrouped, fun _ => GroupedIn.eq_blocks, s.dump_eq, hgrouped.flatMap_perm,
    fun e _ => ⟨e.isLine_dumpLine, e.printedId?_dumpLine⟩, hgrouped.sum_lengths⟩

end Schedule

end Reminders
