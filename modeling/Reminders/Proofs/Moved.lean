import Mathlib.Data.List.Forall2
import Mathlib.Data.List.Nodup
import Reminders.Proofs.Movement

/-!
# How the entries of a schedule move

Every operation but an accepted publishing keeps the entries in their order.  It
moves each of them, drops some, and gives no id away.  `Schedule.Moved` says so
for a relation between an entry and what it becomes, and a test of what is kept.

An operation on one reminder puts a changed entry in place of the first one with
its id, and leaves all others alone.  That is `Schedule.Replaced`, a move that
changes a single entry.
-/

namespace Reminders

theorem Except.mapM_eq_ok {ε α β : Type} {f : α → Except ε β} {xs : List α} {ys : List β} :
    xs.mapM f = .ok ys ↔ List.Forall₂ (fun x y => f x = .ok y) xs ys := by
  constructor
  · intro h
    induction xs generalizing ys with
    | nil =>
      cases h
      exact .nil
    | cons x xs ih =>
      rw [List.mapM_cons] at h
      obtain ⟨y, hy, h⟩ := Except.bind_eq_ok.1 h
      obtain ⟨rest, hrest, h⟩ := Except.bind_eq_ok.1 h
      cases h
      exact .cons hy (ih hrest)
  · intro h
    induction h with
    | nil => rfl
    | cons hhead _ ih =>
      rw [List.mapM_cons]
      exact Except.bind_eq_ok.2 ⟨_, hhead, Except.bind_eq_ok.2 ⟨_, ih, rfl⟩⟩

/-- The entries of the second schedule are those of the first, each moved by a
relation, and without those that fail a test. -/
def Schedule.Moved (s : Schedule) (moves : Entry → Entry → Prop) (keep : Entry → Bool)
    (s' : Schedule) : Prop :=
  s'.lastId = s.lastId ∧ ∃ moved, List.Forall₂ moves s.entries moved ∧
    s'.entries = moved.filter keep

/-- The entries of the second schedule are those of the first with a changed entry
in place of the first one with an id, and without those that fail a test. -/
def Schedule.Replaced (s : Schedule) (id : Int32) (e changed : Entry) (keep : Entry → Bool)
    (s' : Schedule) : Prop :=
  s'.lastId = s.lastId ∧ e.id = id ∧ ∃ before behind, s.entries = before ++ e :: behind ∧
    (∀ x ∈ before, x.id ≠ id) ∧ s'.entries = (before ++ changed :: behind).filter keep

namespace Schedule.Moved

variable {s s' : Schedule} {moves : Entry → Entry → Prop} {keep : Entry → Bool}

/-- Every entry behind the operation stems from one before it. -/
theorem mem (h : s.Moved moves keep s') {e' : Entry} (he' : e' ∈ s'.entries) :
    keep e' ∧ ∃ e ∈ s.entries, moves e e' := by
  obtain ⟨-, moved, hmoved, hs'⟩ := h
  rw [hs', List.mem_filter] at he'
  obtain ⟨hmem, hkeep⟩ := he'
  refine ⟨hkeep, ?_⟩
  clear hs'
  generalize s.entries = entries at hmoved
  induction hmoved with
  | nil => cases hmem
  | @cons e x _ _ hhead _ ih =>
    rcases List.mem_cons.1 hmem with rfl | hmem
    · exact ⟨e, by simp, hhead⟩
    · obtain ⟨e, he, hmoves⟩ := ih hmem
      exact ⟨e, by simp [he], hmoves⟩

/-- What every entry satisfied is still satisfied if the moves that are kept keep it. -/
theorem forall_mem {p : Entry → Prop} (h : s.Moved moves keep s') (hs : ∀ e ∈ s.entries, p e)
    (hp : ∀ e e', moves e e' → keep e' → p e → p e') : ∀ e ∈ s'.entries, p e := by
  intro e' he'
  obtain ⟨hkeep, e, he, hmoves⟩ := h.mem he'
  exact hp e e' hmoves hkeep (hs e he)

/-- Every entry before the operation moves, and stays if it passes the test. -/
theorem of_mem (h : s.Moved moves keep s') {e : Entry} (he : e ∈ s.entries) :
    ∃ e', moves e e' ∧ (keep e' → e' ∈ s'.entries) := by
  obtain ⟨-, moved, hmoved, hs'⟩ := h
  have hmem : ∃ e' ∈ moved, moves e e' := by
    clear hs'
    generalize s.entries = entries at hmoved he
    induction hmoved with
    | nil => cases he
    | @cons _ x _ _ hhead _ ih =>
      rcases List.mem_cons.1 he with rfl | he
      · exact ⟨x, by simp, hhead⟩
      · obtain ⟨e', he', hmoves⟩ := ih he
        exact ⟨e', by simp [he'], hmoves⟩
  obtain ⟨e', he', hmoves⟩ := hmem
  exact ⟨e', hmoves, fun hkeep => hs' ▸ List.mem_filter.2 ⟨he', hkeep⟩⟩

/-- A function of the entries that no move changes is only thinned out. -/
theorem map_sublist {α : Type} {f : Entry → α} (h : s.Moved moves keep s')
    (hf : ∀ e e', moves e e' → f e' = f e) :
    (s'.entries.map f).Sublist (s.entries.map f) := by
  obtain ⟨-, moved, hmoved, hs'⟩ := h
  have hmap : moved.map f = s.entries.map f := by
    clear hs'
    generalize s.entries = entries at hmoved
    induction hmoved with
    | nil => rfl
    | cons hhead _ ih => rw [List.map_cons, List.map_cons, hf _ _ hhead, ih]
  rw [hs', ← hmap]
  exact List.filter_sublist.map f

/-- Where no move makes a test true, no more entries pass it. -/
theorem countP_le {p : Entry → Bool} (h : s.Moved moves keep s')
    (hp : ∀ e e', moves e e' → p e' → p e) : s'.entries.countP p ≤ s.entries.countP p := by
  obtain ⟨-, moved, hmoved, hs'⟩ := h
  rw [hs']
  refine Nat.le_trans (List.filter_sublist.countP_le) ?_
  clear hs'
  generalize s.entries = entries at hmoved
  induction hmoved with
  | nil => simp
  | @cons e e' _ _ hhead _ ih =>
    rw [List.countP_cons, List.countP_cons]
    have hle : (if p e' then 1 else 0) ≤ if p e then 1 else 0 := by
      cases hpe' : p e' with
      | false => simp
      | true => simp [hp e e' hhead hpe']
    omega

end Schedule.Moved

namespace Schedule

/-! ## Entries dropped -/

/-- Dropping moves nothing. -/
theorem drop_moved (s : Schedule) (p : Entry → Bool) :
    s.Moved (fun e e' => e' = e) (fun e => !p e) (s.drop p).1 :=
  ⟨rfl, s.entries, List.forall₂_same.2 fun _ _ => rfl, rfl⟩

theorem forall_mem_drop {s : Schedule} {p : Entry → Prop} (q : Entry → Bool)
    (hs : ∀ e ∈ s.entries, p e) : ∀ e ∈ (s.drop q).1.entries, p e :=
  fun e he => hs e (List.mem_of_mem_filter he)

/-- Entries with distinct ids are told apart by their ids. -/
theorem eq_of_id_eq {s : Schedule} (distinct : (s.entries.map Entry.id).Nodup) {a b : Entry}
    (ha : a ∈ s.entries) (hb : b ∈ s.entries) (h : a.id = b.id) : a = b :=
  List.inj_on_of_nodup_map distinct ha hb h

/-! ## One entry changed -/

theorem replaceFirst_append {changed e : Entry} {before : List Entry} (behind : List Entry)
    (hbefore : ∀ x ∈ before, x.id ≠ changed.id) (he : e.id = changed.id) :
    replaceFirst changed (before ++ e :: behind) = before ++ changed :: behind := by
  induction before with
  | nil => rw [List.nil_append, replaceFirst, if_pos he, List.nil_append]
  | cons x before ih =>
    rw [List.cons_append, replaceFirst, if_neg (hbefore x (by simp)),
      ih fun y hy => hbefore y (by simp [hy]), List.cons_append]

/-- An update replaces the reminder that was looked up. -/
theorem update_replaced {s : Schedule} {id : Int32} {e changed : Entry}
    (hget : s.get? id = some e) (hid : changed.id = e.id) :
    s.Replaced id e changed (fun _ => true) (s.update changed) := by
  obtain ⟨hfound, before, behind, hentries, hbefore⟩ := List.find?_eq_some_iff_append.1 hget
  simp only [beq_iff_eq] at hfound
  simp only [Bool.not_eq_eq_eq_not, Bool.not_true, beq_eq_false_iff_ne] at hbefore
  refine ⟨rfl, hfound, before, behind, hentries, hbefore, ?_⟩
  have hne : ∀ x ∈ before, x.id ≠ changed.id := fun x hx => by
    rw [hid, hfound]
    exact hbefore x hx
  rw [update, hentries, replaceFirst_append behind hne hid.symm, List.filter_eq_self.2]
  exact fun _ _ => rfl

/-- With a purge behind it the changed reminder may be dropped. -/
theorem update_purge_replaced {s : Schedule} {id : Int32} {e changed : Entry}
    (hget : s.get? id = some e) (hid : changed.id = e.id) :
    s.Replaced id e changed (fun e => !e.isOver) (s.update changed).purge.1 := by
  obtain ⟨-, hfound, before, behind, hentries, hbefore, hupdate⟩ := update_replaced hget hid
  refine ⟨rfl, hfound, before, behind, hentries, hbefore, ?_⟩
  rw [List.filter_eq_self.2 fun _ _ => rfl] at hupdate
  rw [purge, drop, hupdate]

namespace Replaced

variable {s s' : Schedule} {id : Int32} {e changed : Entry} {keep : Entry → Bool}

/-- To replace one reminder moves every reminder by itself. -/
theorem moved (h : s.Replaced id e changed keep s') :
    s.Moved (fun x x' => x' = x ∨ x = e ∧ x' = changed) keep s' := by
  obtain ⟨hlast, -, before, behind, hentries, -, hs'⟩ := h
  refine ⟨hlast, before ++ changed :: behind, ?_, hs'⟩
  rw [hentries]
  refine List.rel_append ?_ (.cons (.inr ⟨rfl, rfl⟩) ?_)
  · exact List.forall₂_same.2 fun _ _ => .inl rfl
  · exact List.forall₂_same.2 fun _ _ => .inl rfl

theorem forall_mem {p : Entry → Prop} (h : s.Replaced id e changed keep s')
    (hs : ∀ e ∈ s.entries, p e) (hchanged : keep changed → p changed) :
    ∀ e ∈ s'.entries, p e := by
  refine h.moved.forall_mem hs fun x x' hx hkeep hpx => ?_
  obtain rfl | ⟨-, rfl⟩ := hx
  · exact hpx
  · exact hchanged hkeep

theorem changed_mem (h : s.Replaced id e changed keep s') (hkeep : keep changed) :
    changed ∈ s'.entries := by
  obtain ⟨-, -, before, behind, -, -, hs'⟩ := h
  rw [hs', List.mem_filter]
  exact ⟨by simp, hkeep⟩

/-- With distinct ids, it is just the entry with the id that changes. -/
theorem moved_of_distinct (distinct : (s.entries.map Entry.id).Nodup)
    (h : s.Replaced id e changed keep s') :
    s.Moved (fun x x' => x.id ≠ id ∧ x' = x ∨ x = e ∧ x' = changed) keep s' := by
  obtain ⟨hlast, hid, before, behind, hentries, hbefore, hs'⟩ := h
  refine ⟨hlast, before ++ changed :: behind, ?_, hs'⟩
  rw [hentries, List.map_append, List.map_cons, List.nodup_append, List.nodup_cons] at distinct
  obtain ⟨-, ⟨hbehind, -⟩, -⟩ := distinct
  have hne : ∀ x ∈ behind, x.id ≠ id := fun x hx heq =>
    hbehind (hid ▸ heq ▸ List.mem_map_of_mem hx)
  rw [hentries]
  refine List.rel_append ?_ (.cons (.inr ⟨rfl, rfl⟩) ?_)
  · exact List.forall₂_same.2 fun x hx => .inl ⟨hbefore x hx, rfl⟩
  · exact List.forall₂_same.2 fun x hx => .inl ⟨hne x hx, rfl⟩

end Replaced

end Schedule

end Reminders
