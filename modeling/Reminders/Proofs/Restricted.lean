import Reminders.Proofs.Batch

/-!
# The share of one bundle

All bundles share one schedule, and some operations act on all of it at once.  A schedule
*restricted* to a bundle holds the entries that the bundle owns, in their order.  For the
operations that act for all, it makes no difference whether the others are there:
`restrict_commutes` says that restricting before such an operation and restricting after it
come to the same.  Nothing is assumed of the ids, and others may have the same ones.

Dropping, and looking for rings anew, take each entry by itself.  A batch of rings does not.

* It is sorted, and the sort is stable.  So what is left of it without the others is what it
  would have been without them (`filter_mergeSort`).
* Each ring may cover other entries, but only such of its own bundle.  So an entry can do
  without the rings of others (`foldl_afterRing_filter`).
* It is carried out by places, and an entry has another place once others are gone.  But it
  only matters which places are the same, so the entries may be numbered anew
  (`afterBatch_renumber`).
-/

namespace Reminders

/-! ## Lists -/

section

variable {α : Type} {le : α → α → Bool}

/-- Where the elements that do not come behind `a` come first, they are told from the rest. -/
private theorem append_inj_of_split {a : α} {l₁ l₂ m₁ m₂ : List α} (h : l₁ ++ l₂ = m₁ ++ m₂)
    (hl₁ : ∀ b ∈ l₁, (!le a b) = true) (hl₂ : ∀ b ∈ l₂, le a b = true)
    (hm₁ : ∀ b ∈ m₁, (!le a b) = true) (hm₂ : ∀ b ∈ m₂, le a b = true) : l₁ = m₁ ∧ l₂ = m₂ := by
  have hsplit : ∀ k₁ k₂ : List α, (∀ b ∈ k₁, (!le a b) = true) → (∀ b ∈ k₂, le a b = true) →
      (k₁ ++ k₂).filter (fun b => !le a b) = k₁ ∧ (k₁ ++ k₂).filter (fun b => le a b) = k₂ := by
    intro k₁ k₂ hk₁ hk₂
    rw [List.filter_append, List.filter_append, List.filter_eq_self.2 hk₁,
      List.filter_eq_self.2 hk₂, List.filter_eq_nil_iff.2, List.filter_eq_nil_iff.2,
      List.append_nil, List.nil_append]
    · exact ⟨rfl, rfl⟩
    · intro b hb
      simpa using hk₁ b hb
    · intro b hb
      simpa using hk₂ b hb
  obtain ⟨hl, hl'⟩ := hsplit l₁ l₂ hl₁ hl₂
  obtain ⟨hm, hm'⟩ := hsplit m₁ m₂ hm₁ hm₂
  exact ⟨by rw [← hl, h, hm], by rw [← hl', h, hm']⟩

/-- As a merge sort is stable, it makes no difference whether elements are dropped before it or
after it. -/
theorem filter_mergeSort (trans : ∀ a b c, le a b = true → le b c = true → le a c = true)
    (total : ∀ a b, (le a b || le b a) = true) (p : α → Bool) (l : List α) :
    (l.mergeSort le).filter p = (l.filter p).mergeSort le := by
  induction l with
  | nil => simp
  | cons a rest ih =>
    obtain ⟨l₁, l₂, hsorted, hrest, hfirst⟩ := List.mergeSort_cons trans total a rest
    rw [hrest, List.filter_append] at ih
    rw [hsorted, List.filter_append]
    by_cases hp : p a
    · obtain ⟨m₁, m₂, hsorted', hrest', hfirst'⟩ :=
        List.mergeSort_cons trans total a (rest.filter p)
      have hlast : ∀ b ∈ l₂, le a b = true := by
        have hpairwise := List.pairwise_mergeSort trans total (a :: rest)
        rw [hsorted, List.pairwise_append, List.pairwise_cons] at hpairwise
        exact hpairwise.2.1.1
      have hlast' : ∀ b ∈ m₂, le a b = true := by
        have hpairwise := List.pairwise_mergeSort trans total (a :: rest.filter p)
        rw [hsorted', List.pairwise_append, List.pairwise_cons] at hpairwise
        exact hpairwise.2.1.1
      rw [hrest'] at ih
      obtain ⟨rfl, rfl⟩ := append_inj_of_split ih
        (fun b hb => hfirst b (List.mem_of_mem_filter hb))
        (fun b hb => hlast b (List.mem_of_mem_filter hb)) hfirst' hlast'
      rw [List.filter_cons_of_pos hp, List.filter_cons_of_pos hp, hsorted']
    · rw [List.filter_cons_of_neg hp, List.filter_cons_of_neg hp, ih]

end

/-! ## A batch over numbered entries -/

section

variable {now : DateTime} {numbered : List (Entry × Nat)}

/-- The rings of a batch in their order, where the entries have any numbers. -/
def ringsOf (now : DateTime) (numbered : List (Entry × Nat)) : List (Entry × Nat) :=
  (numbered.filter fun x => x.1.isDue now).mergeSort fun a b => a.1.precedes b.1

/-- What a batch of rings makes of numbered entries, whether or not they are then dropped. -/
def afterBatch (now : DateTime) (numbered : List (Entry × Nat)) : List Entry :=
  numbered.map fun x => (ringsOf now numbered).foldl (Entry.afterRing now x.2) x.1

theorem mem_ringsOf {x : Entry × Nat} :
    x ∈ ringsOf now numbered ↔ x ∈ numbered ∧ x.1.isDue now := by
  rw [ringsOf, List.mem_mergeSort, List.mem_filter]

/-! ### Numbering anew -/

/-- The places matter for nothing but telling reminders apart. -/
theorem ringsOf_renumber (f : Nat → Nat) :
    ringsOf now (numbered.map (Prod.map id f)) = (ringsOf now numbered).map (Prod.map id f) := by
  rw [ringsOf, List.filter_map, ringsOf, List.map_mergeSort]
  · rfl
  · intro a _ b _
    rfl

/-- It only matters which numbers are the same. -/
theorem afterBatch_renumber {f : Nat → Nat}
    (hf : ∀ a ∈ numbered, ∀ b ∈ numbered, f a.2 = f b.2 → a.2 = b.2) :
    afterBatch now (numbered.map (Prod.map id f)) = afterBatch now numbered := by
  rw [afterBatch, ringsOf_renumber, List.map_map]
  refine List.map_congr_left fun x hx => ?_
  rw [Function.comp_apply, List.foldl_map]
  refine List.foldl_ext _ _ _ fun e r hr => ?_
  have hsame : f r.2 = f x.2 ↔ r.2 = x.2 :=
    ⟨hf r (mem_ringsOf.1 hr).1 x hx, fun h => congrArg f h⟩
  simp only [Entry.afterRing, Prod.map_fst, Prod.map_snd, id, hsame]

/-- Entries with different numbers may be numbered by their places instead. -/
theorem exists_renumbering (hnumbers : (numbered.map Prod.snd).Nodup) :
    ∃ f : Nat → Nat, (numbered.map Prod.fst).zipIdx.map (Prod.map id f) = numbered ∧
      ∀ a ∈ (numbered.map Prod.fst).zipIdx, ∀ b ∈ (numbered.map Prod.fst).zipIdx,
        f a.2 = f b.2 → a.2 = b.2 := by
  refine ⟨fun place => (numbered.map Prod.snd).getD place 0, ?_, ?_⟩
  · refine List.ext_getElem (by simp) fun place _ hplace => ?_
    rw [List.getElem_map, List.getElem_zipIdx]
    simp [hplace]
  · intro a ha b hb heq
    have hlt : ∀ x ∈ (numbered.map Prod.fst).zipIdx, x.2 < (numbered.map Prod.snd).length := by
      intro x hx
      simpa using (List.mem_zipIdx' hx).1
    simp only [List.getD_eq_getElem _ _ (hlt a ha), List.getD_eq_getElem _ _ (hlt b hb)] at heq
    exact (hnumbers.getElem_inj_iff).1 heq

/-! ### Leaving out entries -/

/-- The rings of one bundle are those of its reminders, in their order. -/
theorem ringsOf_filter (bundle : Bundle) :
    ringsOf now (numbered.filter fun x => x.1.isOwnedBy bundle) =
      (ringsOf now numbered).filter fun x => x.1.isOwnedBy bundle := by
  rw [ringsOf, ringsOf, filter_mergeSort, List.filter_filter, List.filter_filter]
  · simp only [Bool.and_comm]
  · intro a b c hab hbc
    exact Entry.precedes_trans hab hbc
  · intro a b
    exact Entry.precedes_total a.1 b.1

theorem Entry.afterRing_isOwnedBy (e : Entry) (place : Nat) (r : Entry × Nat) (bundle : Bundle) :
    (e.afterRing now place r).isOwnedBy bundle = e.isOwnedBy bundle := by
  rw [afterRing]
  split
  · have hbundle : (e.rung now).1.bundle = e.bundle :=
      congrArg Publication.bundle (e.rung_publication now)
    rw [isOwnedBy, isOwnedBy, hbundle]
  · obtain heq | ⟨-, heq⟩ := e.coveredBy_eq r.1
    · rw [heq]
    · rw [heq, isOwnedBy, isOwnedBy]

theorem Entry.foldl_afterRing_isOwnedBy (e : Entry) (place : Nat) (rings : List (Entry × Nat))
    (bundle : Bundle) :
    (rings.foldl (afterRing now place) e).isOwnedBy bundle = e.isOwnedBy bundle := by
  induction rings generalizing e with
  | nil => rfl
  | cons r rest ih => rw [List.foldl_cons, ih, afterRing_isOwnedBy]

/-- An entry covers none of another bundle. -/
theorem Entry.coveredBy_of_foreign {e r : Entry} {bundle : Bundle} (he : e.isOwnedBy bundle)
    (hr : ¬ r.isOwnedBy bundle) : e.coveredBy r = e := by
  have hcovers : r.covers e = false := by
    have hname : e.isOwnedBy r.bundle = false := by
      simp only [isOwnedBy, beq_iff_eq] at he hr
      simp only [isOwnedBy, beq_eq_false_iff_ne, ne_eq, he]
      exact fun heq => hr heq.symm
    simp [covers, hname]
  simp [coveredBy, hcovers]

/-- An entry can do without the rings of others. -/
theorem Entry.foldl_afterRing_filter {bundle : Bundle} {place : Nat} {rings : List (Entry × Nat)}
    (hplace : ∀ r ∈ rings, ¬ r.1.isOwnedBy bundle → r.2 ≠ place) {e : Entry}
    (he : e.isOwnedBy bundle) :
    (rings.filter fun r => r.1.isOwnedBy bundle).foldl (afterRing now place) e =
      rings.foldl (afterRing now place) e := by
  induction rings generalizing e with
  | nil => rfl
  | cons r rest ih =>
    have hrest : ∀ q ∈ rest, ¬ q.1.isOwnedBy bundle → q.2 ≠ place :=
      fun q hq => hplace q (by simp [hq])
    by_cases hr : r.1.isOwnedBy bundle
    · rw [List.filter_cons_of_pos (by simpa using hr), List.foldl_cons, List.foldl_cons]
      exact ih hrest (by rw [afterRing_isOwnedBy, he])
    · have hring : e.afterRing now place r = e := by
        rw [afterRing, if_neg (hplace r (by simp) hr), coveredBy_of_foreign he hr]
      rw [List.filter_cons_of_neg (by simpa using hr), List.foldl_cons, hring]
      exact ih hrest he

/-- A batch does to the reminders of a bundle what their own rings do, since no ring of another
bundle covers them. -/
theorem afterBatch_filter (hnumbers : (numbered.map Prod.snd).Nodup) (bundle : Bundle) :
    afterBatch now (numbered.filter fun x => x.1.isOwnedBy bundle) =
      (afterBatch now numbered).filter fun e => e.isOwnedBy bundle := by
  rw [afterBatch, afterBatch, ringsOf_filter, List.filter_map]
  simp only [Function.comp_def, Entry.foldl_afterRing_isOwnedBy]
  refine List.map_congr_left fun x hx => ?_
  obtain ⟨hx, howned⟩ := List.mem_filter.1 hx
  refine Entry.foldl_afterRing_filter (fun r hr hforeign heq => hforeign ?_) howned
  rw [List.inj_on_of_nodup_map hnumbers (mem_ringsOf.1 hr).1 hx heq]
  exact howned

end

/-! ## The operations -/

namespace Schedule

variable {s s' : Schedule} {bundle : Bundle} {now : DateTime} {alerts : List Alert}

/-- What a bundle has of a schedule. -/
def restrict (s : Schedule) (bundle : Bundle) : Schedule :=
  { s with entries := s.entries.filter fun e => e.isOwnedBy bundle }

/-- The entries that have rung for as long as they may. -/
def rungOut (s : Schedule) (now : DateTime) : List Entry :=
  s.entries.filter fun e => e.hasRungOut now

theorem ringing_eq (s : Schedule) (now : DateTime) :
    s.ringing now = ringsOf now s.entries.zipIdx := rfl

/-- A batch of rings and a purge. -/
theorem entries_of_fireDue [LocalTime] (h : s.fireDue now = (s', .ok alerts)) :
    s' = { s with
      entries := (afterBatch now s.entries.zipIdx).filter fun e => !e.isOver } := by
  rw [(fireDue_eq h).1, List.mapIdx_eq_zipIdx_map, ringing_eq]
  rfl

/-- The entries of a bundle with the places that they have among all. -/
def placesOf (s : Schedule) (bundle : Bundle) : List (Entry × Nat) :=
  s.entries.zipIdx.filter fun x => x.1.isOwnedBy bundle

theorem zipIdx_places_nodup (s : Schedule) : (s.entries.zipIdx.map Prod.snd).Nodup := by
  rw [List.zipIdx_map_snd]
  exact List.nodup_range'

theorem map_fst_placesOf (s : Schedule) (bundle : Bundle) :
    (s.placesOf bundle).map Prod.fst = (s.restrict bundle).entries := by
  have hfilter := List.filter_map (p := fun e : Entry => e.isOwnedBy bundle) (f := Prod.fst)
    (l := s.entries.zipIdx)
  rw [List.zipIdx_map_fst] at hfilter
  exact hfilter.symm

/-- The places of a bundle's entries among all do as well as those among its own. -/
theorem exists_placesOf (s : Schedule) (bundle : Bundle) :
    ∃ f : Nat → Nat, (s.restrict bundle).entries.zipIdx.map (Prod.map id f) = s.placesOf bundle ∧
      ∀ a ∈ (s.restrict bundle).entries.zipIdx, ∀ b ∈ (s.restrict bundle).entries.zipIdx,
        f a.2 = f b.2 → a.2 = b.2 := by
  have hnumbers : ((s.placesOf bundle).map Prod.snd).Nodup :=
    s.zipIdx_places_nodup.sublist (List.filter_sublist.map _)
  rw [← map_fst_placesOf]
  exact exists_renumbering hnumbers

/-- The rings of a bundle come in the same order, whether or not others ring too. -/
theorem ringing_restrict (s : Schedule) (bundle : Bundle) (now : DateTime) :
    ((s.restrict bundle).ringing now).map (·.1) =
      ((s.ringing now).filter fun r => r.1.isOwnedBy bundle).map (·.1) := by
  obtain ⟨f, hplaces, -⟩ := s.exists_placesOf bundle
  rw [ringing_eq, ringing_eq, ← ringsOf_filter, ← placesOf, ← hplaces, ringsOf_renumber,
    List.map_map]
  rfl

/-- A batch commutes with the restriction to a bundle. -/
theorem afterBatch_restrict (s : Schedule) (bundle : Bundle) (now : DateTime) :
    afterBatch now (s.restrict bundle).entries.zipIdx =
      (afterBatch now s.entries.zipIdx).filter fun e => e.isOwnedBy bundle := by
  obtain ⟨f, hplaces, hinjective⟩ := s.exists_placesOf bundle
  rw [← afterBatch_renumber hinjective, hplaces, placesOf,
    afterBatch_filter s.zipIdx_places_nodup]

theorem filter_owned_comm (p : Entry → Bool) (entries : List Entry) :
    (entries.filter p).filter (fun e => e.isOwnedBy bundle) =
      (entries.filter fun e => e.isOwnedBy bundle).filter p := by
  rw [List.filter_filter, List.filter_filter]
  simp only [Bool.and_comm]

/-- Restricted to a bundle, a batch alerts what it alerts of the bundle. -/
theorem fireDue_restrict [LocalTime] (h : s.fireDue now = (s', .ok alerts)) :
    (s.restrict bundle).fireDue now =
      (s'.restrict bundle, .ok (alerts.filter fun a => a.bundle.name == bundle.name)) := by
  obtain ⟨-, halerts, hoks⟩ := fireDue_eq h
  have hrungs : ∀ e ∈ (s.restrict bundle).entries, e.isDue now → (e.rung now).2 = .ok () := by
    intro e he hdue
    obtain ⟨r, hr, rfl⟩ := List.mem_map.1
      ((s.ringing_perm now).mem_iff.2 (List.mem_filter.2 ⟨List.mem_of_mem_filter he, hdue⟩))
    exact hoks r hr
  obtain ⟨t, others, ht⟩ := exists_fireDue hrungs
  obtain ⟨-, hothers, -⟩ := fireDue_eq ht
  have ht' : t = s'.restrict bundle := by
    rw [entries_of_fireDue ht, entries_of_fireDue h, afterBatch_restrict, ← filter_owned_comm]
    rfl
  have hshown : others = alerts.filter fun a => a.bundle.name == bundle.name := by
    have hmap : ∀ rings : List (Entry × Nat), rings.map (fun r => (r.1.shownAt now).alert) =
        (rings.map (·.1)).map fun e => (e.shownAt now).alert := by
      intro rings
      rw [List.map_map]
      rfl
    rw [hothers, halerts, hmap, ringing_restrict, ← hmap, List.filter_map]
    rfl
  rw [ht, ht', hshown]

/-- A refresh commutes with the restriction, since it is by reminder. -/
theorem refresh_restrict (h : s.refresh now = .ok s') :
    (s.restrict bundle).refresh now = .ok (s'.restrict bundle) := by
  obtain ⟨entries, hentries, hs'⟩ := Except.bind_eq_ok.1 h
  cases hs'
  have howned : ∀ e e' : Entry, e.refreshed now = .ok e' →
      (e.isOwnedBy bundle ↔ e'.isOwnedBy bundle) := by
    intro e e' hrefreshed
    have hbundle : e'.bundle = e.bundle :=
      congrArg Publication.bundle (Entry.refreshed_publication hrefreshed)
    rw [Entry.isOwnedBy, Entry.isOwnedBy, hbundle]
  refine Except.bind_eq_ok.2 ⟨_, Except.mapM_eq_ok.2 ?_, rfl⟩
  exact List.rel_filter (fun e e' he => howned e e' he) (Except.mapM_eq_ok.1 hentries)

theorem purge_restrict (s : Schedule) (bundle : Bundle) :
    (s.restrict bundle).purge.1 = s.purge.1.restrict bundle := by
  rw [purge, purge, drop, drop, restrict, restrict, filter_owned_comm]

/-- The search for what has rung long enough commutes with the restriction. -/
theorem rungOut_restrict (s : Schedule) (bundle : Bundle) (now : DateTime) :
    (s.restrict bundle).rungOut now = (s.rungOut now).filter fun e => e.isOwnedBy bundle := by
  rw [rungOut, rungOut, restrict, filter_owned_comm]

/-- For the operations that act for all bundles at once, restricting the schedule to one of them
before comes to the same as after. -/
theorem restrict_commutes [LocalTime] (s : Schedule) (bundle : Bundle) (now : DateTime) :
    (∀ s' alerts, s.fireDue now = (s', .ok alerts) →
      (s.restrict bundle).fireDue now =
        (s'.restrict bundle, .ok (alerts.filter fun a => a.bundle.name == bundle.name))) ∧
    (∀ s', s.refresh now = .ok s' →
      (s.restrict bundle).refresh now = .ok (s'.restrict bundle)) ∧
    (s.restrict bundle).purge.1 = s.purge.1.restrict bundle ∧
    s.ringElapsed now = (s.rungOut now).map Entry.id ∧
    (s.restrict bundle).ringElapsed now =
      ((s.rungOut now).filter fun e => e.isOwnedBy bundle).map Entry.id := by
  refine ⟨fun _ _ h => fireDue_restrict h, fun _ h => refresh_restrict h,
    s.purge_restrict bundle, rfl, ?_⟩
  rw [← rungOut_restrict]
  rfl

/-- Two kettles of the kitchen, of which the second one covers the first one, and one of the
cellar that rings between them under the same number and with an id that the kitchen has, too. -/
def sharedKettles : Schedule where
  lastId := 3
  entries := [.kettle 3, { Entry.kettle 2 with bundle := .cellar }, .kettle 2]

attribute [local instance] LocalTime.universal

theorem restrict_commutes_sharedKettles :
    ∃ s' alerts, sharedKettles.fireDue .first = (s', .ok alerts) ∧
      (alerts.map fun a => (a.bundle.name, a.id)) =
        [("cellar", 2), ("kitchen", 2), ("kitchen", 3)] ∧
      (s'.entries.map fun e => (e.id, e.status)) = [(3, .showing true), (2, .showing true)] ∧
      (sharedKettles.restrict .kitchen).fireDue .first = (s'.restrict .kitchen,
        .ok (alerts.filter fun a => a.bundle.name == Bundle.kitchen.name)) := by
  have hall : ∀ e ∈ sharedKettles.entries, e.isDue .first → (e.rung .first).2 = .ok () := by
    decide
  obtain ⟨s', alerts, fired⟩ := exists_fireDue hall
  have hrings : (sharedKettles.fireDue .first).2.map (fun alerts =>
        alerts.map fun a => (a.bundle.name, a.id)) =
      .ok [("cellar", 2), ("kitchen", 2), ("kitchen", 3)] := by cbv
  have hkept : ((sharedKettles.fireDue .first).1.entries.map fun e => (e.id, e.status)) =
      [(3, .showing true), (2, .showing true)] := by cbv
  rw [fired] at hrings hkept
  exact ⟨s', alerts, fired, Except.ok.inj hrings, hkept,
    (restrict_commutes sharedKettles .kitchen .first).1 s' alerts fired⟩

end Schedule

end Reminders
