import Postroom.Proofs.Queue.Plain

/-!
Stale positions make no difference. The entry of a mail that is scheduled anew gets a generation
that no position has yet, so all of its old positions become stale at once and the new one is the
only place where the plain queue has the mail.
-/

namespace Postroom

namespace Due

/-- Delayed positions are ordered by time and, at one time, by generation. -/
theorem compare_eq_lt_iff {a b : Due} : compare a b = .lt ↔
    a.time < b.time ∨ a.time = b.time ∧ a.generation < b.generation := by
  have hunfold : compare a b =
      (compare a.time.nanos b.time.nanos).then (compare a.generation b.generation) := rfl
  have htime : a.time = b.time ↔ a.time.nanos = b.time.nanos :=
    ⟨fun h => by rw [h], fun h => Instant.ext h⟩
  rw [hunfold, Ordering.then_eq_lt, Int.compare_eq_lt, Int.compare_eq_eq, Nat.compare_eq_lt, htime]
  rfl

/-- Delayed positions in their order. -/
abbrev Sorted (positions : List (Due × Position)) : Prop :=
  positions.Pairwise fun a b => compare a.1 b.1 = .lt

theorem Sorted.nodup {positions : List (Due × Position)} (h : Sorted positions) :
    positions.Nodup := by
  refine h.imp ?_
  intro a b hab heq
  simp [heq] at hab

variable {delayed : Std.ExtTreeMap Due Position} {due : Due}

/-- A position that is delayed last keeps the order if it comes after those that are due by then. -/
theorem sorted_insert (position : Position)
    (h : ∀ e ∈ delayed.toList, e.1.generation < due.generation) :
    Sorted (delayed.toList.filter (·.1.time ≤ due.time) ++
      (due, position) :: delayed.toList.filter (due.time < ·.1.time)) := by
  have hsorted : Sorted delayed.toList := Std.ExtTreeMap.ordered_keys_toList
  refine List.pairwise_append.2 ⟨hsorted.filter _, List.pairwise_cons.2 ⟨?_, hsorted.filter _⟩, ?_⟩
  · intro e he
    have hlater : due.time < e.1.time := by simpa using (List.mem_filter.1 he).2
    exact compare_eq_lt_iff.2 (.inl hlater)
  · intro e he f hf
    obtain ⟨hmem, hearlier⟩ := List.mem_filter.1 he
    have hearlier : e.1.time ≤ due.time := by simpa using hearlier
    have hbefore : compare e.1 due = .lt := by
      rcases Int.lt_or_eq_of_le hearlier with hlt | heq
      · exact compare_eq_lt_iff.2 (.inl hlt)
      · exact compare_eq_lt_iff.2 (.inr ⟨Instant.ext heq, h e hmem⟩)
    rcases List.mem_cons.1 hf with rfl | hf
    · exact hbefore
    · have hlater : due.time < f.1.time := by simpa using (List.mem_filter.1 hf).2
      exact compare_eq_lt_iff.2 (.inl (Int.lt_of_le_of_lt hearlier hlater))

theorem mem_toList_insert (position : Position)
    (h : ∀ e ∈ delayed.toList, e.1.generation < due.generation) (e : Due × Position) :
    e ∈ (delayed.insert due position).toList ↔ e = (due, position) ∨ e ∈ delayed.toList := by
  obtain ⟨k, v⟩ := e
  have hfresh : (due, v) ∉ delayed.toList := fun hmem => Nat.lt_irrefl _ (h _ hmem)
  simp only [Std.ExtTreeMap.mem_toList_iff_getElem?_eq_some, Prod.mk.injEq,
    Std.ExtTreeMap.getElem?_insert, Std.compare_eq_iff_eq] at hfresh ⊢
  by_cases hk : due = k
  · subst hk
    simp [hfresh, eq_comm]
  · simp [hk, Ne.symm hk]

/-- What is delayed last at a time comes after everything that is due by then. -/
theorem toList_insert (position : Position)
    (h : ∀ e ∈ delayed.toList, e.1.generation < due.generation) :
    (delayed.insert due position).toList =
      delayed.toList.filter (·.1.time ≤ due.time) ++
        (due, position) :: delayed.toList.filter (due.time < ·.1.time) := by
  have hleft : Sorted (delayed.insert due position).toList := Std.ExtTreeMap.ordered_keys_toList
  have hright := sorted_insert position h
  have hmem : ∀ e, e ∈ (delayed.insert due position).toList ↔
      e ∈ delayed.toList.filter (·.1.time ≤ due.time) ++
        (due, position) :: delayed.toList.filter (due.time < ·.1.time) := by
    intro e
    have hparts : e ∈ delayed.toList.filter (·.1.time ≤ due.time) ∨
        e ∈ delayed.toList.filter (due.time < ·.1.time) ↔ e ∈ delayed.toList := by
      have hor : e.1.time ≤ due.time ∨ due.time < e.1.time := by
        rw [← Instant.not_le]
        exact Decidable.em _
      simp only [List.mem_filter, decide_eq_true_eq, ← and_or_left, hor, and_true]
    rw [mem_toList_insert position h, List.mem_append, List.mem_cons, ← hparts]
    exact or_left_comm
  -- both lists are sorted and have the same members
  refine List.Perm.eq_of_pairwise ?_ hleft hright
    ((List.perm_ext_iff_of_nodup hleft.nodup hright.nodup).2 hmem)
  intro a b _ _ hab hba
  exact absurd hba (Std.OrientedCmp.not_lt_of_lt hab)

end Due

namespace PlainQueue

theorem standing_remove (queue : PlainQueue) (id : MailId) :
    (queue.remove id).standing = queue.standing.filter (· ≠ id) := by
  simp only [standing, remove, List.filter_append, List.filter_map]
  rfl

end PlainQueue

namespace Tracking

/-- No position has a generation that is still to come. -/
structure Bounded (t : Tracking) : Prop where
  ready_le : ∀ position ∈ t.ready, position.generation ≤ t.lastGeneration
  delayed_le : ∀ e ∈ t.delayed.toList, e.1.generation ≤ t.lastGeneration ∧
    e.2.generation = e.1.generation

/-- What is tracked with another entry for a mail. -/
def assign (t : Tracking) (id : MailId) (entry : Entry) : Tracking :=
  { t with entries := t.entries.insert id entry }

theorem isCurrent_assign (t : Tracking) (id : MailId) (entry : Entry) (position : Position) :
    (t.assign id entry).isCurrent position =
      if position.id = id then entry.generation == position.generation && !entry.status.isLeased
      else t.isCurrent position := by
  unfold isCurrent assign
  dsimp only
  rw [entry?_insert]
  by_cases hid : position.id = id
  · rw [if_pos hid, if_pos hid]
  · rw [if_neg hid, if_neg hid]

theorem leased_plain (t : Tracking) (id : MailId) : t.plain.leased[id]? = t.leaseOf? id := by
  simp [plain, leaseOf?_eq]

/-- An entry with a generation still to come makes every position of its mail stale. -/
theorem isCurrent_assign_next {t : Tracking} {id : MailId} {entry : Entry} {position : Position}
    (hentry : t.lastGeneration < entry.generation)
    (hposition : position.generation ≤ t.lastGeneration) :
    (t.assign id entry).isCurrent position =
    (t.isCurrent position && decide (position.id ≠ id)) := by
  rw [isCurrent_assign]
  by_cases hid : position.id = id
  · have hne : (entry.generation == position.generation) = false := by
      simp only [beq_eq_false_iff_ne]
      omega
    simp [hid, hne]
  · simp [hid]

/-- A leased entry makes every position of its mail stale. -/
theorem isCurrent_assign_leased {t : Tracking} {id : MailId} {entry : Entry}
    (hentry : entry.status.isLeased = true) (position : Position) :
    (t.assign id entry).isCurrent position =
    (t.isCurrent position && decide (position.id ≠ id)) := by
  rw [isCurrent_assign]
  by_cases hid : position.id = id
  · simp [hid, hentry]
  · simp [hid]

/-- If exactly the positions of one mail have become stale, the others keep their order. -/
theorem map_filter_of_stale {t t' : Tracking} {id : MailId} {positions : List Position}
    (h : ∀ p ∈ positions, t'.isCurrent p = (t.isCurrent p && decide (p.id ≠ id))) :
    (positions.filter t'.isCurrent).map Position.id =
      ((positions.filter t.isCurrent).map Position.id).filter (· ≠ id) := by
  rw [List.filter_map, List.filter_filter, List.filter_congr h]
  simp only [Function.comp_def, Bool.and_comm]

theorem map_filter_delayed_of_stale {t t' : Tracking} {id : MailId}
    {positions : List (Due × Position)}
    (h : ∀ e ∈ positions, t'.isCurrent e.2 = (t.isCurrent e.2 && decide (e.2.id ≠ id))) :
    ((positions.filter fun e => t'.isCurrent e.2).map fun e => (e.1.time, e.2.id)) =
      ((positions.filter fun e => t.isCurrent e.2).map fun e => (e.1.time, e.2.id)).filter
        (·.2 ≠ id) := by
  rw [List.filter_map, List.filter_filter, List.filter_congr h]
  simp only [Function.comp_def, Bool.and_comm]

theorem isCurrent_congr {t t' : Tracking} (h : t'.entries = t.entries) :
    t'.isCurrent = t.isCurrent := by
  funext position
  unfold isCurrent
  rw [h]

theorem assign_self {t : Tracking} {id : MailId} {entry : Entry} (h : t.entries[id]? = some entry) :
    t.assign id entry = t := by
  have hentries : t.entries.insert id entry = t.entries := by
    apply Std.ExtTreeMap.ext_getElem?
    intro k
    rw [entry?_insert]
    split
    · rename_i hk
      rw [hk, h]
    · rfl
  rw [assign, hentries]

theorem schedule_assign (t : Tracking) (id : MailId) (entry : Entry) (due now : Instant) :
    (t.assign id entry).schedule id due now =
      if due ≤ now then
        { t.assign id { entry with generation := t.lastGeneration + 1, status := .ready } with
          ready := t.ready ++ [⟨id, t.lastGeneration + 1⟩]
          lastGeneration := t.lastGeneration + 1 }
      else
        { t.assign id { entry with generation := t.lastGeneration + 1, status := .delayed due } with
          delayed := t.delayed.insert ⟨due, t.lastGeneration + 1⟩ ⟨id, t.lastGeneration + 1⟩
          lastGeneration := t.lastGeneration + 1 } := by
  have hentry : (t.entries.insert id entry)[id]? = some entry := by simp
  have htwice : ∀ entry', (t.entries.insert id entry).insert id entry' =
      t.entries.insert id entry' := by
    intro entry'
    apply Std.ExtTreeMap.ext_getElem?
    intro k
    simp only [entry?_insert]
    split <;> rfl
  simp only [schedule, assign, hentry, htwice]

theorem leased_assign (t : Tracking) (id : MailId) (entry : Entry) :
    (t.assign id entry).plain.leased =
      match entry.status.lease? with
      | some requeued => t.plain.leased.insert id requeued
      | none => t.plain.leased.erase id := by
  apply Std.ExtTreeMap.ext_getElem?
  intro k
  rw [leased_plain, leaseOf?_eq]
  simp only [assign]
  rw [entry?_insert]
  cases hlease : entry.status.lease? with
  | none =>
      simp only [Std.ExtTreeMap.getElem?_erase, Std.compare_eq_iff_eq, leased_plain]
      by_cases hk : k = id
      · simp [hk, hlease]
      · simp [hk, Ne.symm hk, leaseOf?_eq]
  | some requeued =>
      simp only [Std.ExtTreeMap.getElem?_insert, Std.compare_eq_iff_eq, leased_plain]
      by_cases hk : k = id
      · simp [hk, hlease]
      · simp [hk, Ne.symm hk, leaseOf?_eq]

theorem isCurrent_assign_new (t : Tracking) (id : MailId) {entry : Entry}
    (h : entry.status.isLeased = false) :
    (t.assign id entry).isCurrent ⟨id, entry.generation⟩ = true := by
  simp [isCurrent_assign, h]

section Arrival

variable {t t' : Tracking} {id : MailId} {entry : Entry}

/-- The old positions of a mail whose entry gets the next generation are stale. -/
theorem visible_of_next (hbounded : t.Bounded) (hnext : entry.generation = t.lastGeneration + 1)
    (hentries : t'.entries = t.entries.insert id entry) :
    (t.ready.filter t'.isCurrent).map Position.id = (t.plain.remove id).visible := by
  apply map_filter_of_stale
  intro position hposition
  have hle := hbounded.ready_le position hposition
  rw [isCurrent_congr (t := t.assign id entry) hentries]
  exact isCurrent_assign_next (by omega) hle

theorem delayed_of_next (hbounded : t.Bounded) (hnext : entry.generation = t.lastGeneration + 1)
    (hentries : t'.entries = t.entries.insert id entry) :
    ((t.delayed.toList.filter fun e => t'.isCurrent e.2).map fun e => (e.1.time, e.2.id)) =
      (t.plain.remove id).delayed := by
  apply map_filter_delayed_of_stale
  intro e he
  obtain ⟨hle, hsame⟩ := hbounded.delayed_le e he
  rw [isCurrent_congr (t := t.assign id entry) hentries]
  exact isCurrent_assign_next (by omega) (by omega)

theorem isCurrent_of_new (hfree : entry.status.isLeased = false)
    (hentries : t'.entries = t.entries.insert id entry) :
    t'.isCurrent ⟨id, entry.generation⟩ = true := by
  rw [isCurrent_congr (t := t.assign id entry) hentries]
  exact isCurrent_assign_new t id hfree

theorem leased_of_new (hfree : entry.status.isLeased = false)
    (hentries : t'.entries = t.entries.insert id entry) :
    t'.plain.leased = t.plain.leased.erase id := by
  have hlease : entry.status.lease? = none := by
    rw [EntryStatus.isLeased_eq] at hfree
    simpa using hfree
  have hassigned := leased_assign t id entry
  simp only [hlease] at hassigned
  rw [← hassigned]
  simp only [plain, hentries, assign]

/-- A mail that gets a new position behind the visible ones. -/
theorem plain_of_append (hbounded : t.Bounded) (hentries : t'.entries = t.entries.insert id entry)
    (hfree : entry.status.isLeased = false) (hnext : entry.generation = t.lastGeneration + 1)
    (hready : t'.ready = t.ready ++ [⟨id, entry.generation⟩]) (hdelayed : t'.delayed = t.delayed)
    (hclosed : t'.closed = t.closed) :
    t'.plain =
      { t.plain.remove id with
        visible := (t.plain.remove id).visible ++ [id]
        leased := t.plain.leased.erase id } := by
  have hvisible := visible_of_next hbounded hnext hentries
  have hothers := delayed_of_next hbounded hnext hentries
  have hnew := isCurrent_of_new hfree hentries
  apply PlainQueue.ext
  · show (t'.ready.filter t'.isCurrent).map Position.id = (t.plain.remove id).visible ++ [id]
    rw [hready, List.filter_append, List.map_append, hvisible, List.filter_cons_of_pos hnew]
    rfl
  · simpa only [plain, hdelayed] using hothers
  · exact leased_of_new hfree hentries
  · exact hclosed

/-- A mail that gets a new position at the front. -/
theorem plain_of_prepend (hbounded : t.Bounded) (hentries : t'.entries = t.entries.insert id entry)
    (hfree : entry.status.isLeased = false) (hnext : entry.generation = t.lastGeneration + 1)
    (hready : t'.ready = ⟨id, entry.generation⟩ :: t.ready) (hdelayed : t'.delayed = t.delayed)
    (hclosed : t'.closed = t.closed) :
    t'.plain =
      { t.plain.remove id with
        visible := id :: (t.plain.remove id).visible
        leased := t.plain.leased.erase id } := by
  have hvisible := visible_of_next hbounded hnext hentries
  have hothers := delayed_of_next hbounded hnext hentries
  have hnew := isCurrent_of_new hfree hentries
  apply PlainQueue.ext
  · show (t'.ready.filter t'.isCurrent).map Position.id = id :: (t.plain.remove id).visible
    rw [hready, List.filter_cons_of_pos hnew, List.map_cons, hvisible]
  · simpa only [plain, hdelayed] using hothers
  · exact leased_of_new hfree hentries
  · exact hclosed

/-- A mail that gets a new position among the delayed ones. -/
theorem plain_of_delay (hbounded : t.Bounded) (hentries : t'.entries = t.entries.insert id entry)
    (hfree : entry.status.isLeased = false) (hnext : entry.generation = t.lastGeneration + 1)
    (hready : t'.ready = t.ready) {due : Instant}
    (hdelayed : t'.delayed = t.delayed.insert ⟨due, entry.generation⟩ ⟨id, entry.generation⟩)
    (hclosed : t'.closed = t.closed) :
    t'.plain =
      { t.plain.remove id with
        delayed := (t.plain.remove id).delayed.filter (·.1 ≤ due) ++
          (due, id) :: (t.plain.remove id).delayed.filter (due < ·.1)
        leased := t.plain.leased.erase id } := by
  have hvisible := visible_of_next hbounded hnext hentries
  have hothers := delayed_of_next hbounded hnext hentries
  have hnew := isCurrent_of_new hfree hentries
  have hlater : ∀ e ∈ t.delayed.toList, e.1.generation < entry.generation := by
    intro e he
    have hle := (hbounded.delayed_le e he).1
    omega
  have hinsert : (t.delayed.insert ⟨due, entry.generation⟩ ⟨id, entry.generation⟩).toList =
      t.delayed.toList.filter (·.1.time ≤ due) ++
        (⟨due, entry.generation⟩, ⟨id, entry.generation⟩) ::
          t.delayed.toList.filter (due < ·.1.time) :=
    Due.toList_insert _ hlater
  apply PlainQueue.ext
  · simpa only [plain, hready] using hvisible
  · rw [← hothers]
    simp only [plain, hdelayed, hinsert, List.filter_append, List.filter_cons, hnew, if_true,
      List.map_append, List.map_cons, List.filter_map, List.filter_filter, Function.comp_def,
      Bool.and_comm]
  · exact leased_of_new hfree hentries
  · exact hclosed

end Arrival

/-- To schedule a mail makes its old positions stale and gives it one new place. -/
theorem plain_schedule {t : Tracking} (hbounded : t.Bounded) (id : MailId) (entry : Entry)
    (due now : Instant) :
    ((t.assign id entry).schedule id due now).plain =
      { (t.plain.remove id).place id due now with leased := t.plain.leased.erase id } := by
  rw [schedule_assign]
  unfold PlainQueue.place
  by_cases hdue : due ≤ now
  · rw [if_pos hdue, if_pos hdue]
    exact plain_of_append hbounded rfl rfl rfl rfl rfl rfl
  · rw [if_neg hdue, if_neg hdue]
    apply plain_of_delay hbounded
    all_goals rfl

end Tracking

end Postroom
