import Postroom.Proofs.Queue.Stale

/-!
What is tracked is in order if no position has a generation that is still to come, and each mail
that is not leased stands exactly once among the positions that count. Every operation keeps that
order, and does to the plain queue behind it what the plain queue does.
-/

namespace Postroom

namespace PlainQueue

theorem standing_place (queue : PlainQueue) (id : MailId) (due now : Instant) :
    (queue.place id due now).standing.Perm (id :: queue.standing) := by
  unfold place standing
  split
  · rw [List.append_assoc]
    exact List.perm_middle
  · have hsplit : (queue.delayed.filter (·.1 ≤ due) ++ (due, id) ::
        queue.delayed.filter (due < ·.1)).Perm ((due, id) :: queue.delayed) := by
      refine List.perm_middle.trans (.cons _ ?_)
      have hlate : queue.delayed.filter (fun e => decide (due < e.1)) =
          queue.delayed.filter (fun e => !decide (e.1 ≤ due)) := by
        simp only [← Instant.not_le, decide_not]
      rw [hlate]
      exact List.filter_append_perm _ _
    exact ((hsplit.map Prod.snd).append_left _).trans List.perm_middle

theorem count_standing_remove (queue : PlainQueue) (id k : MailId) :
    (queue.remove id).standing.count k = if k = id then 0 else queue.standing.count k := by
  rw [standing_remove]
  split
  · rename_i hk
    rw [hk, List.count_eq_zero]
    simp
  · rename_i hk
    rw [List.count_filter (by simpa using hk)]

/-- Where a mail is placed does not depend on what is leased. -/
theorem place_with_leased (queue : PlainQueue)
    (leased : Std.ExtTreeMap MailId (Option Instant)) (id : MailId) (due now : Instant) :
    ({ queue with leased } : PlainQueue).place id due now =
      { queue.place id due now with leased } := by
  unfold place
  split <;> rfl

end PlainQueue

namespace Tracking

structure Orderly (t : Tracking) : Prop extends Bounded t where
  /-- A mail that can be leased now or later stands in one place. -/
  once : ∀ {id entry}, t.entries[id]? = some entry → entry.status.isLeased = false →
    t.plain.standing.count id = 1

/-- What is in order stays so when one mail gets a new entry and a new place, and the others stand
as they did. -/
theorem Orderly.of_arrival {t t' : Tracking} {id : MailId} {entry : Entry} (h : t.Orderly)
    (hentries : t'.entries = t.entries.insert id entry) (hbounded : t'.Bounded)
    (hstanding : t'.plain.standing.Perm (id :: (t.plain.remove id).standing)) : t'.Orderly where
  toBounded := hbounded
  once {k e} hk hfree := by
    rw [hstanding.count_eq, List.count_cons, PlainQueue.count_standing_remove]
    rw [hentries, entry?_insert] at hk
    by_cases heq : k = id
    · simp [heq]
    · rw [if_neg heq] at hk
      have hne : (id == k) = false := by simpa using Ne.symm heq
      rw [if_neg heq, hne, h.once hk hfree]
      rfl

/-- A new position has the last generation, and the old ones have earlier ones. -/
theorem Bounded.schedule_assign {t : Tracking} (h : t.Bounded) (id : MailId) (entry : Entry)
    (due now : Instant) : ((t.assign id entry).schedule id due now).Bounded := by
  rw [Tracking.schedule_assign]
  split
  · constructor
    · intro position hposition
      rcases List.mem_append.1 hposition with hold | hnew
      · exact Nat.le_succ_of_le (h.ready_le position hold)
      · exact Nat.le_of_eq (congrArg Position.generation (List.mem_singleton.1 hnew))
    · intro e he
      obtain ⟨hle, hsame⟩ := h.delayed_le e he
      exact ⟨Nat.le_succ_of_le hle, hsame⟩
  · constructor
    · intro position hposition
      exact Nat.le_succ_of_le (h.ready_le position hposition)
    · intro e he
      have hfresh : ∀ e ∈ t.delayed.toList, e.1.generation < t.lastGeneration + 1 := by
        intro e he
        exact Nat.lt_succ_of_le (h.delayed_le e he).1
      rw [Due.toList_insert _ hfresh, List.mem_append, List.mem_cons] at he
      rcases he with hearly | rfl | hlate
      · obtain ⟨hle, hsame⟩ := h.delayed_le e (List.mem_filter.1 hearly).1
        exact ⟨Nat.le_succ_of_le hle, hsame⟩
      · exact ⟨Nat.le_refl _, rfl⟩
      · obtain ⟨hle, hsame⟩ := h.delayed_le e (List.mem_filter.1 hlate).1
        exact ⟨Nat.le_succ_of_le hle, hsame⟩

theorem Orderly.schedule_assign {t : Tracking} (h : t.Orderly) (id : MailId) (entry : Entry)
    (due now : Instant) : ((t.assign id entry).schedule id due now).Orderly := by
  have hentries : ∃ entry', ((t.assign id entry).schedule id due now).entries =
      t.entries.insert id entry' := by
    rw [Tracking.schedule_assign]
    split
    · exact ⟨_, rfl⟩
    · exact ⟨_, rfl⟩
  obtain ⟨entry', hentries⟩ := hentries
  refine h.of_arrival hentries (h.toBounded.schedule_assign id entry due now) ?_
  rw [plain_schedule h.toBounded]
  exact PlainQueue.standing_place (t.plain.remove id) id due now

theorem restore_eq {t : Tracking} {id : MailId} {entry : Entry} (h : t.entries[id]? = some entry) :
    t.restore id =
      { t.assign id { entry with generation := t.lastGeneration + 1, status := .ready } with
        ready := ⟨id, t.lastGeneration + 1⟩ :: t.ready
        lastGeneration := t.lastGeneration + 1 } := by
  simp only [restore, h, assign]

/-- To restore a mail puts it to the front. -/
theorem plain_restore {t : Tracking} (h : t.Bounded) {id : MailId} {entry : Entry}
    (hentry : t.entries[id]? = some entry) :
    (t.restore id).plain =
      { t.plain.remove id with
        visible := id :: (t.plain.remove id).visible
        leased := t.plain.leased.erase id } := by
  rw [restore_eq hentry]
  apply plain_of_prepend h
  all_goals rfl

theorem Orderly.restore {t : Tracking} (h : t.Orderly) {id : MailId} {entry : Entry}
    (hentry : t.entries[id]? = some entry) : (t.restore id).Orderly := by
  have hplain := plain_restore h.toBounded hentry
  rw [restore_eq hentry] at hplain ⊢
  refine h.of_arrival rfl ⟨?_, ?_⟩ ?_
  · intro position hposition
    rcases List.mem_cons.1 hposition with rfl | hold
    · exact Nat.le_refl _
    · exact Nat.le_succ_of_le (h.ready_le position hold)
  · intro e he
    obtain ⟨hle, hsame⟩ := h.delayed_le e he
    exact ⟨Nat.le_succ_of_le hle, hsame⟩
  · rw [hplain]
    exact .refl _

/-- Only mails that are tracked and not leased stand anywhere. -/
theorem free_of_standing {t : Tracking} {id : MailId} (h : id ∈ t.plain.standing) :
    ∃ entry, t.entries[id]? = some entry ∧ entry.status.isLeased = false := by
  have hcurrent : ∃ position, t.isCurrent position = true ∧ position.id = id := by
    rcases List.mem_append.1 h with hvisible | hdelayed
    · obtain ⟨position, hposition, rfl⟩ := List.mem_map.1 hvisible
      exact ⟨position, (List.mem_filter.1 hposition).2, rfl⟩
    · obtain ⟨e, he, rfl⟩ := List.mem_map.1 hdelayed
      obtain ⟨f, hf, rfl⟩ := List.mem_map.1 he
      exact ⟨f.2, (List.mem_filter.1 hf).2, rfl⟩
  obtain ⟨position, hposition, rfl⟩ := hcurrent
  obtain ⟨entry, hentry, -, hfree⟩ := isCurrent_iff.1 hposition
  exact ⟨entry, hentry, hfree⟩

theorem mem_leased_iff {t : Tracking} {id : MailId} :
    id ∈ t.plain.leased ↔ (t.leaseOf? id).isSome := by
  rw [← leased_plain, Std.ExtTreeMap.mem_iff_isSome_getElem?]

theorem not_leased_of_standing {t : Tracking} {id : MailId} (h : id ∈ t.plain.standing) :
    id ∉ t.plain.leased := by
  obtain ⟨entry, hentry, hfree⟩ := free_of_standing h
  rw [EntryStatus.isLeased_eq] at hfree
  rw [mem_leased_iff, leaseOf?_eq, hentry, Option.bind_some, hfree]
  exact Bool.false_ne_true

/-- A leased mail stands nowhere, so it need not be taken away. -/
theorem remove_of_leased {t : Tracking} {id : MailId} {requeued : Option Instant}
    (h : t.leaseOf? id = some requeued) : t.plain.remove id = t.plain := by
  have hout : id ∉ t.plain.standing := by
    intro hmem
    refine not_leased_of_standing hmem (mem_leased_iff.2 ?_)
    rw [h]
    rfl
  have hvisible : ∀ k ∈ t.plain.visible, k ≠ id := by
    rintro k hk rfl
    exact hout (List.mem_append_left _ hk)
  have hdelayed : ∀ e ∈ t.plain.delayed, e.2 ≠ id := by
    rintro e he rfl
    exact hout (List.mem_append_right _ (List.mem_map_of_mem he))
  apply PlainQueue.ext
  · exact List.filter_eq_self.2 fun k hk => by simpa using hvisible k hk
  · exact List.filter_eq_self.2 fun e he => by simpa using hdelayed e he
  · rfl
  · rfl

theorem erase_of_not_leased {t : Tracking} {id : MailId} (h : t.leaseOf? id = none) :
    t.plain.leased.erase id = t.plain.leased := by
  apply Std.ExtTreeMap.ext_getElem?
  intro k
  simp only [Std.ExtTreeMap.getElem?_erase, Std.compare_eq_iff_eq]
  split
  · rename_i hk
    rw [← hk, leased_plain, h]
  · rfl

/-- What is in order stays so when one mail stands nowhere any more, as it is leased or gone. -/
theorem Orderly.of_departure {t t' : Tracking} {id : MailId} (h : t.Orderly)
    (hentries : ∀ {k entry}, t'.entries[k]? = some entry → entry.status.isLeased = false →
      k ≠ id ∧ t.entries[k]? = some entry) (hbounded : t'.Bounded)
    (hstanding : t'.plain.standing.Perm (t.plain.remove id).standing) : t'.Orderly where
  toBounded := hbounded
  once {k e} hk hfree := by
    obtain ⟨hne, hold⟩ := hentries hk hfree
    rw [hstanding.count_eq, PlainQueue.count_standing_remove, if_neg hne]
    exact h.once hold hfree

theorem plain_assign_leased (t : Tracking) (id : MailId) {entry : Entry}
    {requeued : Option Instant} (h : entry.status = .leased requeued) :
    (t.assign id entry).plain =
      { t.plain.remove id with leased := t.plain.leased.insert id requeued } := by
  have hleased : entry.status.isLeased = true := by rw [h]; rfl
  apply PlainQueue.ext
  · exact map_filter_of_stale fun position _ => isCurrent_assign_leased hleased position
  · exact map_filter_delayed_of_stale fun e _ => isCurrent_assign_leased hleased e.2
  · have hassigned := leased_assign t id entry
    rw [h] at hassigned
    exact hassigned
  · rfl

/-- An entry that is not leased and was not made so is an old one. -/
theorem free_of_assign_leased {t : Tracking} {id k : MailId} {entry e : Entry}
    (hleased : entry.status.isLeased = true) (hk : (t.entries.insert id entry)[k]? = some e)
    (hfree : e.status.isLeased = false) : k ≠ id ∧ t.entries[k]? = some e := by
  rw [entry?_insert] at hk
  by_cases heq : k = id
  · rw [if_pos heq] at hk
    cases hk
    rw [hleased] at hfree
    cases hfree
  · rw [if_neg heq] at hk
    exact ⟨heq, hk⟩

theorem Orderly.assign_leased {t : Tracking} (h : t.Orderly) (id : MailId) {entry : Entry}
    {requeued : Option Instant} (hentry : entry.status = .leased requeued) :
    (t.assign id entry).Orderly := by
  have hleased : entry.status.isLeased = true := by rw [hentry]; rfl
  refine h.of_departure (free_of_assign_leased hleased) ⟨h.ready_le, h.delayed_le⟩ ?_
  rw [plain_assign_leased t id hentry]
  exact .refl _

/-- To schedule a mail that is not leased is to take it away and to place it. -/
theorem plain_schedule_free {t : Tracking} (h : t.Bounded) {id : MailId}
    (hlease : t.leaseOf? id = none) (entry : Entry) (due now : Instant) :
    ((t.assign id entry).schedule id due now).plain =
      (t.plain.remove id).place id due now := by
  rw [plain_schedule h, erase_of_not_leased hlease]
  exact (PlainQueue.place_with_leased (t.plain.remove id) t.plain.leased id due now).symm

/-- To take note of a stored mail is what the plain queue does. -/
theorem plain_register {t : Tracking} (h : t.Orderly) (key : RecordKey) (due now : Instant) :
    (t.register key due now).2.plain = t.plain.enqueue key.id due now ∧
      (t.register key due now).2.Orderly := by
  unfold PlainQueue.enqueue
  cases hentry : t.entries[key.id]? with
  | none =>
      have hlease : t.leaseOf? key.id = none := by
        rw [leaseOf?_eq, hentry]
        rfl
      have htrack : (t.register key due now).2 =
          (t.assign key.id ⟨key, 0, .ready⟩).schedule key.id due now := by
        unfold register
        rw [hentry]
        rfl
      rw [if_neg (by simp [mem_leased_iff, hlease]), htrack]
      exact ⟨plain_schedule_free h.toBounded hlease .., h.schedule_assign ..⟩
  | some entry =>
      have hlease : t.leaseOf? key.id = entry.status.lease? := by
        rw [leaseOf?_eq, hentry]
        rfl
      cases hleased : entry.status.lease? with
      | some requeued =>
          have hregister : (t.register key due now).2 =
              t.assign key.id { entry with key, status := .leased (some due) } := by
            simp only [register, hentry, EntryStatus.isLeased_eq, hleased, Option.isSome_some,
              if_true, assign]
          rw [hleased] at hlease
          rw [if_pos (by simp [mem_leased_iff, hlease]), hregister, plain_assign_leased _ _ rfl,
            remove_of_leased hlease]
          exact ⟨rfl, h.assign_leased _ rfl⟩
      | none =>
          have hregister : (t.register key due now).2 =
              (t.assign key.id { entry with key }).schedule key.id due now := by
            simp only [register, hentry, EntryStatus.isLeased_eq, hleased, Option.isSome_none,
              assign]
            rfl
          rw [hleased] at hlease
          rw [if_neg (by simp [mem_leased_iff, hlease]), hregister]
          exact ⟨plain_schedule_free h.toBounded hlease .., h.schedule_assign ..⟩

/-- To schedule a leased mail is to place it and to note that the lease has ended. -/
theorem plain_schedule_leased {t : Tracking} (h : t.Orderly) {id : MailId}
    {requeued : Option Instant} (hlease : t.leaseOf? id = some requeued) (due now : Instant) :
    (t.schedule id due now).plain =
        ({ t.plain with leased := t.plain.leased.erase id } : PlainQueue).place id due now ∧
      (t.schedule id due now).Orderly := by
  have htracked := hlease
  rw [leaseOf?_eq] at htracked
  obtain ⟨entry, hentry, -⟩ := Option.bind_eq_some_iff.1 htracked
  have hplain := plain_schedule h.toBounded id entry due now
  have horderly := h.schedule_assign id entry due now
  rw [assign_self hentry] at hplain horderly
  rw [hplain, remove_of_leased hlease]
  exact ⟨(PlainQueue.place_with_leased ..).symm, horderly⟩

/-- To end a lease without success is what the plain queue does. -/
theorem plain_release {t : Tracking} (h : t.Orderly) (id : MailId) (now : Instant) :
    (t.release id now).plain = t.plain.settle id false now ∧ (t.release id now).Orderly := by
  unfold release PlainQueue.settle
  rw [leased_plain]
  cases hlease : t.leaseOf? id with
  | none => exact ⟨rfl, h⟩
  | some requeued =>
      cases requeued with
      | some due => exact plain_schedule_leased h hlease due now
      | none =>
          have htracked := hlease
          rw [leaseOf?_eq] at htracked
          obtain ⟨entry, hentry, -⟩ := Option.bind_eq_some_iff.1 htracked
          refine ⟨?_, h.restore hentry⟩
          rw [plain_restore h.toBounded hentry, remove_of_leased hlease]
          rfl

/-- To stop tracking a leased mail is to forget the lease. -/
theorem plain_forget {t : Tracking} (h : t.Orderly) {id : MailId} {requeued : Option Instant}
    (hlease : t.leaseOf? id = some requeued) :
    (t.forget id).plain = { t.plain with leased := t.plain.leased.erase id } ∧
      (t.forget id).Orderly := by
  have hcurrent : ∀ position, (t.forget id).isCurrent position =
      (t.isCurrent position && decide (position.id ≠ id)) := by
    intro position
    unfold isCurrent forget
    dsimp only
    rw [entry?_erase]
    by_cases hid : position.id = id
    · simp [hid]
    · simp [hid]
  have hplain : (t.forget id).plain =
      { t.plain.remove id with leased := t.plain.leased.erase id } := by
    apply PlainQueue.ext
    · exact map_filter_of_stale fun position _ => hcurrent position
    · exact map_filter_delayed_of_stale fun e _ => hcurrent e.2
    · apply Std.ExtTreeMap.ext_getElem?
      intro k
      rw [leased_plain, leaseOf?_eq, forget, entry?_erase]
      simp only [Std.ExtTreeMap.getElem?_erase, Std.compare_eq_iff_eq, leased_plain, leaseOf?_eq]
      by_cases hk : k = id
      · simp [hk]
      · simp [hk, Ne.symm hk]
    · rfl
  have hentries : ∀ {k entry}, (t.forget id).entries[k]? = some entry →
      entry.status.isLeased = false → k ≠ id ∧ t.entries[k]? = some entry := by
    intro k entry hk _
    rw [forget, entry?_erase] at hk
    by_cases heq : k = id
    · rw [if_pos heq] at hk
      cases hk
    · rw [if_neg heq] at hk
      exact ⟨heq, hk⟩
  refine ⟨?_, h.of_departure hentries ⟨h.ready_le, h.delayed_le⟩ ?_⟩
  · rw [hplain, remove_of_leased hlease]
  · rw [hplain]
    exact .refl _

/-- To end a lease with success is what the plain queue does. -/
theorem plain_acknowledge {t t' : Tracking} (h : t.Orderly) {id : MailId} {now : Instant}
    {key : Option RecordKey} (hacknowledge : t.acknowledge id now = some (key, t')) :
    t'.plain = t.plain.settle id true now ∧ t'.Orderly := by
  unfold PlainQueue.settle
  rw [leased_plain]
  rcases t.acknowledge_cases id now with ⟨-, hnone⟩ | ⟨due, hlease, hsome⟩ |
    ⟨hlease, key', -, hsome⟩
  · rw [hnone] at hacknowledge
    cases hacknowledge
  · rw [hsome] at hacknowledge
    cases hacknowledge
    rw [hlease]
    exact plain_schedule_leased h hlease due now
  · rw [hsome] at hacknowledge
    cases hacknowledge
    rw [hlease]
    exact plain_forget h hlease

/-- What becomes of some positions if those that count are appended to the visible ones. -/
structure Promoted (t : Tracking) (positions : List Position) (t' : Tracking) : Prop where
  current : t'.isCurrent = t.isCurrent
  ready : t'.ready = t.ready ++ positions.filter t.isCurrent
  delayed : t'.delayed = t.delayed
  lastGeneration : t'.lastGeneration = t.lastGeneration
  closed : t'.closed = t.closed
  leaseOf? : t'.leaseOf? = t.leaseOf?
  key? : t'.key? = t.key?

theorem promoted_nil (t : Tracking) : t.Promoted [] t := by
  constructor <;> simp

theorem promoted_promote (t : Tracking) (position : Position) :
    t.Promoted [position] (t.promote position) := by
  have hkey := key?_promote t position
  unfold promote at hkey ⊢
  cases hentry : t.entries[position.id]? with
  | none =>
      have hstale : t.isCurrent position = false := by
        simp only [isCurrent, hentry]
      constructor <;> simp [hstale]
  | some entry =>
      by_cases hcurrent : t.isCurrent position = true
      · rw [hentry] at hkey
        simp only [hcurrent, if_true] at hkey ⊢
        have hfree : entry.status.isLeased = false := by
          obtain ⟨e, he, -, hfree⟩ := isCurrent_iff.1 hcurrent
          rw [hentry] at he
          cases he
          exact hfree
        refine ⟨?_, ?_, rfl, rfl, rfl, ?_, hkey⟩
        · funext p
          have hassigned := isCurrent_assign t position.id { entry with status := .ready } p
          refine Eq.trans hassigned ?_
          by_cases hid : p.id = position.id
          · have hready : EntryStatus.ready.isLeased = false := rfl
            simp [isCurrent, hid, hentry, hfree, hready]
          · simp [hid]
        · simp [hcurrent]
        · funext k
          have hlease : entry.status.lease? = none := by
            simpa [EntryStatus.isLeased_eq] using hfree
          rw [leaseOf?_eq, leaseOf?_eq, entry?_insert]
          by_cases hk : k = position.id
          · have hready : EntryStatus.ready.lease? = none := rfl
            simp [hk, hentry, hready, hlease]
          · rw [if_neg hk]
      · simp only [hcurrent]
        constructor <;> simp [hcurrent]

theorem Promoted.trans {a b c : Tracking} {xs ys : List Position} (hab : a.Promoted xs b)
    (hbc : b.Promoted ys c) : a.Promoted (xs ++ ys) c where
  current := hbc.current.trans hab.current
  ready := by rw [hbc.ready, hab.ready, hab.current, List.filter_append, List.append_assoc]
  delayed := hbc.delayed.trans hab.delayed
  lastGeneration := hbc.lastGeneration.trans hab.lastGeneration
  closed := hbc.closed.trans hab.closed
  leaseOf? := hbc.leaseOf?.trans hab.leaseOf?
  key? := hbc.key?.trans hab.key?

theorem promoted_foldl (t : Tracking) (positions : List Position) :
    t.Promoted positions (positions.foldl promote t) := by
  induction positions generalizing t with
  | nil => exact promoted_nil t
  | cons position positions ih => exact (promoted_promote t position).trans (ih _)

theorem leaseOf?_promoteDue (t : Tracking) (now : Instant) :
    (t.promoteDue now).leaseOf? = t.leaseOf? :=
  (promoted_foldl _ _).leaseOf?

theorem leaseOf?_flush (t : Tracking) : t.flush.2.leaseOf? = t.leaseOf? :=
  (promoted_foldl _ _).leaseOf?

/-- Mails that are tracked and not leased are so by their keys and leases alone. -/
theorem free_of_same {t t' : Tracking} (hkey : t'.key? = t.key?) (hlease : t'.leaseOf? = t.leaseOf?)
    {id : MailId} {entry : Entry} (hentry : t'.entries[id]? = some entry)
    (hfree : entry.status.isLeased = false) :
    ∃ old, t.entries[id]? = some old ∧ old.status.isLeased = false := by
  have hsome : t.key? id = some entry.key := by
    rw [← hkey]
    exact key?_eq_some_iff.2 ⟨entry, hentry, rfl⟩
  obtain ⟨old, hold, -⟩ := key?_eq_some_iff.1 hsome
  refine ⟨old, hold, ?_⟩
  have hsame : old.status.lease? = entry.status.lease? := by
    have h := congrFun hlease id
    simpa [leaseOf?_eq, hold, hentry, eq_comm] using h
  rw [EntryStatus.isLeased_eq, hsame, ← EntryStatus.isLeased_eq]
  exact hfree

/-- The delayed positions for which `isUp` holds become visible, in order. -/
theorem plain_promoted {t t' : Tracking} (h : t.Orderly) (isUp : Instant → Bool)
    (hpromoted : ({ t with delayed := t.delayed.filter fun due _ => !isUp due.time }).Promoted
      ((t.delayed.toList.filter fun e : Due × Position => isUp e.1.time).map Prod.snd) t') :
    t'.plain =
        { t.plain with
          visible := t.plain.visible ++ (t.plain.delayed.filter fun e => isUp e.1).map Prod.snd
          delayed := t.plain.delayed.filter fun e => !isUp e.1 } ∧
      t'.Orderly := by
  have hcurrent : t'.isCurrent = t.isCurrent := hpromoted.current
  have hready : t'.ready = t.ready ++
      ((t.delayed.toList.filter fun e => isUp e.1.time).map Prod.snd).filter t.isCurrent :=
    hpromoted.ready
  have hdelayed : t'.delayed.toList = t.delayed.toList.filter fun e => !isUp e.1.time := by
    rw [hpromoted.delayed]
    exact Std.ExtTreeMap.toList_filter
  have hplain : t'.plain =
      { t.plain with
        visible := t.plain.visible ++ (t.plain.delayed.filter fun e => isUp e.1).map Prod.snd
        delayed := t.plain.delayed.filter fun e => !isUp e.1 } := by
    apply PlainQueue.ext
    · have hcounted : t'.ready.filter t.isCurrent = t.ready.filter t.isCurrent ++
          ((t.delayed.toList.filter fun e => isUp e.1.time).map Prod.snd).filter t.isCurrent := by
        rw [hready, List.filter_append, List.filter_filter]
        simp only [Bool.and_self]
      simp only [plain, hcurrent, hcounted, List.map_append, List.filter_map, List.filter_filter,
        List.map_map, Function.comp_def, Bool.and_comm]
    · simp only [plain, hcurrent, hdelayed, List.filter_map, List.filter_filter, Function.comp_def,
        Bool.and_comm]
    · apply Std.ExtTreeMap.ext_getElem?
      intro k
      rw [leased_plain, hpromoted.leaseOf?]
      exact (leased_plain t k).symm
    · exact hpromoted.closed
  refine ⟨hplain, ⟨?_, ?_⟩, ?_⟩
  · intro position hposition
    rw [hpromoted.lastGeneration]
    rw [hready] at hposition
    rcases List.mem_append.1 hposition with hold | hnew
    · exact h.ready_le position hold
    · obtain ⟨e, he, rfl⟩ := List.mem_map.1 (List.mem_filter.1 hnew).1
      obtain ⟨hle, hsame⟩ := h.delayed_le e (List.mem_filter.1 he).1
      show e.2.generation ≤ t.lastGeneration
      omega
  · intro e he
    rw [hpromoted.lastGeneration]
    rw [hdelayed] at he
    exact h.delayed_le e (List.mem_filter.1 he).1
  · intro id entry hentry hfree
    obtain ⟨old, hold, hfree⟩ := free_of_same hpromoted.key? hpromoted.leaseOf? hentry hfree
    have hsame : t'.plain.standing.Perm t.plain.standing := by
      rw [hplain, PlainQueue.standing, PlainQueue.standing, List.append_assoc, ← List.map_append]
      exact ((List.filter_append_perm _ _).map _).append_left _
    rw [hsame.count_eq]
    exact h.once hold hfree

theorem plain_promoteDue {t : Tracking} (h : t.Orderly) (now : Instant) :
    (t.promoteDue now).plain = t.plain.promoteDue now ∧ (t.promoteDue now).Orderly := by
  have hlate : ∀ time : Instant, decide (now < time) = !decide (time ≤ now) := by
    intro time
    simp only [← Instant.not_le, decide_not]
  have hpromoted := plain_promoted h (fun time => decide (time ≤ now)) (promoted_foldl _ _)
  simp only [← hlate] at hpromoted
  exact hpromoted

theorem plain_flush {t : Tracking} (h : t.Orderly) :
    t.flush.1 = t.plain.flush.1 ∧ t.flush.2.plain = t.plain.flush.2 ∧ t.flush.2.Orderly := by
  have hall : ∀ {α : Type} (xs : List α), xs.filter (fun _ => true) = xs :=
    fun xs => List.filter_eq_self.2 fun _ _ => rfl
  have hnone : (t.delayed.filter fun _ _ => false) = ∅ := by
    apply Std.ExtTreeMap.ext_getElem?
    intro due
    simp
  have hpromoted : t.flush.2.plain =
        { t.plain with
          visible := t.plain.visible ++ (t.plain.delayed.filter fun _ => true).map Prod.snd
          delayed := t.plain.delayed.filter fun _ => !true } ∧ t.flush.2.Orderly := by
    apply plain_promoted h fun _ => true
    simp only [Bool.not_true, hnone, hall]
    exact promoted_foldl _ _
  rw [hall] at hpromoted
  have hgone : (t.plain.delayed.filter fun _ => !true) = [] := by simp
  rw [hgone] at hpromoted
  refine ⟨?_, hpromoted⟩
  show ((t.delayed.toList.map Prod.snd).filter t.isCurrent).length = t.plain.delayed.length
  simp only [plain, List.filter_map, List.length_map, Function.comp_def]

/-- The first visible mail stands nowhere else. -/
theorem Orderly.not_mem_behind {t : Tracking} (h : t.Orderly) {id : MailId} {rest : List MailId}
    (hvisible : t.plain.visible = id :: rest) : id ∉ rest ++ t.plain.delayed.map Prod.snd := by
  have hmem : id ∈ t.plain.standing := by
    rw [PlainQueue.standing, hvisible]
    exact List.mem_cons_self ..
  obtain ⟨entry, hentry, hfree⟩ := free_of_standing hmem
  have honce := h.once hentry hfree
  rw [PlainQueue.standing, hvisible, List.cons_append, List.count_cons_self] at honce
  rw [← List.count_eq_zero]
  omega

/-- To lease a mail takes it from the front. -/
theorem plain_claim {t : Tracking} (h : t.Orderly) :
    (t.claim = none ∧ t.plain.visible = []) ∨
    ∃ id rest key t', t.plain.visible = id :: rest ∧ t.key? id = some key ∧
      t.claim = some (key, t') ∧ t'.key? = t.key? ∧
      t'.plain = { t.plain with visible := rest, leased := t.plain.leased.insert id none } ∧
      t'.Orderly := by
  rcases t.claim_cases with ⟨hnone, hstale⟩ |
    ⟨stale, position, rest, entry, hready, hstale, hcurrent, hentry, hclaim⟩
  · refine .inl ⟨hnone, ?_⟩
    have hempty : t.ready.filter t.isCurrent = [] :=
      List.filter_eq_nil_iff.2 fun position hposition => by simp [hstale position hposition]
    rw [plain, hempty, List.map_nil]
  · have hnone : stale.filter t.isCurrent = [] :=
      List.filter_eq_nil_iff.2 fun p hp => by simp [hstale p hp]
    have hvisible : t.plain.visible =
        position.id :: (rest.filter t.isCurrent).map Position.id := by
      rw [plain, hready, List.filter_append, hnone, List.nil_append,
        List.filter_cons_of_pos hcurrent, List.map_cons]
    -- the mail stands nowhere else, so taking it from the front takes it away
    have hout := h.not_mem_behind hvisible
    have hlate : ∀ p ∈ rest, p ∈ t.ready := by
      intro p hp
      rw [hready]
      exact List.mem_append_right _ (List.mem_cons_of_mem _ hp)
    have hbounded : ({ t with ready := rest } : Tracking).Bounded :=
      ⟨fun p hp => h.ready_le p (hlate p hp), h.delayed_le⟩
    have hplain : (({ t with ready := rest } : Tracking).assign position.id
        { entry with status := .leased none }).plain =
          { t.plain with
            visible := (rest.filter t.isCurrent).map Position.id
            leased := t.plain.leased.insert position.id none } := by
      rw [plain_assign_leased _ _ rfl]
      apply PlainQueue.ext
      · refine List.filter_eq_self.2 fun k hk => ?_
        have hne : k ≠ position.id := fun heq => hout (List.mem_append_left _ (heq ▸ hk))
        simpa using hne
      · refine List.filter_eq_self.2 fun e he => ?_
        have hne : e.2 ≠ position.id := fun heq =>
          hout (List.mem_append_right _ (heq ▸ List.mem_map_of_mem he))
        simpa using hne
      · rfl
      · rfl
    refine .inr ⟨position.id, _, entry.key, _, hvisible, key?_eq_some_iff.2 ⟨entry, hentry, rfl⟩,
      hclaim, key?_of_replace hentry rfl rfl, hplain, ?_⟩
    refine h.of_departure (free_of_assign_leased rfl) ⟨hbounded.ready_le, hbounded.delayed_le⟩ ?_
    have hothers : (t.plain.remove position.id).standing =
        (rest.filter t.isCurrent).map Position.id ++ t.plain.delayed.map Prod.snd := by
      rw [PlainQueue.standing_remove, PlainQueue.standing, hvisible, List.cons_append,
        List.filter_cons_of_neg (by simp)]
      refine List.filter_eq_self.2 fun k hk => ?_
      have hne : k ≠ position.id := fun heq => hout (heq ▸ hk)
      simpa using hne
    rw [hothers]
    exact List.Perm.of_eq (congrArg PlainQueue.standing hplain)

/-- The mails that stand somewhere and the leased ones are all that are tracked. -/
theorem size_plain {t : Tracking} (h : t.Orderly) : t.plain.size = t.size := by
  have hstanding : ∀ id, id ∈ t.plain.standing ↔
      ∃ entry, t.entries[id]? = some entry ∧ entry.status.lease? = none := by
    intro id
    constructor
    · intro hmem
      obtain ⟨entry, hentry, hfree⟩ := free_of_standing hmem
      exact ⟨entry, hentry, by simpa [EntryStatus.isLeased_eq] using hfree⟩
    · rintro ⟨entry, hentry, hlease⟩
      have honce := h.once hentry (by simp [EntryStatus.isLeased_eq, hlease])
      exact List.count_pos_iff.1 (by omega)
  have hleased : ∀ id, id ∈ t.plain.leased.keys ↔
      ∃ entry requeued, t.entries[id]? = some entry ∧ entry.status.lease? = some requeued := by
    intro id
    rw [Std.ExtTreeMap.mem_keys, mem_leased_iff, leaseOf?_eq, Option.isSome_iff_exists]
    constructor
    · rintro ⟨requeued, hlease⟩
      obtain ⟨entry, hentry, hlease⟩ := Option.bind_eq_some_iff.1 hlease
      exact ⟨entry, requeued, hentry, hlease⟩
    · rintro ⟨entry, requeued, hentry, hlease⟩
      exact ⟨requeued, by rw [hentry, Option.bind_some, hlease]⟩
  have hnodup : (t.plain.standing ++ t.plain.leased.keys).Nodup := by
    refine List.nodup_append.2 ⟨?_, Std.ExtTreeMap.nodup_keys, ?_⟩
    · refine List.nodup_iff_count.2 fun id => ?_
      by_cases hmem : id ∈ t.plain.standing
      · obtain ⟨entry, hentry, hfree⟩ := free_of_standing hmem
        exact Nat.le_of_eq (h.once hentry hfree)
      · rw [List.count_eq_zero.2 hmem]
        exact Nat.zero_le 1
    · rintro id hid k hk rfl
      obtain ⟨entry, hentry, hnone⟩ := (hstanding id).1 hid
      obtain ⟨other, requeued, hother, hsome⟩ := (hleased id).1 hk
      rw [hentry] at hother
      cases hother
      rw [hnone] at hsome
      cases hsome
  have hsame : (t.plain.standing ++ t.plain.leased.keys).Perm t.entries.keys := by
    refine (List.perm_ext_iff_of_nodup hnodup Std.ExtTreeMap.nodup_keys).2 fun id => ?_
    rw [List.mem_append, hstanding, hleased, Std.ExtTreeMap.mem_keys,
      Std.ExtTreeMap.mem_iff_isSome_getElem?]
    cases t.entries[id]? with
    | none => simp
    | some entry => cases hlease : entry.status.lease? <;> simp [hlease]
  have hlength := hsame.length_eq
  rw [List.length_append, PlainQueue.standing, List.length_append, List.length_map,
    Std.ExtTreeMap.length_keys, Std.ExtTreeMap.length_keys] at hlength
  exact hlength

end Tracking

end Postroom
