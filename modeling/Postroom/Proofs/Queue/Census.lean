import Mathlib.Data.List.Nodup
import Postroom.Proofs.Queue.Consistency
import Postroom.Proofs.Queue.Custody

/-!
The census of a queue: the mails that it tracks, as their records have them. To store mails adds
them and takes away what they supersede, a lease that ends with success takes its mail away, and
everything else leaves the census as it is.
-/

namespace Postroom

namespace MailQueue

variable {σ : Type} {store : RecordStore σ} {holds : σ → Holdings} {mail : Mail}
  {mails later : List Mail} {before middle after : MailQueue σ}

/-- Whether every mail is tracked under a key of its own. -/
def OwnsKeys (queue : MailQueue σ) : Prop :=
  ∀ id key, queue.tracking.key? id = some key → key.id = id

/-- What is left of a queue beside some mails: these are tracked too, each with a record, and
nothing else is tracked, or recorded, otherwise than before. -/
structure LeavesBehind (holds : σ → Holdings) (mails : List Mail)
    (before after : MailQueue σ) : Prop where
  tracked : ∀ id, (after.tracking.key? id).isSome ↔
    (before.tracking.key? id).isSome ∨ id ∈ mails.map Mail.id
  recorded : ∀ id ∈ mails.map Mail.id, ∃ m ∈ mails, m.id = id ∧ ∃ key, key.id = id ∧
    after.tracking.key? id = some key ∧ holds after.records key = some (.ok m)
  keys : ∀ id ∉ mails.map Mail.id, after.tracking.key? id = before.tracking.key? id
  records : ∀ key : RecordKey, key.id ∉ mails.map Mail.id →
    holds after.records key = holds before.records key

/-- What a queue is after some mails have been stored: a lease on one of them waits for a time, and
no other lease has changed. -/
structure Stores (holds : σ → Holdings) (mails : List Mail) (before after : MailQueue σ) : Prop
    extends LeavesBehind holds mails before after where
  leases : ∀ id ∉ mails.map Mail.id, after.tracking.leaseOf? id = before.tracking.leaseOf? id
  requeued : ∀ id ∈ mails.map Mail.id, after.tracking.leaseOf? id ≠ some none
  closed : after.tracking.closed = before.tracking.closed

/-- Where nothing was stored, everything is as it was. -/
theorem Stores.of_refused {records : σ} (hsame : holds records = holds before.records) :
    Stores holds [] before { before with records } where
  tracked := by simp
  recorded := by simp
  keys _ _ := rfl
  records key _ := congrFun hsame key
  leases _ _ := rfl
  requeued := by simp
  closed := rfl

theorem Stores.trans (first : Stores holds mails before middle)
    (second : Stores holds later middle after) : Stores holds (mails ++ later) before after where
  tracked id := by
    rw [second.tracked, first.tracked, List.map_append, List.mem_append, or_assoc]
  recorded id hid := by
    rw [List.map_append, List.mem_append] at hid
    by_cases hagain : id ∈ later.map Mail.id
    · obtain ⟨m, hm, hrest⟩ := second.recorded id hagain
      exact ⟨m, List.mem_append_right _ hm, hrest⟩
    · obtain ⟨m, hm, hmid, key, hkid, hkey, hheld⟩ := first.recorded id (hid.resolve_right hagain)
      refine ⟨m, List.mem_append_left _ hm, hmid, key, hkid, ?_, ?_⟩
      · rw [second.keys id hagain, hkey]
      · rw [second.records key (hkid ▸ hagain), hheld]
  keys id hid := by
    rw [List.map_append, List.mem_append, not_or] at hid
    rw [second.keys id hid.2, first.keys id hid.1]
  records key hid := by
    rw [List.map_append, List.mem_append, not_or] at hid
    rw [second.records key hid.2, first.records key hid.1]
  leases id hid := by
    rw [List.map_append, List.mem_append, not_or] at hid
    rw [second.leases id hid.2, first.leases id hid.1]
  requeued id hid := by
    rw [List.map_append, List.mem_append] at hid
    by_cases hagain : id ∈ later.map Mail.id
    · exact second.requeued id hagain
    · rw [second.leases id hagain]
      exact first.requeued id (hid.resolve_right hagain)
  closed := second.closed.trans first.closed

/-- To store a mail leaves that mail beside what there was, or it fails and leaves nothing. -/
theorem enqueue_stores (hstore : store.Lawful holds) (hown : before.OwnsKeys) (mail : Mail)
    (delay : Nat) (now : Instant) :
    ((∃ e, (before.enqueue store mail delay now).1 = .error e) ∧
      Stores holds [] before (before.enqueue store mail delay now).2) ∨
    (before.enqueue store mail delay now).1 = .ok () ∧
      Stores holds [mail] before (before.enqueue store mail delay now).2 ∧
      (before.enqueue store mail delay now).2.OwnsKeys := by
  have hsame := enqueue_sameBut hstore mail delay now (hown mail.id)
  rcases enqueue_outcomes hstore mail delay now before with
    ⟨key, written, hkey, -, ⟨e, henqueue, -, hheld⟩ | ⟨hput, hcases⟩⟩
  · rw [henqueue]
    exact .inl ⟨⟨e, rfl⟩, .of_refused hheld⟩
  have hkid : key.id = mail.id := by rw [hkey, RecordKey.scheduled_id]
  have hregister := before.tracking.key?_register key (dueTime now delay) now
  have hended : ∃ records, before.enqueue store mail delay now =
      (.ok (), ⟨(before.tracking.register key (dueTime now delay) now).2, records⟩) ∧
        holds records key = some (.ok mail) := by
    rcases hcases with ⟨-, henqueue⟩ | ⟨old, -, hne, henqueue⟩
    · refine ⟨_, henqueue, ?_⟩
      rw [hput, Holdings.put_same]
    · refine ⟨_, henqueue, ?_⟩
      rw [hstore.delete_other hne.symm, hput, Holdings.put_same]
  obtain ⟨records, henqueue, hheld⟩ := hended
  rw [henqueue] at hsame ⊢
  refine .inr ⟨rfl, ?_, ?_⟩
  · refine ⟨⟨?_, ?_, ?_, ?_⟩, ?_, ?_, ?_⟩
    · intro id
      rw [hregister, hkid]
      by_cases hid : id = mail.id <;> simp [hid]
    · intro id hid
      rw [List.map_singleton, List.mem_singleton] at hid
      refine ⟨mail, by simp, hid.symm, key, hkid.trans hid.symm, ?_, hheld⟩
      rw [hregister, if_pos (hid.trans hkid.symm)]
    · intro id hid
      exact hsame.keys id (by simpa using hid)
    · intro k hid
      exact hsame.records k (by simpa using hid)
    · intro id hid
      apply Tracking.leaseOf?_register_other
      simpa [hkid] using hid
    · intro id hid
      have hrequeued := before.tracking.leaseOf?_register key (dueTime now delay) now
      rw [List.map_singleton, List.mem_singleton] at hid
      rwa [hid, ← hkid]
    · exact Tracking.closed_register ..
  · intro id k hk
    rw [hregister] at hk
    split at hk
    · rename_i hid
      cases hk
      exact hid.symm
    · exact hown id k hk

/-- The tracked mails, as their records have them. -/
def census (holds : σ → Holdings) (queue : MailQueue σ) : List Mail :=
  queue.tracking.entries.toList.filterMap fun (_, entry) =>
    match holds queue.records entry.key with
    | some (.ok mail) => some mail
    | _ => none

/-- Whether some mails are the tracked ones, each as its record has it. -/
structure Lists (holds : σ → Holdings) (queue : MailQueue σ) (mails : List Mail) : Prop where
  ids : (mails.map Mail.id).Nodup
  mem_iff : ∀ m, m ∈ mails ↔ ∃ key, queue.tracking.key? m.id = some key ∧
    holds queue.records key = some (.ok m)

/-- Of mails with different ids, each is known by its id. -/
theorem eq_of_id_eq {mails : List Mail} (hids : (mails.map Mail.id).Nodup) {a b : Mail}
    (ha : a ∈ mails) (hb : b ∈ mails) (hid : a.id = b.id) : a = b :=
  List.inj_on_of_nodup_map hids ha hb hid

theorem Lists.nodup (h : Lists holds before mails) : mails.Nodup :=
  h.ids.of_map Mail.id

/-- A queue has one census, in any order. -/
theorem Lists.perm (h : Lists holds before mails) {others : List Mail}
    (hothers : Lists holds before others) : mails.Perm others :=
  (List.perm_ext_iff_of_nodup h.nodup hothers.nodup).2 fun m =>
    (h.mem_iff m).trans (hothers.mem_iff m).symm

theorem Lists.reorder (h : Lists holds before mails) {others : List Mail}
    (hperm : mails.Perm others) : Lists holds before others where
  ids := (hperm.map Mail.id).nodup_iff.1 h.ids
  mem_iff m := hperm.mem_iff.symm.trans (h.mem_iff m)

theorem Lists.of_same (h : Lists holds before mails)
    (hkey : after.tracking.key? = before.tracking.key?)
    (hrecords : holds after.records = holds before.records) : Lists holds after mails where
  ids := h.ids
  mem_iff m := by
    rw [hkey, hrecords]
    exact h.mem_iff m

variable {ledger : Ledger}

theorem Consistent.ownsKeys (h : Consistent holds ledger before) : before.OwnsKeys :=
  fun _ _ hkey => (h.held hkey).1

/-- If what is tracked and what is stored agree, the census has every tracked mail. -/
theorem Consistent.lists (h : Consistent holds ledger before) :
    Lists holds before (before.census holds) := by
  have hentry : ∀ {id : MailId} {entry : Entry}, (id, entry) ∈ before.tracking.entries.toList →
      before.tracking.key? id = some entry.key := by
    intro id entry hmem
    exact Tracking.key?_eq_some_iff.2
      ⟨entry, Std.ExtTreeMap.mem_toList_iff_getElem?_eq_some.1 hmem, rfl⟩
  have hmem : ∀ m, m ∈ before.census holds ↔ ∃ id entry,
      (id, entry) ∈ before.tracking.entries.toList ∧
        holds before.records entry.key = some (.ok m) := by
    intro m
    simp only [census, List.mem_filterMap]
    constructor
    · rintro ⟨⟨id, entry⟩, hentry, hheld⟩
      refine ⟨id, entry, hentry, ?_⟩
      split at hheld
      · rename_i mail hrecord
        cases hheld
        exact hrecord
      · cases hheld
    · rintro ⟨id, entry, hentry, hheld⟩
      exact ⟨(id, entry), hentry, by simp only [hheld]⟩
  constructor
  · have hids : before.tracking.entries.toList.Pairwise fun a b => a.1 ≠ b.1 := by
      refine Std.ExtTreeMap.distinct_keys_toList.imp ?_
      intro a b hne heq
      exact hne (by rw [heq, Std.compare_eq_iff_eq])
    unfold census
    rw [List.Nodup, List.pairwise_map, List.pairwise_filterMap]
    refine hids.imp_of_mem ?_
    intro a b ha hb hne first hfirst second hsecond heq
    -- each record is one of the id that its entry stands under
    have hown : ∀ {e : MailId × Entry} {m : Mail}, e ∈ before.tracking.entries.toList →
        (match holds before.records e.2.key with
          | some (.ok mail) => some mail
          | _ => none) = some m → m.id = e.1 := by
      intro e m he hm
      obtain ⟨-, mail, due, -, hmail, hheld⟩ := h.held (hentry he)
      simp only [hheld, Option.some.injEq] at hm
      rw [← hm, hmail]
    exact hne ((hown ha hfirst).symm.trans (heq.trans (hown hb hsecond)))
  · intro m
    rw [hmem]
    constructor
    · rintro ⟨id, entry, hmem, hheld⟩
      obtain ⟨-, mail, due, -, hmail, hrecord⟩ := h.held (hentry hmem)
      rw [hrecord] at hheld
      cases hheld
      rw [hmail]
      exact ⟨entry.key, hentry hmem, hrecord⟩
    · rintro ⟨key, hkey, hheld⟩
      obtain ⟨entry, hmem, rfl⟩ := Tracking.key?_eq_some_iff.1 hkey
      exact ⟨m.id, entry, Std.ExtTreeMap.mem_toList_iff_getElem?_eq_some.2 hmem, hheld⟩

/-- If what is tracked and what is stored agree, nothing is tracked that is not listed. -/
theorem Consistent.mem_ids (h : Consistent holds ledger before) (hlists : Lists holds before mails)
    (id : MailId) : id ∈ mails.map Mail.id ↔ before.tracking.key? id ≠ none := by
  constructor
  · intro hid
    obtain ⟨m, hm, rfl⟩ := List.mem_map.1 hid
    obtain ⟨key, hkey, -⟩ := (hlists.mem_iff m).1 hm
    simp [hkey]
  · intro htracked
    obtain ⟨key, hkey⟩ := Option.ne_none_iff_exists'.1 htracked
    obtain ⟨-, mail, due, -, rfl, hheld⟩ := h.held hkey
    exact List.mem_map_of_mem ((hlists.mem_iff mail).2 ⟨key, hkey, hheld⟩)

/-- Mails that have been stored take the places of those that had their ids. -/
theorem Stores.lists (h : Stores holds mails before after) (hown : before.OwnsKeys)
    (hids : (mails.map Mail.id).Nodup) {census : List Mail} (hbefore : Lists holds before census) :
    Lists holds after (mails ++ census.filter fun m => m.id ∉ mails.map Mail.id) where
  ids := by
    rw [List.map_append]
    refine List.nodup_append.2 ⟨hids, hbefore.ids.sublist (List.filter_sublist.map _), ?_⟩
    intro id hid other hother heq
    obtain ⟨m, hm, rfl⟩ := List.mem_map.1 hother
    have hout : m.id ∉ mails.map Mail.id := by simpa using (List.mem_filter.1 hm).2
    exact hout (heq ▸ hid)
  mem_iff m := by
    rw [List.mem_append, List.mem_filter, decide_eq_true_eq]
    by_cases hstored : m.id ∈ mails.map Mail.id
    · obtain ⟨m', hm', hid, key, -, hkey, hheld⟩ := h.recorded m.id hstored
      constructor
      · rintro (hm | ⟨-, hout⟩)
        · rw [eq_of_id_eq hids hm hm' hid.symm] at hkey ⊢
          exact ⟨key, hkey, hheld⟩
        · exact absurd hstored hout
      · rintro ⟨other, hother, hrecord⟩
        rw [hkey] at hother
        cases hother
        rw [hheld] at hrecord
        cases hrecord
        exact .inl hm'
    · have hout : m ∉ mails := fun hm => hstored (List.mem_map_of_mem hm)
      have hsame : ∀ {key}, before.tracking.key? m.id = some key →
          holds after.records key = holds before.records key := by
        intro key hkey
        exact h.records key (hown m.id key hkey ▸ hstored)
      simp only [hout, hstored, not_false_eq_true, and_true, false_or, h.keys m.id hstored,
        hbefore.mem_iff m]
      constructor
      · rintro ⟨key, hkey, hheld⟩
        exact ⟨key, hkey, (hsame hkey).trans hheld⟩
      · rintro ⟨key, hkey, hheld⟩
        exact ⟨key, hkey, (hsame hkey).symm.trans hheld⟩

/-- A lease that ends with success takes its mail from the census, unless that was stored again. -/
theorem Lists.complete (hstore : store.Lawful holds) (hown : before.OwnsKeys)
    (h : Lists holds before mails) (id : MailId) (now : Instant) :
    (before.tracking.leaseOf? id = some none →
      Lists holds (before.complete store id now).2 (mails.filter fun m => m.id ≠ id)) ∧
    (before.tracking.leaseOf? id ≠ some none →
      Lists holds (before.complete store id now).2 mails) := by
  refine ⟨fun hlease => ?_, fun hlease => ?_⟩
  · have hsame := complete_sameBut hstore id now (hown id)
    have hgone : (before.complete store id now).2.tracking.key? id = none := by
      rcases complete_outcomes id now before with ⟨hnone, -⟩ | ⟨due, hsome, -⟩ |
        ⟨-, key, -, -, hcomplete⟩
      · rw [hlease] at hnone
        cases hnone
      · rw [hlease] at hsome
        cases hsome
      · rw [hcomplete]
        dsimp only
        rw [Tracking.key?_forget, if_pos rfl]
    constructor
    · exact h.ids.sublist (List.filter_sublist.map _)
    · intro m
      rw [List.mem_filter, decide_eq_true_eq, h.mem_iff]
      by_cases hid : m.id = id
      · simp [hid, hgone]
      · rw [hsame.keys m.id hid]
        simp only [hid, ne_eq, not_false_eq_true, and_true]
        refine exists_congr fun key => and_congr_right fun hkey => ?_
        rw [hsame.records key (hown m.id key hkey ▸ hid)]
  · obtain ⟨hkey, hrecords⟩ := before.complete_of_requeued store hlease now
    exact h.of_same hkey (congrArg holds hrecords)

/-- A call for a lease changes nothing but the status of what it hands out: a mail of the census
that is leased now, and for which nothing waits. -/
theorem Consistent.dequeue (hstore : store.Lawful holds) (h : Consistent holds ledger before)
    (broken : MailId → Option IoError) (now : Instant) {answer : Except QueueError (Option Mail)}
    (hdequeue : before.dequeue (store.interrupted broken) now = (answer, after)) :
    after.tracking.key? = before.tracking.key? ∧ holds after.records = holds before.records ∧
      ∀ mail, answer = .ok (some mail) → after.tracking.leaseOf? mail.id = some none ∧
        ∃ key, after.tracking.key? mail.id = some key ∧
          holds after.records key = some (.ok mail) := by
  rcases dequeue_cases hstore h broken now with ⟨-, hclosed⟩ | ⟨-, -, hnothing⟩ |
    ⟨key, tracking, mail, due, -, hclaim, hledger, hid, hread⟩
  · rw [hclosed] at hdequeue
    cases hdequeue
    exact ⟨rfl, rfl, by simp⟩
  · rw [hnothing] at hdequeue
    cases hdequeue
    exact ⟨Tracking.key?_promoteDue .., rfl, by simp⟩
  have hkeys : tracking.key? = before.tracking.key? := by
    rw [(Tracking.key?_claim hclaim).1, Tracking.key?_promoteDue]
  rcases hread with ⟨e, -, hbroken⟩ | ⟨-, records, -, hsame, hleased⟩
  · rw [hbroken] at hdequeue
    cases hdequeue
    exact ⟨(Tracking.key?_release ..).trans hkeys, rfl, by simp⟩
  · rw [hleased] at hdequeue
    cases hdequeue
    refine ⟨hkeys, hsame, ?_⟩
    intro leased hleased
    cases hleased
    rcases (before.tracking.promoteDue now).claim_cases with ⟨hnone, -⟩ |
      ⟨stale, position, rest, entry, -, -, -, hentry, hsome⟩
    · rw [hnone] at hclaim
      cases hclaim
    rw [hsome] at hclaim
    cases hclaim
    have hkey : before.tracking.key? position.id = some entry.key := by
      rw [← Tracking.key?_promoteDue before.tracking now]
      exact Tracking.key?_eq_some_iff.2 ⟨entry, hentry, rfl⟩
    obtain ⟨hown, mail', due', hledger', -, hheld⟩ := h.held hkey
    rw [← hown, hledger] at hledger'
    cases hledger'
    have hmail : mail.id = position.id := hid.trans hown
    refine ⟨?_, entry.key, ?_, ?_⟩
    · rw [hmail, Tracking.leaseOf?_eq]
      simp [EntryStatus.lease?]
    · rw [hkeys, hmail, hkey]
    · rw [hsame, hheld]

end MailQueue

end Postroom
