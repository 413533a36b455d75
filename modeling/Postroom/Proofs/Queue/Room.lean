import Postroom.Proofs.Queue.Order
import Postroom.Proofs.Queue.Refinement

/-!
The room that a queue takes in memory. Once it is open, exactly the tracked mails have a record,
each one. To store a tracked mail anew writes its new record before the old one goes, so there has
to be room for one more, unless the schedule is the same to the millisecond: then the record is
overwritten. In the end there are as many records as before, whether or not the mail could be
stored.
-/

namespace Postroom

namespace Memory

variable {memory : Memory} {key k : RecordKey}

/-- A store with one record more, or with another one under a key. -/
def put (memory : Memory) (key : RecordKey) (record : StoredRecord) : Memory :=
  { memory with records := memory.records.insert key record }

theorem mem_put {record : StoredRecord} :
    k ∈ (memory.put key record).records ↔ k = key ∨ k ∈ memory.records := by
  unfold put
  rw [Std.ExtTreeMap.mem_insert, Std.LawfulEqCmp.compare_eq_iff_eq, eq_comm]

theorem size_put (memory : Memory) (key : RecordKey) (record : StoredRecord) :
    (memory.put key record).size = if key ∈ memory.records then memory.size else memory.size + 1 :=
  Std.ExtTreeMap.size_insert

theorem mem_delete : k ∈ (memory.delete key).2.records ↔ k ≠ key ∧ k ∈ memory.records := by
  unfold delete
  split
  · rw [Std.ExtTreeMap.mem_erase, ne_eq, Std.LawfulEqCmp.compare_eq_iff_eq, ne_eq, eq_comm]
  · rename_i hnot
    refine ⟨fun hk => ⟨?_, hk⟩, fun hk => hk.2⟩
    rintro rfl
    exact hnot hk

theorem size_delete (memory : Memory) (key : RecordKey) :
    (memory.delete key).2.size = if key ∈ memory.records then memory.size - 1 else memory.size := by
  unfold delete
  split
  · rename_i hstored
    have hstored : key ∈ memory.records := hstored
    rw [if_pos hstored]
    exact Std.ExtTreeMap.size_erase.trans (if_pos hstored)
  · rename_i hnot
    have hnot : key ∉ memory.records := hnot
    rw [if_neg hnot]

theorem mem_deleteAll (keys : List RecordKey) (memory : Memory) :
    k ∈ (MailQueue.deleteAll store keys memory).records ↔ k ∉ keys ∧ k ∈ memory.records := by
  unfold MailQueue.deleteAll
  induction keys generalizing memory with
  | nil => simp
  | cons key keys ih =>
      have hdelete : k ∈ (store.delete key memory).2.records ↔ k ≠ key ∧ k ∈ memory.records :=
        mem_delete
      rw [List.foldl_cons, ih, hdelete, List.mem_cons, not_or]
      exact ⟨fun ⟨hkeys, hkey, hk⟩ => ⟨⟨hkey, hkeys⟩, hk⟩,
        fun ⟨⟨hkey, hkeys⟩, hk⟩ => ⟨hkeys, hkey, hk⟩⟩

theorem newest_records (keys : List RecordKey) (best : Option (Instant × RecordKey))
    (memory : Memory) :
    (MailQueue.newest store keys best memory).2 = memory := by
  induction keys generalizing best with
  | nil => rfl
  | cons key keys ih => exact ih _

/-- Of the records of a mail the one that is settled on stays. -/
theorem mem_keepLatest (candidates : List RecordKey) (memory : Memory) :
    k ∈ (MailQueue.keepLatest store candidates memory).2.records ↔
      (k ∈ candidates → (MailQueue.keepLatest store candidates memory).1 = some k) ∧
        k ∈ memory.records := by
  unfold MailQueue.keepLatest
  split
  · simp
  · simp [eq_comm]
  · dsimp only
    rw [newest_records, mem_deleteAll, List.mem_filter, not_and]
    simp only [ne_eq, decide_not, Bool.not_eq_true', decide_eq_false_iff_not, Classical.not_not]
    rw [eq_comm]

theorem mem_of_keepLatestOfEach (groups : List (List RecordKey)) (memory : Memory)
    (h : k ∈ (MailQueue.keepLatestOfEach store groups memory).2.records) : k ∈ memory.records := by
  induction groups generalizing memory with
  | nil => exact h
  | cons candidates groups ih => exact ((mem_keepLatest candidates memory).1 (ih _ h)).2

/-- Of the records of each mail at most one stays. -/
theorem eq_of_keepLatestOfEach (groups : List (List RecordKey)) (memory : Memory)
    {candidates : List RecordKey} (hgroup : candidates ∈ groups) {a b : RecordKey}
    (ha : a ∈ candidates) (hb : b ∈ candidates)
    (hastays : a ∈ (MailQueue.keepLatestOfEach store groups memory).2.records)
    (hbstays : b ∈ (MailQueue.keepLatestOfEach store groups memory).2.records) : a = b := by
  induction groups generalizing memory with
  | nil => cases hgroup
  | cons first groups ih =>
      rcases List.mem_cons.1 hgroup with rfl | hgroup
      · have hakept := ((mem_keepLatest _ memory).1 (mem_of_keepLatestOfEach groups _ hastays)).1 ha
        have hbkept := ((mem_keepLatest _ memory).1 (mem_of_keepLatestOfEach groups _ hbstays)).1 hb
        exact Option.some.inj (hakept.symm.trans hbkept)
      · exact ih _ hgroup hastays hbstays

/-- There is no room for the record of a new key if there are as many as there may be. -/
theorem overflow?_cases (memory : Memory) (key : RecordKey) :
    (memory.overflow? key = none ∧
      (key ∈ memory.records ∨ ∀ capacity, memory.capacity = some capacity →
        memory.size < capacity)) ∨
    (key ∉ memory.records ∧ ∃ capacity, memory.capacity = some capacity ∧ capacity ≤ memory.size ∧
      memory.overflow? key = some (.internal (.capacityExceeded memory.size capacity))) := by
  unfold overflow?
  cases memory.capacity with
  | none => exact .inl ⟨rfl, .inr (by simp)⟩
  | some capacity =>
      by_cases hstored : key ∈ memory.records
      · have hcontains : memory.records.contains key = true := hstored
        exact .inl ⟨by simp [hcontains], .inl hstored⟩
      · have hcontains : memory.records.contains key = false := Bool.eq_false_iff.2 hstored
        by_cases hfull : capacity ≤ memory.size
        · exact .inr ⟨hstored, capacity, rfl, hfull, by simp [hcontains, hfull]⟩
        · refine .inl ⟨by simp [hcontains, hfull], .inr fun other hother => ?_⟩
          cases hother
          exact Nat.lt_of_not_le hfull

/-- What writing comes to: the mail has no record, there is no room for one more, or it is
stored. -/
theorem write_outcomes (key : RecordKey) (mail : Mail) (memory : Memory) :
    ((Record.encode mail).isOk = false ∧
        ∃ fault, memory.write key mail = (.error (.serialization fault), memory)) ∨
    ((Record.encode mail).isOk = true ∧ key ∉ memory.records ∧ ∃ capacity,
        memory.capacity = some capacity ∧ capacity ≤ memory.size ∧ memory.write key mail =
          (.error (.internal (.capacityExceeded memory.size capacity)), memory)) ∨
    ((Record.encode mail).isOk = true ∧
      (key ∈ memory.records ∨ ∀ capacity, memory.capacity = some capacity →
        memory.size < capacity) ∧
      ∃ record, memory.write key mail = (.ok (), memory.put key record)) := by
  unfold write
  cases hencode : Record.encode mail with
  | error e =>
      obtain ⟨fault, rfl⟩ : ∃ fault, e = .serialization fault := by
        unfold Record.encode at hencode
        split at hencode
        · split at hencode <;> cases hencode
          exact ⟨_, rfl⟩
        · cases hencode
          exact ⟨_, rfl⟩
      exact .inl ⟨rfl, fault, rfl⟩
  | ok object =>
      refine .inr ?_
      rcases memory.overflow?_cases key with ⟨hnone, hroom⟩ |
        ⟨hnew, capacity, hcapacity, hfull, hsome⟩
      · rw [hnone]
        exact .inr ⟨rfl, hroom, _, rfl⟩
      · rw [hsome]
        exact .inl ⟨rfl, hnew, capacity, hcapacity, hfull, rfl⟩

end Memory

namespace MailQueue

/-- Exactly the tracked mails have a record, each one, under a key of its own. -/
structure Exact (queue : MailQueue Memory) : Prop where
  stored : ∀ key, key ∈ queue.records.records ↔ queue.tracking.key? key.id = some key
  owns : queue.OwnsKeys

variable {queue : MailQueue Memory} {key k : RecordKey}

section Opened

variable {memory opened : Memory} {start : Instant} {tracking : Tracking}

/-- A queue that is opened leaves one record of each mail. -/
theorem eq_of_opened (hopen : recoverFrom Memory.store start memory = (.ok tracking, opened))
    {a b : RecordKey} (ha : a ∈ opened.records) (hb : b ∈ opened.records) (hid : a.id = b.id) :
    a = b := by
  have hopened :
      opened = (keepLatestOfEach Memory.store (groupById memory.records.keys) memory).2 :=
    (congrArg Prod.snd hopen).symm
  have hlisted : ∀ {k}, k ∈ opened.records → k ∈ memory.records.keys := by
    intro k hk
    rw [hopened] at hk
    exact Std.ExtTreeMap.mem_keys.2 (Memory.mem_of_keepLatestOfEach _ _ hk)
  have hgroup : memory.records.keys.filter (·.id = b.id) ∈ groupById memory.records.keys := by
    refine List.mem_map.2 ⟨b.id, ?_, rfl⟩
    simpa using ⟨b, Std.ExtTreeMap.mem_keys.1 (hlisted hb), rfl⟩
  refine Memory.eq_of_keepLatestOfEach _ memory hgroup (RecordKey.mem_filter_id.2 ⟨hlisted ha, hid⟩)
    (RecordKey.mem_filter_id.2 ⟨hlisted hb, rfl⟩) ?_ ?_
  · rwa [← hopened]
  · rwa [← hopened]

/-- It tracks the mails whose records it leaves. -/
theorem exact_opened (hopen : recoverFrom Memory.store start memory = (.ok tracking, opened)) :
    Exact ⟨tracking, opened⟩ := by
  obtain ⟨kept, left, hrecover, hids, hkept, hcovers, hleft⟩ :=
    recoverFrom_cases Memory.lawful.browsable start memory
  cases hopen.symm.trans hrecover
  have hmem : ∀ {key}, key ∈ opened.records ↔ opened.holds key ≠ none :=
    fun {key} => (Memory.holds_ne_none_iff opened key).symm
  have hstays : ∀ {key}, key ∈ kept → key ∈ opened.records := by
    intro key hkey
    obtain ⟨hheld, hsame, -⟩ := hkept key hkey
    exact hmem.2 (hsame ▸ hheld)
  have htracked := (recover_spec hids start).1
  refine ⟨fun key => ?_, fun id key hkey => ((htracked id key).1 hkey).2⟩
  rw [htracked]
  refine ⟨fun hstored => ?_, fun hkey => hstays hkey.1⟩
  have hheld : memory.holds key ≠ none := by
    rcases hleft key with hsame | hnone
    · rw [← hsame]
      exact hmem.1 hstored
    · exact absurd hnone (hmem.1 hstored)
  -- The record that is tracked and this one are of one mail.
  obtain ⟨other, hother, hid⟩ := hcovers key hheld
  obtain rfl := eq_of_opened hopen (hstays hother) hstored hid
  exact ⟨hother, rfl⟩

end Opened

theorem Exact.of_key? (h : Exact queue) {tracking : Tracking}
    (hkey : tracking.key? = queue.tracking.key?) : Exact ⟨tracking, queue.records⟩ :=
  ⟨fun key => by rw [hkey]; exact h.stored key, fun id key hid => h.owns id key (hkey ▸ hid)⟩

/-- A mail that is not tracked any more leaves no record. -/
theorem Exact.forget (h : Exact queue) {id : MailId} {key : RecordKey}
    (hkey : queue.tracking.key? id = some key) :
    Exact ⟨queue.tracking.forget id, (queue.records.delete key).2⟩ := by
  obtain rfl := h.owns id key hkey
  refine ⟨fun k => ?_, fun id k hid => ?_⟩
  · rw [Memory.mem_delete, h.stored, Tracking.key?_forget]
    by_cases hid : k.id = key.id
    · rw [if_pos hid, hid, hkey]
      simp [eq_comm]
    · rw [if_neg hid]
      exact ⟨fun hk => hk.2, fun hk => ⟨fun heq => hid (heq ▸ rfl), hk⟩⟩
  · rw [Tracking.key?_forget] at hid
    split at hid
    · cases hid
    · exact h.owns id k hid

/-- A new record takes the place of all there was of its mail. -/
theorem Exact.of_record (h : Exact queue) {key : RecordKey} {after : MailQueue Memory}
    (hkey : ∀ id, after.tracking.key? id = if id = key.id then some key else queue.tracking.key? id)
    (hrecords : ∀ k, k ∈ after.records.records ↔
      if k.id = key.id then k = key else k ∈ queue.records.records) : Exact after := by
  refine ⟨fun k => ?_, fun id k hid => ?_⟩
  · rw [hrecords, hkey, h.stored]
    split
    · rw [Option.some.injEq, eq_comm]
    · rfl
  · rw [hkey] at hid
    split at hid
    · rename_i heq
      cases hid
      exact heq.symm
    · exact h.owns id k hid

theorem Exact.tracked (h : Exact queue) (hstored : k ∈ queue.records.records)
    (hid : k.id = key.id) :
    queue.tracking.key? key.id = some k := by
  rw [← hid]
  exact (h.stored k).1 hstored

/-- The first record of a mail, or one under the key that it had, is the only one. -/
theorem Exact.overwrites (h : Exact queue) {after : Tracking} (record : StoredRecord)
    (hkey : ∀ id, after.key? id = if id = key.id then some key else queue.tracking.key? id)
    (honly : ∀ old, queue.tracking.key? key.id = some old → old = key) :
    Exact ⟨after, queue.records.put key record⟩ ∧ (queue.tracking.key? key.id ≠ none →
      (queue.records.put key record).size = queue.records.size) := by
  refine ⟨h.of_record hkey fun k => ?_, fun htracked => ?_⟩
  · rw [Memory.mem_put]
    split
    · rename_i hid
      exact ⟨fun hk => hk.elim id fun hstored => honly k (h.tracked hstored hid), .inl⟩
    · rename_i hid
      exact ⟨fun hk => hk.resolve_left fun heq => hid (heq ▸ rfl), .inr⟩
  · obtain ⟨old, hold⟩ := Option.ne_none_iff_exists'.1 htracked
    have hstored : key ∈ queue.records.records := by rw [h.stored, hold, honly old hold]
    rw [Memory.size_put, if_pos hstored]

/-- A record under another key takes the place of the one that is deleted. -/
theorem Exact.supersedes (h : Exact queue) {after : Tracking} {old : RecordKey}
    (record : StoredRecord)
    (hkey : ∀ id, after.key? id = if id = key.id then some key else queue.tracking.key? id)
    (hold : queue.tracking.key? key.id = some old) (hne : old ≠ key) :
    Exact ⟨after, ((queue.records.put key record).delete old).2⟩ ∧
      ((queue.records.put key record).delete old).2.size = queue.records.size := by
  have hid : old.id = key.id := h.owns _ _ hold
  have hnew : key ∉ queue.records.records := fun hstored =>
    hne (Option.some.inj (hold.symm.trans (h.tracked hstored rfl)))
  have hstored : old ∈ queue.records.records := by rw [h.stored, hid, hold]
  refine ⟨h.of_record hkey fun k => ?_, ?_⟩
  · rw [Memory.mem_delete, Memory.mem_put]
    split
    · rename_i hsame
      constructor
      · rintro ⟨hother, hk⟩
        refine hk.resolve_right fun hk => hother ?_
        exact Option.some.inj ((h.tracked hk hsame).symm.trans hold)
      · rintro rfl
        exact ⟨hne.symm, .inl rfl⟩
    · rename_i hother
      exact ⟨fun ⟨_, hk⟩ => hk.resolve_left fun heq => hother (heq ▸ rfl),
        fun hk => ⟨fun heq => hother (heq ▸ hid), .inr hk⟩⟩
  · rw [Memory.size_delete, if_pos (Memory.mem_put.2 (.inr hstored)), Memory.size_put, if_neg hnew,
      Nat.add_sub_cancel]

/-- A mail that is stored leaves one record, in place of the one that it had. -/
theorem Exact.stores (h : Exact queue) {mail : Mail} {delay : Nat} {now : Instant}
    (hscheduled : key = .scheduled mail.id (dueTime now delay)) {record : StoredRecord}
    (hwrite : queue.records.write key mail = (.ok (), queue.records.put key record)) :
    ∃ after, queue.enqueue Memory.store mail delay now = (.ok (), after) ∧ Exact after ∧
      (queue.tracking.key? mail.id ≠ none → after.records.size = queue.records.size) := by
  have hkey := queue.tracking.key?_register key (dueTime now delay) now
  have hid : key.id = mail.id := by rw [hscheduled]; rfl
  have hstore : Memory.store.write (.scheduled mail.id (dueTime now delay)) mail queue.records =
      (.ok (), queue.records.put key record) := hscheduled ▸ hwrite
  have hwritten := enqueue_of_written hstore
  rw [← hscheduled, ← hid] at hwritten
  rw [← hid]
  rcases hwritten with ⟨honly, henqueue⟩ | ⟨old, hold, hne, henqueue⟩
  · obtain ⟨hexact, hsize⟩ := h.overwrites record hkey honly
    exact ⟨_, henqueue, hexact, hsize⟩
  · obtain ⟨hexact, hsize⟩ := h.supersedes record hkey hold hne
    exact ⟨_, henqueue, hexact, fun _ => hsize⟩

/-- What storing a mail comes to: it has no record or there is no room for one more, and nothing has
changed, or it is stored. -/
theorem Exact.enqueue_cases (h : Exact queue) (mail : Mail) (delay : Nat) (now : Instant) :
    ((Record.encode mail).isOk = false ∧ ∃ fault,
        queue.enqueue Memory.store mail delay now = (.error (.serialization fault), queue)) ∨
    ((Record.encode mail).isOk = true ∧
        queue.tracking.key? mail.id ≠ some (.scheduled mail.id (dueTime now delay)) ∧ ∃ capacity,
          queue.records.capacity = some capacity ∧ capacity ≤ queue.records.size ∧
          queue.enqueue Memory.store mail delay now =
            (.error (.internal (.capacityExceeded queue.records.size capacity)), queue)) ∨
    ((queue.tracking.key? mail.id = some (.scheduled mail.id (dueTime now delay)) ∨
        ∀ capacity, queue.records.capacity = some capacity → queue.records.size < capacity) ∧
      ∃ after, queue.enqueue Memory.store mail delay now = (.ok (), after) ∧ Exact after ∧
        (queue.tracking.key? mail.id ≠ none → after.records.size = queue.records.size)) := by
  have hstored := h.stored (.scheduled mail.id (dueTime now delay))
  rw [RecordKey.scheduled_id] at hstored
  have hrefused : ∀ {e},
      Memory.store.write (.scheduled mail.id (dueTime now delay)) mail queue.records =
        (.error e, queue.records) → queue.enqueue Memory.store mail delay now = (.error e, queue) :=
    enqueue_of_refused
  rcases queue.records.write_outcomes (.scheduled mail.id (dueTime now delay)) mail with
    ⟨hencode, fault, hwrite⟩ | ⟨hencode, hnew, capacity, hcapacity, hfull, hwrite⟩ |
    ⟨-, hroom, record, hwrite⟩
  · exact .inl ⟨hencode, fault, hrefused hwrite⟩
  · exact .inr (.inl ⟨hencode, fun htracked => hnew (hstored.2 htracked), capacity,
      hcapacity, hfull, hrefused hwrite⟩)
  · exact .inr (.inr ⟨hroom.imp_left hstored.1, h.stores rfl hwrite⟩)

theorem Exact.leaseNext (h : Exact queue) (broken : MailId → Option IoError) (now : Instant) :
    Exact (queue.leaseNext (Memory.store.interrupted broken) now).2 := by
  have hread : ∀ {key memory result records},
      (Memory.store.interrupted broken).read key memory = (result, records) → records = memory := by
    intro key memory result records hread
    simp only [RecordStore.interrupted] at hread
    split at hread <;> cases hread <;> rfl
  induction queue using leaseNext.induct (Memory.store.interrupted broken) with
  | case1 queue hclaim =>
      rw [leaseNext_of_none hclaim]
      exact h
  | case2 queue key tracking hclaim mail records hresult =>
      rw [leaseNext_of_some hclaim, hresult, hread hresult]
      exact h.of_key? (Tracking.key?_claim hclaim).1
  | case3 queue key tracking hclaim e records hresult htransient =>
      rw [leaseNext_of_some hclaim, hresult, hread hresult]
      dsimp only
      rw [if_pos htransient]
      exact h.of_key? ((Tracking.key?_release ..).trans (Tracking.key?_claim hclaim).1)
  | case4 queue key tracking hclaim e records hresult hlost ih =>
      rw [leaseNext_of_some hclaim, hresult]
      dsimp only
      rw [if_neg hlost]
      apply ih
      obtain ⟨hsame, id, hkey⟩ := Tracking.key?_claim hclaim
      obtain rfl := h.owns id key hkey
      rw [hread hresult]
      exact (h.of_key? hsame).forget (hsame ▸ hkey)

/-- Every call leaves exactly the tracked mails with a record. -/
theorem Exact.perform (h : Exact queue) (step : QueueStep) :
    Exact (queue.perform Memory.store step).2 := by
  obtain ⟨now, call⟩ := step
  cases call with
  | enqueue mail delay =>
      change Exact (queue.enqueue Memory.store mail delay now).2
      rcases h.enqueue_cases mail delay now with ⟨-, fault, henqueue⟩ |
        ⟨-, -, capacity, -, -, henqueue⟩ | ⟨-, after, henqueue, hafter, -⟩
      · rwa [henqueue]
      · rwa [henqueue]
      · rwa [henqueue]
  | dequeue broken =>
      change Exact (queue.dequeue (Memory.store.interrupted broken) now).2
      unfold dequeue
      split
      · exact h
      · exact (h.of_key? (Tracking.key?_promoteDue ..)).leaseNext broken now
  | settle id success =>
      cases success with
      | true =>
          change Exact (queue.complete Memory.store id now).2
          rcases complete_outcomes id now queue with ⟨-, hcomplete⟩ | ⟨due, -, -, hcomplete⟩ |
            ⟨-, key, hkey, -, hcomplete⟩
          · rwa [hcomplete]
          · rw [hcomplete]
            exact h.of_key? (Tracking.key?_schedule ..)
          · rw [hcomplete]
            exact h.forget hkey
      | false => exact h.of_key? (Tracking.key?_release ..)
  | abandon id => exact h.of_key? (Tracking.key?_release ..)
  | flush => exact h.of_key? (Tracking.key?_flush _)
  | close => exact h.of_key? (Tracking.key?_close _)

/-- So does every run. -/
theorem Exact.run (h : Exact queue) (steps : List QueueStep) :
    Exact (queue.run Memory.store steps).2 := by
  induction steps generalizing queue with
  | nil => exact h
  | cons step steps ih => exact ih (h.perform step)

/-- To store a tracked mail anew fails for want of room exactly if the store is full and the record
of the mail is not overwritten. A failure changes nothing, and in any case there are as many records
as before. -/
theorem enqueue_lacks_room_iff {memory opened : Memory} {start : Instant} {tracking : Tracking}
    (hopen : recoverFrom Memory.store start memory = (.ok tracking, opened))
    {steps : List QueueStep} {events : List QueueEvent}
    (hrun : MailQueue.run Memory.store steps ⟨tracking, opened⟩ = (events, queue)) {mail : Mail}
    (htracked : queue.tracking.key? mail.id ≠ none) (delay : Nat) (now : Instant) :
    ((∃ held capacity, (queue.enqueue Memory.store mail delay now).1 =
        .error (.internal (.capacityExceeded held capacity))) ↔
      (Record.encode mail).isOk = true ∧
        queue.tracking.key? mail.id ≠ some (.scheduled mail.id (dueTime now delay)) ∧
        ∃ capacity, queue.records.capacity = some capacity ∧ capacity ≤ queue.records.size) ∧
    (∀ e, (queue.enqueue Memory.store mail delay now).1 = .error e →
      (queue.enqueue Memory.store mail delay now).2 = queue) ∧
    (queue.enqueue Memory.store mail delay now).2.records.size = queue.records.size := by
  have h : Exact queue := by
    have hexact := (exact_opened hopen).run steps
    rwa [hrun] at hexact
  rcases h.enqueue_cases mail delay now with ⟨hencode, fault, henqueue⟩ |
    ⟨hencode, hother, capacity, hcapacity, hfull, henqueue⟩ | ⟨hroom, after, henqueue, -, hsize⟩
  · rw [henqueue, hencode]
    exact ⟨by simp, fun _ _ => rfl, rfl⟩
  · rw [henqueue]
    refine ⟨⟨fun _ => ⟨hencode, hother, capacity, hcapacity, hfull⟩, fun _ => ⟨_, capacity, rfl⟩⟩,
      fun _ _ => rfl, rfl⟩
  · rw [henqueue]
    refine ⟨⟨by simp, ?_⟩, by simp, hsize htracked⟩
    rintro ⟨-, hother, capacity, hcapacity, hfull⟩
    rcases hroom with hsame | hless
    · exact absurd hsame hother
    · exact absurd (hless capacity hcapacity) (Nat.not_lt.2 hfull)

end MailQueue

namespace MailQueue.Sample

/-- A queue over a memory store that may hold some number of records, after the first mail was
stored. -/
def holding (capacity : Nat) : MailQueue Memory :=
  (MailQueue.run Memory.store [⟨.epoch, .enqueue first 0⟩] ⟨.empty, .empty (some capacity)⟩).2

/-- If the store is full with the first mail, that mail cannot be stored anew for a millisecond
later. -/
theorem enqueue_lacks_room :
    recoverFrom Memory.store .epoch (.empty (some 1)) = (.ok .empty, .empty (some 1)) ∧
      (holding 1).tracking.key? first.id = some (.scheduled first.id .epoch) ∧
      ((holding 1).enqueue Memory.store first 1000000 .epoch).1 =
        .error (.internal (.capacityExceeded 1 1)) := by
  refine ⟨?_, ?_, ?_⟩
  · rfl
  · decide +kernel
  · rfl

/-- At its old schedule it can, and in a store that may hold one more record. -/
theorem enqueue_finds_room :
    (holding 1).tracking.key? first.id ≠ none ∧ (holding 2).tracking.key? first.id ≠ none ∧
      (∀ held capacity, ((holding 1).enqueue Memory.store first 0 .epoch).1 ≠
        .error (.internal (.capacityExceeded held capacity))) ∧
      (∀ held capacity, ((holding 2).enqueue Memory.store first 1000000 .epoch).1 ≠
        .error (.internal (.capacityExceeded held capacity))) ∧
      ((holding 2).enqueue Memory.store first 1000000 .epoch).2.records.size =
        (holding 2).records.size := by
  have htracked : ∀ capacity ∈ [1, 2], (holding capacity).tracking.key? first.id ≠ none := by
    decide +kernel
  have hopen : ∀ capacity, recoverFrom Memory.store .epoch (.empty (some capacity)) =
      (.ok .empty, .empty (some capacity)) := fun _ => rfl
  have hrun : ∀ capacity, MailQueue.run Memory.store [⟨.epoch, .enqueue first 0⟩]
      ⟨.empty, .empty (some capacity)⟩ = (_, holding capacity) := fun _ => rfl
  obtain ⟨hfull, -, -⟩ := enqueue_lacks_room_iff (hopen 1) (hrun 1) (htracked 1 (by simp)) 0 .epoch
  obtain ⟨hfree, -, hsize⟩ :=
    enqueue_lacks_room_iff (hopen 2) (hrun 2) (htracked 2 (by simp)) 1000000 .epoch
  refine ⟨htracked 1 (by simp), htracked 2 (by simp), fun held capacity herror => ?_,
    fun held capacity herror => ?_, hsize⟩
  · obtain ⟨-, hother, -⟩ := hfull.1 ⟨held, capacity, herror⟩
    exact hother (by decide +kernel)
  · obtain ⟨-, -, most, hmost, hle⟩ := hfree.1 ⟨held, capacity, herror⟩
    cases hmost
    exact absurd hle (by decide +kernel)

end MailQueue.Sample

end Postroom
