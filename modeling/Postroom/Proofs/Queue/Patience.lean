import Postroom.Proofs.Queue.Order
import Postroom.Proofs.Queue.Schedule
import Postroom.Store.Vault

/-!
Nothing is leased early. A mail that is due later than the clock shows waits: it is not visible, it
is delayed to no earlier time, and if it is leased still, its lease ends with such a delay. As long
as it is neither stored anew nor flushed while it is delayed, no call changes that, and none leases
the mail.
-/

namespace Postroom

namespace PlainQueue

variable {queue : PlainQueue} {id other : MailId} {due now : Instant}

/-- A mail that is leased at no earlier time. -/
structure Withholds (queue : PlainQueue) (id : MailId) (due : Instant) : Prop where
  visible : id ∉ queue.visible
  delayed : ∀ {time}, (time, id) ∈ queue.delayed → due ≤ time
  /-- A lease has been followed by an enqueue. -/
  leased : ∀ {requeued}, queue.leased[id]? = some requeued → ∃ time, requeued = some time ∧
    due ≤ time

theorem mem_delayed_place {entry : Instant × MailId} {time : Instant}
    (h : entry ∈ (queue.place other time now).delayed) :
    entry = (time, other) ∨ entry ∈ queue.delayed := by
  unfold place at h
  split at h
  · exact .inr h
  · simp only [List.mem_append, List.mem_cons, List.mem_filter] at h
    rcases h with h | h | h
    · exact .inr h.1
    · exact .inl h
    · exact .inr h.1

theorem mem_visible_place {time : Instant} (h : id ∈ (queue.place other time now).visible) :
    id = other ∧ time ≤ now ∨ id ∈ queue.visible := by
  unfold place at h
  split at h
  · rename_i hdue
    rcases List.mem_append.1 h with h | h
    · exact .inr h
    · exact .inl ⟨List.mem_singleton.1 h, hdue⟩
  · exact .inr h

theorem leased_place (queue : PlainQueue) (id : MailId) (due now : Instant) :
    (queue.place id due now).leased = queue.leased := by
  unfold place
  split <;> rfl

/-- A mail may be placed for a time that is not too early, and another one for any time. -/
theorem Withholds.place (h : queue.Withholds id due) {time : Instant}
    (htime : other = id → now < due ∧ due ≤ time) :
    (queue.place other time now).Withholds id due where
  visible hvisible := by
    rcases mem_visible_place hvisible with ⟨rfl, hearly⟩ | hvisible
    · obtain ⟨hnow, hdue⟩ := htime rfl
      exact Instant.not_le.2 hnow (Int.le_trans hdue hearly)
    · exact h.visible hvisible
  delayed hdelayed := by
    rcases mem_delayed_place hdelayed with heq | hdelayed
    · cases heq
      exact (htime rfl).2
    · exact h.delayed hdelayed
  leased hleased := by
    rw [leased_place] at hleased
    exact h.leased hleased

/-- A mail stays withheld if it stands where it stood, or nowhere. -/
theorem Withholds.of_subset (h : queue.Withholds id due) {queue' : PlainQueue}
    (hvisible : ∀ {k}, k ∈ queue'.visible → k ∈ queue.visible)
    (hdelayed : ∀ {entry}, entry ∈ queue'.delayed → entry ∈ queue.delayed)
    (hleased : ∀ {requeued}, queue'.leased[id]? = some requeued →
      queue.leased[id]? = some requeued) :
    queue'.Withholds id due :=
  ⟨fun hid => h.visible (hvisible hid), fun hid => h.delayed (hdelayed hid),
    fun hid => h.leased (hleased hid)⟩

/-- A mail that is stored is withheld until it is due. -/
theorem withholds_enqueue (hleased : id ∈ queue.leased → id ∉ queue.standing) (hnow : now < due) :
    (queue.enqueue id due now).Withholds id due := by
  unfold enqueue
  split
  · rename_i hmem
    have hout := hleased hmem
    rw [standing, List.mem_append, not_or] at hout
    refine ⟨hout.1, fun htime => absurd (List.mem_map_of_mem htime) hout.2, fun hrequeued => ?_⟩
    rw [Std.ExtTreeMap.getElem?_insert_self] at hrequeued
    cases hrequeued
    exact ⟨due, rfl, Int.le_refl _⟩
  · rename_i hnot
    have hremoved : (queue.remove id).Withholds id due := by
      refine ⟨by simp [remove], fun htime => ?_, fun hrequeued => ?_⟩
      · simp [remove] at htime
      · have hnone : queue.leased[id]? = none := Std.ExtTreeMap.getElem?_eq_none hnot
        cases hnone.symm.trans hrequeued
    exact hremoved.place fun _ => ⟨hnow, Int.le_refl _⟩

theorem Withholds.enqueue_other (h : queue.Withholds id due) (hother : other ≠ id)
    (time now : Instant) :
    (queue.enqueue other time now).Withholds id due := by
  unfold enqueue
  split
  · refine h.of_subset (fun hk => hk) (fun hk => hk) fun hrequeued => ?_
    rwa [Std.ExtTreeMap.getElem?_insert, if_neg (by simpa using hother)] at hrequeued
  · have hremoved : (queue.remove other).Withholds id due :=
      h.of_subset (fun hk => (List.mem_filter.1 hk).1)
        (fun hk => (List.mem_filter.1 hk).1) fun hk => hk
    exact hremoved.place fun heq => absurd heq hother

theorem Withholds.promoteDue (h : queue.Withholds id due) (hnow : now < due) :
    (queue.promoteDue now).Withholds id due where
  visible hvisible := by
    rcases List.mem_append.1 hvisible with hvisible | hpromoted
    · exact h.visible hvisible
    · obtain ⟨⟨time, k⟩, hentry, rfl⟩ := List.mem_map.1 hpromoted
      obtain ⟨hmem, hearly⟩ := List.mem_filter.1 hentry
      exact Instant.not_le.2 hnow (Int.le_trans (h.delayed hmem) (of_decide_eq_true hearly))
  delayed hdelayed := h.delayed (List.mem_filter.1 hdelayed).1
  leased := h.leased

/-- Only another mail can be leased. -/
theorem Withholds.lease (h : queue.Withholds id due) {rest : List MailId}
    (hvisible : queue.visible = other :: rest) : other ≠ id ∧
      ({ queue with visible := rest, leased := queue.leased.insert other none } :
      PlainQueue).Withholds
        id due := by
  have hother : other ≠ id := by
    rintro rfl
    exact h.visible (hvisible ▸ List.mem_cons_self ..)
  refine ⟨hother, h.of_subset (fun hk => hvisible ▸ List.mem_cons_of_mem _ hk) (fun hk => hk)
    fun hrequeued => ?_⟩
  rwa [Std.ExtTreeMap.getElem?_insert, if_neg (by simpa using hother)] at hrequeued

theorem Withholds.erase (h : queue.Withholds id due) (other : MailId) :
    ({ queue with leased := queue.leased.erase other } : PlainQueue).Withholds id due := by
  refine h.of_subset (fun hk => hk) (fun hk => hk) fun hrequeued => ?_
  rw [Std.ExtTreeMap.getElem?_erase] at hrequeued
  split at hrequeued
  · cases hrequeued
  · exact hrequeued

/-- The end of a lease does not make a mail visible that was stored since. -/
theorem Withholds.settle (h : queue.Withholds id due) (hnow : now < due) (other : MailId)
    (success : Bool) : (queue.settle other success now).Withholds id due := by
  have herased := h.erase other
  unfold PlainQueue.settle
  split
  · exact h
  · rename_i time hlease
    refine herased.place fun heq => ⟨hnow, ?_⟩
    obtain ⟨later, hlater, hdue⟩ := h.leased (heq ▸ hlease)
    cases hlater
    exact hdue
  · rename_i hlease
    split
    · exact herased
    · have hother : other ≠ id := by
        rintro rfl
        obtain ⟨later, hlater, -⟩ := h.leased hlease
        cases hlater
      refine ⟨fun hvisible => ?_, herased.delayed, herased.leased⟩
      rcases List.mem_cons.1 hvisible with heq | hvisible
      · exact hother heq.symm
      · exact h.visible hvisible

theorem Withholds.flush (h : queue.Withholds id due) (hnot : ∀ time, (time, id) ∉ queue.delayed) :
    queue.flush.2.Withholds id due where
  visible hvisible := by
    rcases List.mem_append.1 hvisible with hvisible | hflushed
    · exact h.visible hvisible
    · obtain ⟨⟨time, k⟩, hentry, rfl⟩ := List.mem_map.1 hflushed
      exact hnot time hentry
  delayed hdelayed := by cases hdelayed
  leased := h.leased

/-- A queue that is opened withholds a mail until the time of its key. -/
theorem withholds_opened {keys : List RecordKey} {key : RecordKey}
    (hkey : ∀ k ∈ keys, k.id = key.id → k = key) (hnow : now < key.time) :
    (opened keys now).Withholds key.id key.time where
  visible hvisible := by
    obtain ⟨k, hmem, hid⟩ := List.mem_map.1 hvisible
    obtain ⟨hk, hdue⟩ := List.mem_filter.1 hmem
    obtain rfl := hkey k hk hid
    exact Instant.not_le.2 hnow (of_decide_eq_true hdue)
  delayed hdelayed := by
    obtain ⟨k, hmem, heq⟩ := List.mem_map.1 hdelayed
    obtain ⟨rfl, hid⟩ := Prod.mk.inj heq
    obtain rfl := hkey k (List.mem_filter.1 hmem).1 hid
    exact Int.le_refl _
  leased hleased := by simp [opened] at hleased

end PlainQueue

/-- A store that reads a version of its mail under a key, if anything. -/
def RecordStore.Genuine {σ : Type} (store : RecordStore σ) : Prop :=
  ∀ {key records mail records'}, store.read key records = (.ok mail, records') → mail.id = key.id

theorem Record.id_of_decode {key : RecordKey} {object : List UInt8} {content : Content}
    {mail : Mail} (h : Record.decode key object content = .ok mail) : mail.id = key.id := by
  unfold decode at h
  split at h
  · cases h
  · split at h
    · rename_i hid
      cases h
      exact hid
    · cases h

theorem RecordStore.Genuine.interrupted {σ : Type} {store : RecordStore σ} (h : store.Genuine)
    (broken : MailId → Option IoError) : (store.interrupted broken).Genuine := by
  intro key records mail records' hread
  simp only [RecordStore.interrupted] at hread
  split at hread
  · cases hread
  · exact h hread

theorem Memory.genuine : store.Genuine := by
  intro key memory mail memory' h
  have hfind : memory.find key = .ok mail := congrArg Prod.fst h
  unfold find at hfind
  split at hfind
  · cases hfind
  · exact Record.id_of_decode hfind

theorem FaultyMemory.genuine : store.Genuine := by
  intro key records mail records' h
  obtain ⟨memory, ⟨writes, reads, deletes⟩, written⟩ := records
  cases reads with
  | true => cases congrArg Prod.fst h
  | false =>
      have hread : (Memory.store.read key memory).1 = .ok mail := congrArg Prod.fst h
      exact Memory.genuine (Prod.ext hread rfl)

theorem QueueDirectory.id_of_find {directory : QueueDirectory} {disk : Disk} {key : RecordKey}
    {mail : Mail} (h : directory.find disk key = .ok mail) : mail.id = key.id := by
  unfold find at h
  cases hobject : directory.readPart disk key .object with
  | error e =>
      rw [hobject] at h
      cases h
  | ok object =>
      cases hcontent : directory.readPart disk key .content with
      | error e =>
          rw [hobject, hcontent] at h
          cases h
      | ok content =>
          rw [hobject, hcontent] at h
          exact Record.id_of_decode h

/-- All stores do so. -/
theorem Vault.genuine : store.Genuine := by
  intro key vault mail vault' h
  cases vault with
  | memory records =>
      have hread : (Memory.store.read key records).1 = .ok mail := congrArg Prod.fst h
      exact Memory.genuine (Prod.ext hread rfl)
  | faulty records =>
      have hread : (FaultyMemory.store.read key records).1 = .ok mail := congrArg Prod.fst h
      exact FaultyMemory.genuine (Prod.ext hread rfl)
  | directory home disk => exact QueueDirectory.id_of_find (congrArg Prod.fst h)

namespace MailQueue

variable {σ : Type} {store : RecordStore σ} {queue : MailQueue σ} {id : MailId} {due now : Instant}

/-- To look for a mail that can be leased finds only others. -/
theorem InOrder.leaseNext_withholds (h : queue.InOrder) (hstore : store.Genuine)
    (hwaits : queue.tracking.plain.Withholds id due) (hnow : now < due) :
    (queue.leaseNext store now).2.tracking.plain.Withholds id due ∧
      ∀ mail, (queue.leaseNext store now).1 = .ok (some mail) → mail.id ≠ id := by
  induction queue using leaseNext.induct store with
  | case1 queue hclaim =>
      rw [leaseNext_of_none hclaim]
      exact ⟨hwaits, by simp⟩
  | case2 queue key tracking hclaim mail records hread =>
      obtain ⟨rest, hvisible, -, -, hplain, -⟩ := h.claims hclaim
      obtain ⟨hother, hleased⟩ := hwaits.lease hvisible
      rw [leaseNext_of_some hclaim, hread]
      refine ⟨hplain ▸ hleased, fun leased hresult => ?_⟩
      cases hresult
      rw [hstore hread]
      exact hother
  | case3 queue key tracking hclaim e records hread htransient =>
      obtain ⟨rest, hvisible, -, -, hplain, -, horderly⟩ := h.claims hclaim
      rw [leaseNext_of_some hclaim, hread]
      dsimp only
      rw [if_pos htransient]
      refine ⟨?_, by simp⟩
      rw [(Tracking.plain_release horderly key.id now).1, hplain]
      exact (hwaits.lease hvisible).2.settle hnow key.id false
  | case4 queue key tracking hclaim e records hread hlost ih =>
      obtain ⟨rest, hvisible, -, -, hplain, -, horderly⟩ := h.claims hclaim
      obtain ⟨hleased, hlease⟩ := h.claim hclaim records
      rw [leaseNext_of_some hclaim, hread]
      dsimp only
      rw [if_neg hlost]
      refine ih (hleased.forget hlease _) ?_
      rw [(Tracking.plain_forget horderly hlease).1, hplain]
      exact (hwaits.lease hvisible).2.erase key.id

/-- Whether a run lets the schedule of a mail be: it does not store the mail anew, and it does not
flush while the mail is delayed. -/
def LetsBe (store : RecordStore σ) (id : MailId) : List QueueStep → MailQueue σ → Prop
  | [], _ => True
  | step :: steps, queue =>
      (∀ mail delay, step.call = .enqueue mail delay → mail.id = id →
        (queue.perform store step).1 ≠ .done (.ok ())) ∧
      (step.call = .flush → ∀ time, (time, id) ∉ queue.tracking.plain.delayed) ∧
      LetsBe store id steps (queue.perform store step).2

theorem InOrder.enqueue_withholds (h : queue.InOrder)
    (hwaits : queue.tracking.plain.Withholds id due) (mail : Mail) (delay : Nat)
    (hanew : mail.id = id → (queue.enqueue store mail delay now).1 ≠ .ok ()) :
    (queue.enqueue store mail delay now).2.tracking.plain.Withholds id due := by
  rcases henqueue : queue.enqueue store mail delay now with ⟨e | _, stored⟩
  · rwa [tracking_of_refused henqueue]
  · rw [tracking_of_stored henqueue, (Tracking.plain_register h.orderly _ _ _).1]
    exact hwaits.enqueue_other (fun hid => hanew hid (congrArg Prod.fst henqueue)) _ _

theorem InOrder.settle_withholds (store : RecordStore σ) (h : queue.InOrder)
    (hwaits : queue.tracking.plain.Withholds id due) (hnow : now < due) (other : MailId)
    (success : Bool) :
    (queue.settle store other success now).2.tracking.plain.Withholds id due := by
  cases success with
  | false =>
      change (queue.tracking.release other now).plain.Withholds id due
      rw [(Tracking.plain_release h.orderly other now).1]
      exact hwaits.settle hnow other false
  | true =>
      change (queue.complete store other now).2.tracking.plain.Withholds id due
      rcases complete_outcomes other now queue with ⟨-, hcomplete⟩ | ⟨time, -, hsome, hcomplete⟩ |
        ⟨-, key, -, hsome, hcomplete⟩
      · rw [hcomplete]
        exact hwaits
      · rw [hcomplete, (Tracking.plain_acknowledge h.orderly hsome).1]
        exact hwaits.settle hnow other true
      · rw [hcomplete]
        dsimp only
        rw [(Tracking.plain_acknowledge h.orderly hsome).1]
        exact hwaits.settle hnow other true

theorem InOrder.dequeue_withholds (h : queue.InOrder) (hstore : store.Genuine)
    (hwaits : queue.tracking.plain.Withholds id due) (hnow : now < due) :
    (queue.dequeue store now).2.tracking.plain.Withholds id due ∧
      ∀ mail, (queue.dequeue store now).1 = .ok (some mail) → mail.id ≠ id := by
  unfold dequeue
  split
  · exact ⟨hwaits, by simp⟩
  · refine (h.promoteDue now).leaseNext_withholds hstore ?_ hnow
    rw [(Tracking.plain_promoteDue h.orderly now).1]
    exact hwaits.promoteDue hnow

/-- No call leases a mail before it is due. -/
theorem InOrder.perform_withholds (h : queue.InOrder) (hstore : store.Genuine) {step : QueueStep}
    (hwaits : queue.tracking.plain.Withholds id due) (hnow : step.now < due)
    (hanew : ∀ mail delay, step.call = .enqueue mail delay → mail.id = id →
      (queue.perform store step).1 ≠ .done (.ok ()))
    (hflush : step.call = .flush → ∀ time, (time, id) ∉ queue.tracking.plain.delayed) :
    (queue.perform store step).2.tracking.plain.Withholds id due ∧
      ∀ mail, (queue.perform store step).1 = .lease (.ok (some mail)) → mail.id ≠ id := by
  obtain ⟨now, call⟩ := step
  cases call with
  | enqueue mail delay =>
      have hperform : queue.perform store ⟨now, .enqueue mail delay⟩ =
          (.done (queue.enqueue store mail delay now).1, (queue.enqueue store mail delay now).2) :=
            rfl
      rw [hperform] at hanew ⊢
      refine ⟨h.enqueue_withholds hwaits mail delay fun hid hstored => ?_,
        fun _ hreply => by cases hreply⟩
      exact hanew mail delay rfl hid (congrArg QueueReply.done hstored)
  | dequeue broken =>
      obtain ⟨hafter, hothers⟩ := h.dequeue_withholds (hstore.interrupted broken) hwaits hnow
      exact ⟨hafter, fun mail hreply => hothers mail (QueueReply.lease.inj hreply)⟩
  | settle other success =>
      have hperform : queue.perform store ⟨now, .settle other success⟩ =
          (.done (queue.settle store other success now).1,
          (queue.settle store other success now).2) := rfl
      rw [hperform]
      exact ⟨h.settle_withholds store hwaits hnow other success, fun _ hreply => by cases hreply⟩
  | abandon other =>
      exact ⟨h.settle_withholds store hwaits hnow other false, fun _ hreply => by cases hreply⟩
  | flush =>
      refine ⟨?_, fun _ hreply => by cases hreply⟩
      change queue.tracking.flush.2.plain.Withholds id due
      rw [(Tracking.plain_flush h.orderly).2.1]
      exact hwaits.flush (hflush rfl)
  | close => exact ⟨⟨hwaits.visible, hwaits.delayed, hwaits.leased⟩,
      fun _ hreply => by cases hreply⟩

/-- Whether a queue leases a mail only when it is due, whatever calls are made of it after `now`,
while the clock does not go back and the schedule of the mail is let be. -/
def Waits (store : RecordStore σ) (id : MailId) (due now : Instant) (queue : MailQueue σ) : Prop :=
  ∀ steps events final, (now :: steps.map QueueStep.now).Pairwise (· ≤ ·) →
  LetsBe store id steps queue →
    queue.run store steps = (events, final) → ∀ event ∈ events, ∀ mail,
      event.reply = .lease (.ok (some mail)) → mail.id = id → due ≤ event.step.now

/-- What is withheld is waited for. -/
theorem InOrder.waits (h : queue.InOrder) (hstore : store.Genuine)
    (hwaits : now < due → queue.tracking.plain.Withholds id due) :
    queue.Waits store id due now := by
  intro steps events final hclock hlets hrun event hevent mail hreply hid
  -- By induction on the steps: the mail is withheld up to the first step at which it is due.
  induction steps generalizing queue now events with
  | nil =>
      cases hrun
      cases hevent
  | cons step steps ih =>
      obtain ⟨reply, next, others, hperform, hrest, rfl⟩ := run_cons hrun
      obtain ⟨hanew, hflush, hlets⟩ := hlets
      rw [hperform] at hlets
      have hnext := h.perform store step
      rw [hperform] at hnext
      have hclock' : (step.now :: steps.map QueueStep.now).Pairwise (· ≤ ·) := hclock.tail
      by_cases hdue : due ≤ step.now
      · rcases List.mem_cons.1 hevent with rfl | hevent
        · exact hdue
        · exact ih hnext (fun hearly => absurd hdue (Instant.not_le.2 hearly)) _ hclock'
            hlets hrest hevent
      · have hearly : step.now < due := Instant.not_le.1 hdue
        have hstart : now < due :=
          Int.lt_of_le_of_lt ((List.pairwise_cons.1 hclock).1 _ (List.mem_cons_self ..)) hearly
        obtain ⟨hafter, hothers⟩ := h.perform_withholds hstore (hwaits hstart) hearly hanew hflush
        rw [hperform] at hafter hothers
        rcases List.mem_cons.1 hevent with rfl | hevent
        · exact absurd hid (hothers mail hreply)
        · exact ih hnext (fun _ => hafter) _ hclock' hlets hrest hevent

/-- A mail that was stored is withheld until it is due. -/
theorem InOrder.stores_withholds (h : queue.InOrder) {mail : Mail} {delay : Nat}
    {stored : MailQueue σ} (hstored : queue.enqueue store mail delay now = (.ok (), stored))
    (hnow : now < dueTime now delay) :
    stored.tracking.plain.Withholds mail.id (dueTime now delay) := by
  rw [tracking_of_stored hstored, (Tracking.plain_register h.orderly _ _ _).1]
  exact PlainQueue.withholds_enqueue
    (fun hleased hstanding => Tracking.not_leased_of_standing hstanding hleased) hnow

/-- Whatever a store answers, at most one record of each mail is settled on. -/
theorem keepLatestOfEach_nodup (store : RecordStore σ) (keys : List RecordKey) {ids : List MailId}
    (hids : ids.Nodup) (records : σ) :
    ((keepLatestOfEach store (ids.map fun id => keys.filter (·.id = id)) records).1.map
      RecordKey.id).Nodup := by
  induction ids generalizing records with
  | nil => exact List.nodup_nil
  | cons id ids ih =>
      obtain ⟨hout, hids⟩ := List.nodup_cons.1 hids
      rw [List.map_cons, keepLatestOfEach]
      dsimp only
      cases hkept : (keepLatest store (keys.filter (·.id = id)) records).1 with
      | none => exact ih hids _
      | some kept =>
          rw [Option.toList_some, List.singleton_append, List.map_cons, List.nodup_cons]
          refine ⟨fun hmem => ?_, ih hids _⟩
          obtain ⟨other, hother, hsame⟩ := List.mem_map.1 hmem
          obtain ⟨candidates, hgroup, hcandidate⟩ := keepLatestOfEach_mem store hother
          obtain ⟨group, hlisted, rfl⟩ := List.mem_map.1 hgroup
          have hkeptid := (RecordKey.mem_filter_id.1 (keepLatest_mem store hkept)).2
          have hotherid := (RecordKey.mem_filter_id.1 hcandidate).2
          rw [hkeptid, hotherid] at hsame
          exact hout (hsame ▸ hlisted)

theorem nodup_kept (store : RecordStore σ) (keys : List RecordKey) (records : σ) :
    ((keepLatestOfEach store (groupById keys) records).1.map RecordKey.id).Nodup :=
  keepLatestOfEach_nodup store keys (nodup_ids keys) records

theorem mem_keepLatestOfEach_of_single (store : RecordStore σ) {groups : List (List RecordKey)}
    {key : RecordKey} (h : [key] ∈ groups) (records : σ) :
    key ∈ (keepLatestOfEach store groups records).1 := by
  induction groups generalizing records with
  | nil => cases h
  | cons candidates groups ih =>
      rw [keepLatestOfEach]
      rcases List.mem_cons.1 h with rfl | hlater
      · exact List.mem_append_left _ (List.mem_singleton_self key)
      · exact List.mem_append_right _ (ih hlater _)

section Recovered

variable {records opened : σ} {tracking : Tracking} {key : RecordKey}

/-- What is recovered comes from the listing, with at most one key of each mail. -/
theorem recovers_listed (hopen : recoverFrom store now records = (.ok tracking, opened)) :
    ∃ keys listed, store.list records = (.ok keys, listed) ∧
      tracking = recover (keepLatestOfEach store (groupById keys) listed).1 now := by
  unfold recoverFrom at hopen
  rcases hlist : store.list records with ⟨e | keys, listed⟩
  · rw [hlist] at hopen
    cases hopen
  · rw [hlist] at hopen
    cases hopen
    exact ⟨keys, listed, rfl, rfl⟩

/-- A mail with one record is tracked under its key, whether or not the record can be read. -/
theorem tracks_single (hopen : recoverFrom store now records = (.ok tracking, opened))
    {keys : List RecordKey} (hlist : (store.list records).1 = .ok keys)
    (hsingle : keys.filter (·.id = key.id) = [key]) : tracking.key? key.id = some key := by
  obtain ⟨listed, after, heq, rfl⟩ := recovers_listed hopen
  rw [heq] at hlist
  cases hlist
  have hmem : key ∈ keys := List.mem_of_mem_filter (hsingle ▸ List.mem_singleton_self key)
  have hgroup : [key] ∈ groupById keys :=
    List.mem_map.2 ⟨key.id, by simpa using ⟨key, hmem, rfl⟩, hsingle⟩
  rw [(recover_spec (nodup_kept store keys after) now).1]
  exact ⟨mem_keepLatestOfEach_of_single store hgroup after, rfl⟩

/-- A mail that was recovered is withheld until the time of its key. -/
theorem withholds_recovered (hopen : recoverFrom store now records = (.ok tracking, opened))
    (hkey : tracking.key? key.id = some key) (hnow : now < key.time) :
    tracking.plain.Withholds key.id key.time := by
  obtain ⟨keys, listed, -, rfl⟩ := recovers_listed hopen
  obtain ⟨htracked, hplain, -⟩ := recover_spec (nodup_kept store keys listed) now
  refine Eq.mpr (congrArg (PlainQueue.Withholds · key.id key.time) hplain) ?_
  refine PlainQueue.withholds_opened (fun k hk hid => ?_) hnow
  have hsame := (htracked key.id k).2 ⟨by simpa using hk, hid⟩
  exact Option.some.inj (hsame.symm.trans hkey)

end Recovered

/-- Schedules are total, round down by less than a millisecond and are in the order of the delays,
and whatever a key holds is read back. A mail that was stored is tracked under the key of its
schedule and is not leased before it is due, as long as the clock does not go back and the mail is
neither stored anew nor flushed while it is delayed. A queue that is opened over records tracks a
mail that has one of them under the key of that one, and leases no mail before the time of the key
that it is tracked under. -/
theorem schedules_are_kept :
    (∀ now delay, .epoch ≤ now → now ≤ RecordKey.latest →
      (dueTime now delay).nanos = min (now.nanos + delay) RecordKey.latest.nanos ∧
      (now.after? delay = none → dueTime now delay = RecordKey.latest) ∧
      ∀ id, (RecordKey.scheduled id (dueTime now delay)).Rounds (dueTime now delay)) ∧
    (∀ now shorter longer, shorter ≤ longer → dueTime now shorter ≤ dueTime now longer ∧
      ∀ id, (RecordKey.scheduled id (dueTime now shorter)).notBefore ≤
        (RecordKey.scheduled id (dueTime now longer)).notBefore) ∧
    (∀ key : RecordKey, key.time.nanos = key.notBefore.toNat * nanosPerMilli ∧
      RecordKey.scheduled key.id key.time = key) ∧
    (∀ queue, Possible Vault.store queue → ∀ mail delay now stored,
      queue.enqueue Vault.store mail delay now = (.ok (), stored) →
        stored.tracking.key? mail.id = some (.scheduled mail.id (dueTime now delay)) ∧
        stored.Waits Vault.store mail.id (dueTime now delay) now) ∧
    (∀ now records tracking opened, recoverFrom Vault.store now records = (.ok tracking, opened) →
      (∀ keys key, (Vault.store.list records).1 = .ok keys → keys.filter (·.id = key.id) = [key] →
        tracking.key? key.id = some key) ∧
      ∀ key, tracking.key? key.id = some key →
        Waits Vault.store key.id key.time now ⟨tracking, opened⟩) := by
  refine ⟨fun now delay hepoch hlatest => ?_, fun now shorter longer h => ?_,
    fun key => ⟨key.nanos_time, key.scheduled_time⟩,
    fun queue hqueue mail delay now stored hstored => ?_, fun now records tracking opened hopen =>
      ⟨fun keys key hlist hsingle => tracks_single hopen hlist hsingle, fun key hkey => ?_⟩⟩
  · have hafter : Instant.epoch ≤ dueTime now delay :=
      Int.le_trans hepoch (le_dueTime hlatest delay)
    exact ⟨nanos_dueTime now delay, dueTime_of_none,
      RecordKey.rounds_scheduled hafter (dueTime_le_latest now delay)⟩
  · have hdue := dueTime_le_dueTime now h
    exact ⟨hdue, fun _ => Instant.millis_le_millis hdue⟩
  · have hnext := hqueue.inOrder.enqueue Vault.store mail delay now
    rw [hstored] at hnext
    refine ⟨?_, hnext.waits Vault.genuine (hqueue.inOrder.stores_withholds hstored)⟩
    rw [tracking_of_stored hstored, Tracking.key?_register]
    exact if_pos rfl
  · exact (Possible.opened hopen).inOrder.waits Vault.genuine (withholds_recovered hopen hkey)

end MailQueue

namespace MailQueue.Sample

def vacant : MailQueue Vault :=
  ⟨.empty, .memory (.empty none)⟩

/-- The first mail waits for a millisecond and a half. -/
def waiting : MailQueue Vault :=
  (vacant.enqueue Vault.store first 1500000 .epoch).2

def waitingKey : RecordKey :=
  ⟨1, first.id⟩

/-- A lease is asked for after two milliseconds. -/
def attempt : QueueStep :=
  ⟨.ofMillis 2, .dequeue fun _ => none⟩

theorem possible_vacant : Possible Vault.store vacant := by
  have hopen : recoverFrom Vault.store .epoch vacant.records = (.ok .empty, vacant.records) := rfl
  exact .opened hopen

theorem read_waiting : ∃ after, Vault.store.read waitingKey waiting.records =
    (.ok first, after) := by
  obtain ⟨written, hwrite⟩ :
      ∃ written, Memory.store.write waitingKey first (.empty none) = (.ok (), written) :=
    Memory.reliable.write_recordable rfl recordable_first
  have hheld := congrFun (Memory.lawful.write_ok hwrite rfl) waitingKey
  rw [Holdings.put_same] at hheld
  obtain ⟨after, hread, -⟩ := Memory.lawful.read hheld
  have hwaiting : waiting.records = .memory (Memory.store.write waitingKey first (.empty none)).2 :=
    rfl
  refine ⟨.memory after, ?_⟩
  rw [hwaiting, hwrite]
  exact congrArg (fun answer : Answer Memory Mail => (answer.1, Vault.memory answer.2)) hread

/-- The lease is granted. -/
theorem run_attempt : ∃ final,
    waiting.run Vault.store [attempt] = ([⟨attempt, .lease (.ok (some first)), 1⟩], final) := by
  obtain ⟨tracking, hclaim, hsize⟩ : ∃ tracking, (waiting.tracking.promoteDue (.ofMillis 2)).claim =
      some (waitingKey, tracking) ∧ tracking.size = 1 := ⟨_, rfl, rfl⟩
  obtain ⟨after, hread⟩ := read_waiting
  have hdequeue : waiting.dequeue (Vault.store.interrupted fun _ => none) (.ofMillis 2) =
      (.ok (some first), ⟨tracking, after⟩) := by
    have hopen : ¬ waiting.tracking.closed = true := Bool.false_ne_true
    have hread : (Vault.store.interrupted fun _ => none).read waitingKey waiting.records =
        (.ok first, after) := hread
    rw [dequeue, if_neg hopen, leaseNext_of_some hclaim, hread]
  have hperform : waiting.perform Vault.store attempt =
      (.lease (.ok (some first)), ⟨tracking, after⟩) := by
    simp only [perform, attempt, hdequeue]
  exact ⟨⟨tracking, after⟩, by simp only [run, hperform, size, hsize]⟩

theorem letsBe_attempt : LetsBe Vault.store first.id [attempt] waiting := by
  refine ⟨fun mail delay hcall => ?_, fun hcall => ?_, trivial⟩ <;> cases hcall

/-- The lease is granted once the mail is due, and a restart makes the mail wait again. -/
theorem schedules_are_kept_of_first :
    ((dueTime .epoch 1500000).nanos = 1500000 ∧ waitingKey.Rounds (dueTime .epoch 1500000)) ∧
    dueTime .epoch 1000000 ≤ dueTime .epoch 1500000 ∧
    (waitingKey.time.nanos = 1000000 ∧ RecordKey.scheduled first.id waitingKey.time = waitingKey) ∧
    (Possible Vault.store vacant ∧
      vacant.enqueue Vault.store first 1500000 .epoch = (.ok (), waiting) ∧
      waiting.tracking.key? first.id = some waitingKey ∧
      (∃ final, waiting.run Vault.store [attempt] =
        ([⟨attempt, .lease (.ok (some first)), 1⟩], final)) ∧
      dueTime .epoch 1500000 ≤ attempt.now) ∧
    ∃ tracking opened, recoverFrom Vault.store .epoch waiting.records = (.ok tracking, opened) ∧
      tracking.key? first.id = some waitingKey ∧
      Waits Vault.store first.id waitingKey.time .epoch ⟨tracking, opened⟩ := by
  obtain ⟨harithmetic, hmonotone, hread, hrunning, hreopened⟩ := schedules_are_kept
  obtain ⟨hdue, -, hrounds⟩ := harithmetic .epoch 1500000 (by decide) (by decide)
  obtain ⟨hkey, hwaits⟩ := hrunning vacant possible_vacant first 1500000 .epoch waiting rfl
  have hopen : recoverFrom Vault.store .epoch waiting.records =
      (.ok (recover [waitingKey] .epoch), waiting.records) := rfl
  obtain ⟨hsingle, hlater⟩ := hreopened .epoch waiting.records _ _ hopen
  have htracked := hsingle [waitingKey] waitingKey rfl rfl
  obtain ⟨final, hrun⟩ := run_attempt
  have hclock : (Instant.epoch :: [attempt].map QueueStep.now).Pairwise (· ≤ ·) := by decide
  have hpatient := hwaits [attempt] _ final hclock letsBe_attempt hrun
  have hleased :=
    hpatient ⟨attempt, .lease (.ok (some first)), 1⟩ (List.mem_singleton_self _) first rfl rfl
  exact ⟨⟨hdue.trans rfl, hrounds first.id⟩, (hmonotone .epoch 1000000 1500000 (by decide)).1,
    hread waitingKey, ⟨possible_vacant, rfl, hkey, ⟨final, hrun⟩, hleased⟩,
    _, _, hopen, htracked, hlater waitingKey htracked⟩

end MailQueue.Sample

end Postroom
