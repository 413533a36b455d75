import Postroom.Proofs.Queue.Outcomes
import Postroom.Proofs.Queue.Run

/-!
What is tracked and what is stored agree: the store holds the last version of each tracked mail,
under the key of its last schedule, and nothing else. Over a dependable store every operation keeps
it so. Hence a record that is asked for is always there and can be read.
-/

namespace Postroom

/-- The last version of each mail that was stored, and when it was to become visible. -/
abbrev Ledger := MailId → Option (Mail × Instant)

def Ledger.record (ledger : Ledger) (mail : Mail) (due : Instant) : Ledger := fun id =>
  if id = mail.id then some (mail, due) else ledger id

/-- The mail that was stored by a call, and when it becomes visible, if the call succeeded. -/
def QueueEvent.stored? (event : QueueEvent) : Option (Mail × Instant) :=
  match event.step.call, event.reply with
  | .enqueue mail delay, .done (.ok ()) => some (mail, MailQueue.dueTime event.step.now delay)
  | _, _ => none

def Ledger.enter (ledger : Ledger) (event : QueueEvent) : Ledger :=
  match event.stored? with
  | some (mail, due) => ledger.record mail due
  | none => ledger

/-- The ledger after some events. -/
def Ledger.after (ledger : Ledger) (events : List QueueEvent) : Ledger :=
  events.foldl enter ledger

namespace MailQueue

variable {σ : Type} {store : RecordStore σ} {holds : σ → Holdings} {ledger : Ledger}
  {queue : MailQueue σ}

structure Consistent (holds : σ → Holdings) (ledger : Ledger) (queue : MailQueue σ) : Prop where
  records : ∀ key, holds queue.records key =
    if queue.tracking.key? key.id = some key then (ledger key.id).map fun version => .ok version.1
    else none
  tracked : ∀ {id key}, queue.tracking.key? id = some key →
    ∃ mail due, ledger id = some (mail, due) ∧ mail.id = id ∧ key = .scheduled id due

/-- The record of a tracked mail is its last version. -/
theorem Consistent.held (h : Consistent holds ledger queue) {id : MailId} {key : RecordKey}
    (hkey : queue.tracking.key? id = some key) :
    key.id = id ∧ ∃ mail due, ledger id = some (mail, due) ∧ mail.id = id ∧
      holds queue.records key = some (.ok mail) := by
  obtain ⟨mail, due, hledger, hid, rfl⟩ := h.tracked hkey
  refine ⟨rfl, mail, due, hledger, hid, ?_⟩
  have hsame : (RecordKey.scheduled id due).id = id := rfl
  rw [h.records, hsame, if_pos hkey, hledger]
  rfl

theorem Consistent.not_held (h : Consistent holds ledger queue) {key : RecordKey}
    (hkey : queue.tracking.key? key.id ≠ some key) : holds queue.records key = none := by
  rw [h.records, if_neg hkey]

/-- The agreement is about keys and records only. -/
theorem Consistent.of_same (h : Consistent holds ledger queue) {queue' : MailQueue σ}
    (hkey : queue'.tracking.key? = queue.tracking.key?)
    (hrecords : holds queue'.records = holds queue.records) : Consistent holds ledger queue' where
  records key := by rw [hrecords, hkey, h.records]
  tracked {id key} hid := by
    rw [hkey] at hid
    exact h.tracked hid

/-- A new version takes the place of all there was of its mail. -/
theorem Consistent.of_record (h : Consistent holds ledger queue) {mail : Mail} {due : Instant}
    {queue' : MailQueue σ}
    (hkey : ∀ id, queue'.tracking.key? id =
      if id = mail.id then some (.scheduled mail.id due) else queue.tracking.key? id)
    (hrecords : ∀ key, holds queue'.records key =
      if key.id = mail.id then
        if key = .scheduled mail.id due then some (.ok mail) else none
      else holds queue.records key) :
    Consistent holds (ledger.record mail due) queue' where
  records key := by
    rw [hrecords, hkey, Ledger.record]
    by_cases hid : key.id = mail.id
    · simp only [hid, if_true, Option.some.injEq, Option.map_some]
      by_cases hsame : key = .scheduled mail.id due
      · rw [if_pos hsame, if_pos hsame.symm]
      · rw [if_neg hsame, if_neg fun heq => hsame heq.symm]
    · simp only [hid, if_false]
      exact h.records key
  tracked {id key} hid := by
    rw [hkey] at hid
    unfold Ledger.record
    by_cases heq : id = mail.id
    · rw [if_pos heq] at hid
      cases hid
      exact ⟨mail, due, if_pos heq, heq.symm, by rw [heq]⟩
    · rw [if_neg heq] at hid ⊢
      exact h.tracked hid

/-- What storing a mail comes to: its record is the only one of the mail afterwards, or nothing has
changed. -/
theorem enqueue_cases (hstore : store.Dependable holds) (h : Consistent holds ledger queue)
    (mail : Mail) (delay : Nat) (now : Instant) :
    (∃ e records, store.write (.scheduled mail.id (dueTime now delay)) mail queue.records =
        (.error e, records) ∧
      queue.enqueue store mail delay now = (.error e, { queue with records }) ∧
      Consistent holds ledger { queue with records }) ∨
    ∃ tracking records, queue.enqueue store mail delay now = (.ok (), ⟨tracking, records⟩) ∧
      tracking = (queue.tracking.register (.scheduled mail.id (dueTime now delay))
        (dueTime now delay) now).2 ∧
      Consistent holds (ledger.record mail (dueTime now delay)) ⟨tracking, records⟩ := by
  have hkey := queue.tracking.key?_register (.scheduled mail.id (dueTime now delay))
    (dueTime now delay) now
  rcases enqueue_outcomes hstore.toLawful mail delay now queue with ⟨_, written, rfl, -,
    ⟨e, henqueue, hwrite, hsame⟩ | ⟨hput, ⟨honly, henqueue⟩ | ⟨old, hold, hne, henqueue⟩⟩⟩
  · exact .inl ⟨e, written, hwrite, henqueue, h.of_same rfl hsame⟩
  · refine .inr ⟨_, written, henqueue, rfl, h.of_record hkey fun key => ?_⟩
    rw [hput]
    by_cases hsame : key = .scheduled mail.id (dueTime now delay)
    · simp [hsame]
    · rw [Holdings.put_other _ _ hsame]
      split
      · rename_i hid
        refine h.not_held fun hold => hsame (honly key ?_)
        rwa [hid] at hold
      · rfl
  · obtain ⟨hoid, _, _, -, -, hheld⟩ := h.held hold
    have hoid : old.id = mail.id := hoid
    have hthere : holds written old ≠ none := by
      rw [hput, Holdings.put_other _ _ hne, hheld]
      simp
    obtain ⟨deleted, hdelete⟩ := hstore.delete_held hthere
    have hremove := hstore.delete_ok hdelete
    refine .inr ⟨_, _, henqueue, rfl, h.of_record hkey fun key => ?_⟩
    dsimp only
    rw [hdelete, hremove, hput]
    by_cases hgone : key = old
    · rw [hgone, Holdings.remove_same, if_pos hoid, if_neg hne]
    rw [Holdings.remove_other _ hgone]
    by_cases hsame : key = .scheduled mail.id (dueTime now delay)
    · simp [hsame]
    rw [Holdings.put_other _ _ hsame]
    split
    · rename_i hid
      refine h.not_held fun hkept => hgone ?_
      rw [hid] at hkept
      exact Option.some.inj (hkept.symm.trans hold)
    · rfl

theorem leaseNext_of_none {now : Instant} (h : queue.tracking.claim = none) :
    queue.leaseNext store now = (.ok none, queue) := by
  unfold leaseNext
  split
  · rfl
  · rename_i hsome
    rw [h] at hsome
    cases hsome

theorem leaseNext_of_some {now : Instant} {key : RecordKey} {tracking : Tracking}
    (h : queue.tracking.claim = some (key, tracking)) :
    queue.leaseNext store now =
      match store.read key queue.records with
      | (.ok mail, records) => (.ok (some mail), ⟨tracking, records⟩)
      | (.error e, records) =>
          if e.isTransient then (.error e, ⟨tracking.release key.id now, records⟩)
          else
            leaseNext store now
              ⟨tracking.forget key.id, (store.quarantine key records).2⟩ := by
  rw [leaseNext]
  split
  · rename_i hnone
    rw [h] at hnone
    cases hnone
  · rename_i hsome
    rw [h] at hsome
    cases hsome
    rfl

/-- What a call for a lease comes to: the queue is closed, nothing is visible, the first visible
mail cannot be read at present and is put back, or it is leased, in its last version. -/
theorem dequeue_cases (hstore : store.Lawful holds) (h : Consistent holds ledger queue)
    (broken : MailId → Option IoError) (now : Instant) :
    (queue.tracking.closed = true ∧
      queue.dequeue (store.interrupted broken) now = (.error .closed, queue)) ∨
    (queue.tracking.closed = false ∧ (queue.tracking.promoteDue now).claim = none ∧
      queue.dequeue (store.interrupted broken) now =
        (.ok none, { queue with tracking := queue.tracking.promoteDue now })) ∨
    ∃ key tracking mail due, queue.tracking.closed = false ∧
      (queue.tracking.promoteDue now).claim = some (key, tracking) ∧
      ledger key.id = some (mail, due) ∧ mail.id = key.id ∧
      ((∃ e, broken key.id = some e ∧ queue.dequeue (store.interrupted broken) now =
          (.error (.io e), ⟨tracking.release key.id now, queue.records⟩)) ∨
        broken key.id = none ∧ ∃ records, store.read key queue.records = (.ok mail, records) ∧
          holds records = holds queue.records ∧
          queue.dequeue (store.interrupted broken) now = (.ok (some mail),
            ⟨tracking, records⟩)) := by
  unfold dequeue
  cases hclosed : queue.tracking.closed with
  | true => exact .inl ⟨rfl, rfl⟩
  | false =>
      refine .inr ?_
      simp only [Bool.false_eq_true, if_false]
      cases hclaim : (queue.tracking.promoteDue now).claim with
      | none => exact .inl ⟨trivial, rfl, leaseNext_of_none hclaim⟩
      | some claimed =>
          obtain ⟨key, tracking⟩ := claimed
          obtain ⟨-, id, hid⟩ := Tracking.key?_claim hclaim
          rw [Tracking.key?_promoteDue] at hid
          obtain ⟨rfl, mail, due, hledger, hmail, hheld⟩ := h.held hid
          refine .inr ⟨key, tracking, mail, due, trivial, rfl, hledger, hmail, ?_⟩
          have hup : ({ queue with tracking := queue.tracking.promoteDue now } :
              MailQueue σ).tracking.claim = some (key, tracking) := hclaim
          rw [leaseNext_of_some hup]
          cases hbroken : broken key.id with
          | some e =>
              refine .inl ⟨e, rfl, ?_⟩
              simp [RecordStore.interrupted, hbroken, QueueError.isTransient]
          | none =>
              obtain ⟨records, hread, hsame⟩ := hstore.read hheld
              refine .inr ⟨rfl, records, hread, hsame, ?_⟩
              simp [RecordStore.interrupted, hbroken, hread]

/-- To settle a lease keeps the agreement, and its record goes only with the mail. -/
theorem complete_cases (hstore : store.Dependable holds) (h : Consistent holds ledger queue)
    (id : MailId) (now : Instant) :
    (queue.tracking.leaseOf? id = none ∧
      queue.complete store id now = (.error (.notFound id), queue)) ∨
    (queue.tracking.leaseOf? id).isSome ∧ ∃ key tracking records,
      queue.tracking.acknowledge id now = some (key, tracking) ∧
      queue.complete store id now = (.ok (), ⟨tracking, records⟩) ∧
      Consistent holds ledger ⟨tracking, records⟩ := by
  rcases complete_outcomes id now queue with hnone | ⟨due, hlease, hsome, hcomplete⟩ |
    ⟨hlease, key, hkey, hsome, hcomplete⟩
  · exact .inl hnone
  · refine .inr ⟨by simp [hlease], none, _, queue.records, hsome, hcomplete, ?_⟩
    exact h.of_same (Tracking.key?_schedule ..) rfl
  · obtain ⟨rfl, mail, due, -, -, hheld⟩ := h.held hkey
    obtain ⟨records, hdelete⟩ := hstore.delete_held (by rw [hheld]; simp)
    rw [hdelete] at hcomplete
    refine .inr ⟨by simp [hlease], some key, _, records, hsome, hcomplete, ?_⟩
    have hforget := queue.tracking.key?_forget key.id
    constructor
    · intro k
      rw [hstore.delete_ok hdelete, hforget]
      by_cases hk : k = key
      · simp [hk]
      · rw [Holdings.remove_other _ hk, h.records]
        by_cases hid : k.id = key.id
        · -- the mail was tracked under `key` alone
          have hother : queue.tracking.key? k.id ≠ some k := by
            rw [hid, hkey]
            exact fun heq => hk (Option.some.inj heq).symm
          rw [if_neg hother, if_pos hid, if_neg (by simp)]
        · rw [if_neg hid]
    · intro k key' hk
      rw [hforget] at hk
      split at hk
      · cases hk
      · exact h.tracked hk

/-- A call for a lease keeps the agreement, and hands out the last version of a mail. -/
theorem dequeue_consistent (hstore : store.Lawful holds) (h : Consistent holds ledger queue)
    (broken : MailId → Option IoError) (now : Instant) :
    Consistent holds ledger (queue.dequeue (store.interrupted broken) now).2 ∧
      ∀ mail, (queue.dequeue (store.interrupted broken) now).1 = .ok (some mail) →
        ∃ due, ledger mail.id = some (mail, due) := by
  rcases dequeue_cases hstore h broken now with ⟨-, hdequeue⟩ | ⟨-, -, hdequeue⟩ |
    ⟨key, tracking, mail, due, -, hclaim, hledger, hid, hread⟩
  · rw [hdequeue]
    exact ⟨h, by simp⟩
  · rw [hdequeue]
    exact ⟨h.of_same (Tracking.key?_promoteDue ..) rfl, by simp⟩
  have hkey : tracking.key? = queue.tracking.key? := by
    rw [(Tracking.key?_claim hclaim).1, Tracking.key?_promoteDue]
  rcases hread with ⟨e, -, hdequeue⟩ | ⟨-, records, -, hsame, hdequeue⟩
  · rw [hdequeue]
    exact ⟨h.of_same ((Tracking.key?_release ..).trans hkey) rfl, by simp⟩
  · rw [hdequeue]
    refine ⟨h.of_same hkey hsame, ?_⟩
    intro leased hleased
    cases hleased
    exact ⟨due, by rw [hid, hledger]⟩

/-- Every call keeps the agreement, and a mail that is leased is the last version of it. -/
theorem perform_consistent (hstore : store.Dependable holds) (h : Consistent holds ledger queue)
    (step : QueueStep) {reply : QueueReply Mail} {queue' : MailQueue σ}
    (hperform : queue.perform store step = (reply, queue')) (size : Nat) :
    Consistent holds (ledger.enter ⟨step, reply, size⟩) queue' ∧
      ∀ mail, reply = .lease (.ok (some mail)) → ∃ due, ledger mail.id = some (mail, due) := by
  obtain ⟨now, call⟩ := step
  cases call with
  | enqueue mail delay =>
      simp only [perform] at hperform
      rcases enqueue_cases hstore h mail delay now with ⟨e, records, -, henqueue, hsame⟩ |
        ⟨tracking, records, henqueue, -, hnew⟩
      · rw [henqueue] at hperform
        cases hperform
        exact ⟨hsame, by simp⟩
      · rw [henqueue] at hperform
        cases hperform
        exact ⟨hnew, by simp⟩
  | dequeue broken =>
      obtain ⟨hsame, hleased⟩ := dequeue_consistent hstore.toLawful h broken now
      cases hperform
      refine ⟨hsame, ?_⟩
      intro mail hreply
      exact hleased mail (QueueReply.lease.inj hreply)
  | settle id success =>
      cases success with
      | true =>
          simp only [perform, settle, if_true] at hperform
          rcases complete_cases hstore h id now with ⟨-, hcomplete⟩ |
            ⟨-, key, tracking, records, -, hcomplete, hnew⟩
          · rw [hcomplete] at hperform
            cases hperform
            exact ⟨h, by simp⟩
          · rw [hcomplete] at hperform
            cases hperform
            exact ⟨hnew, by simp⟩
      | false =>
          cases hperform
          exact ⟨h.of_same (Tracking.key?_release ..) rfl, by simp⟩
  | abandon id =>
      cases hperform
      exact ⟨h.of_same (Tracking.key?_release ..) rfl, by simp⟩
  | flush =>
      cases hperform
      exact ⟨h.of_same (Tracking.key?_flush _) rfl, by simp⟩
  | close =>
      cases hperform
      exact ⟨h.of_same (Tracking.key?_close _) rfl, by simp⟩

/-- A run keeps the agreement, and whatever it leases is the last version at that point. -/
theorem run_consistent (hstore : store.Dependable holds) (steps : List QueueStep)
    (h : Consistent holds ledger queue) {events : List QueueEvent} {queue' : MailQueue σ}
    (hrun : queue.run store steps = (events, queue')) :
    Consistent holds (ledger.after events) queue' ∧
      ∀ before event later mail, events = before ++ event :: later →
        event.reply = .lease (.ok (some mail)) →
          ∃ due, ledger.after before mail.id = some (mail, due) := by
  induction steps generalizing queue ledger events with
  | nil =>
      cases hrun
      refine ⟨h, ?_⟩
      intro before event later mail hsplit
      simp at hsplit
  | cons step steps ih =>
      obtain ⟨reply, next, others, hperform, hrest, rfl⟩ := run_cons hrun
      obtain ⟨hnext, hleased⟩ := perform_consistent hstore h step hperform next.size
      obtain ⟨hfinal, hothers⟩ := ih hnext hrest
      refine ⟨hfinal, ?_⟩
      intro before event later mail hsplit hreply
      cases before with
      | nil =>
          cases hsplit
          exact hleased mail hreply
      | cons first before =>
          cases hsplit
          exact hothers before event later mail rfl hreply

end MailQueue

end Postroom
