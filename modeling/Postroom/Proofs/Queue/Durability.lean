import Postroom.Proofs.Queue.Owed
import Postroom.Proofs.Queue.Refinement

/-!
What a restart preserves. At every point of a run the tracked mails are the ones that are owed, and
the records in memory are theirs, each the last version of its mail. So a queue that is opened over
them tracks what the abandoned one tracked. Only the leases are lost, and of a schedule what is
finer than a millisecond.
-/

namespace Postroom

/-- The start of the millisecond that an instant lies in. Before the epoch it is the epoch. -/
def Instant.floor (t : Instant) : Int :=
  (t.nanos.toNat / nanosPerMilli * nanosPerMilli : Nat)

namespace RecordKey

/-- A key holds its schedule to the millisecond. -/
theorem time_scheduled {due : Instant} (h : due ≤ latest) (id : MailId) :
    (scheduled id due).time.nanos = due.floor := by
  have hlatest : due.nanos ≤ 18446744073709551615 * 1000000 := h
  have hmin : min (due.nanos.toNat / 1000000) 18446744073709551615 = due.nanos.toNat / 1000000 := by
    omega
  show ((UInt64.ofNat (min (due.nanos.toNat / 1000000) 18446744073709551615)).toNat : Int) *
    1000000 = (due.nanos.toNat / 1000000 * 1000000 : Nat)
  have hsize : due.nanos.toNat / 1000000 < 18446744073709551616 := by omega
  rw [hmin, UInt64.toNat_ofNat_of_lt' hsize]
  omega

end RecordKey

theorem MailQueue.dueTime_le_latest (now : Instant) (delay : Nat) :
    dueTime now delay ≤ RecordKey.latest := by
  unfold dueTime
  split
  · unfold Instant.earlier
    split
    · assumption
    · exact Int.le_refl _
  · exact Int.le_refl _

namespace Ledger

/-- The ledger before anything is stored. -/
def blank : Ledger := fun _ => none

/-- No schedule is too late for a key. -/
def Bounded (ledger : Ledger) : Prop :=
  ∀ {id mail due}, ledger id = some (mail, due) → due ≤ RecordKey.latest

theorem stored?_le_latest {event : QueueEvent} {mail : Mail} {due : Instant}
    (h : event.stored? = some (mail, due)) : due ≤ RecordKey.latest := by
  unfold QueueEvent.stored? at h
  split at h
  · cases h
    exact MailQueue.dueTime_le_latest ..
  · cases h

theorem Bounded.enter {ledger : Ledger} (h : ledger.Bounded) (event : QueueEvent) :
    (ledger.enter event).Bounded := by
  intro id mail due hlast
  unfold Ledger.enter at hlast
  cases hstored : event.stored? with
  | none =>
      rw [hstored] at hlast
      exact h hlast
  | some version =>
      rw [hstored] at hlast
      simp only [record] at hlast
      split at hlast
      · cases hlast
        exact stored?_le_latest hstored
      · exact h hlast

theorem Bounded.after {ledger : Ledger} (h : ledger.Bounded) (events : List QueueEvent) :
    (ledger.after events).Bounded := by
  induction events generalizing ledger with
  | nil => exact h
  | cons event events ih => exact ih (h.enter event)

theorem bounded_blank : blank.Bounded := by
  intro id mail due h
  cases h

end Ledger

namespace MailQueue

/-- What is tracked and stored after some events: the mails that are owed, each by one record, which
is the last version of it under the key of its last schedule. -/
structure Durable (events : List QueueEvent) (queue : MailQueue Memory) : Prop where
  owed : ∀ id, queue.tracking.key? id ≠ none ↔ Owed id events
  stored : ∀ key, key ∈ queue.records.records ↔ queue.tracking.key? key.id = some key
  latest : ∀ {id key}, queue.tracking.key? id = some key →
    ∃ mail due, Ledger.blank.after events id = some (mail, due) ∧ mail.id = id ∧
      key = .scheduled id due ∧ queue.records.find key = .ok mail

/-- What is tracked after a restart at `now`: the same mails under the same keys, none of them
leased. From the millisecond of its last schedule on, and from no earlier time, a mail is
visible. -/
structure Restarted (ledger : Ledger) (now : Instant) (old new : Tracking) : Prop where
  keys : new.key? = old.key?
  free : ∀ id, new.leaseOf? id = none
  visible : ∀ {id mail due}, new.key? id ≠ none → ledger id = some (mail, due) → ∀ later,
    id ∈ (new.promoteDue later).plain.visible ↔ due.floor ≤ now.nanos ∨ due.floor ≤ later.nanos

variable {ledger : Ledger} {queue : MailQueue Memory} {events : List QueueEvent}

theorem Consistent.durable (h : Consistent Memory.holds (Ledger.blank.after events) queue)
    (howed : ∀ id, queue.tracking.key? id ≠ none ↔ Owed id events) : Durable events queue where
  owed := howed
  stored key := by
    rw [← Memory.holds_ne_none_iff]
    constructor
    · intro hheld
      by_cases hkey : queue.tracking.key? key.id = some key
      · exact hkey
      · exact absurd (h.not_held hkey) hheld
    · intro hkey
      obtain ⟨-, mail, due, -, -, hheld⟩ := h.held hkey
      rw [hheld]
      simp
  latest {id key} hkey := by
    obtain ⟨mail, due, hledger, hid, heq⟩ := h.tracked hkey
    obtain ⟨-, other, time, hother, -, hheld⟩ := h.held hkey
    rw [hledger] at hother
    cases hother
    refine ⟨mail, due, hledger, hid, heq, ?_⟩
    obtain ⟨record, hrecord, hread⟩ := Option.map_eq_some_iff.1 hheld
    simp only [Memory.find, hrecord, hread]

/-- To open a queue over the records of another tracks the same mails under the same keys. -/
theorem Consistent.reopen {σ : Type} {store : RecordStore σ} {holds : σ → Holdings}
    {queue : MailQueue σ} (hstore : store.Lawful holds) (h : Consistent holds ledger queue)
    (now : Instant) :
    ∃ keys, recoverFrom store now queue.records =
        (.ok (recover keys now), (store.list queue.records).2) ∧
      (keys.map RecordKey.id).Nodup ∧ (recover keys now).key? = queue.tracking.key? ∧
      holds (store.list queue.records).2 = holds queue.records := by
  have hkey : ∀ {key}, holds queue.records key ≠ none →
      queue.tracking.key? key.id = some key := by
    intro key hheld
    by_cases hkey : queue.tracking.key? key.id = some key
    · exact hkey
    · exact absurd (h.not_held hkey) hheld
  obtain ⟨keys, hrecover, hsame, hids, hkeys⟩ := recoverFrom_of_single hstore now
    fun {a b} ha hb hid => by
      have htracked := hkey ha
      rw [hid, hkey hb] at htracked
      exact (Option.some.inj htracked).symm
  refine ⟨keys, hrecover, hids, ?_, hsame⟩
  funext id
  apply Option.ext
  intro key
  rw [(recover_spec hids now).1, hkeys]
  constructor
  · rintro ⟨hheld, rfl⟩
    exact hkey hheld
  · intro hkey
    obtain ⟨hid, mail, due, -, -, hheld⟩ := h.held hkey
    exact ⟨by simp [hheld], hid⟩

/-- To open a queue over the records of another restores what that one tracked. -/
theorem Consistent.restart (h : Consistent Memory.holds ledger queue) (hbounded : ledger.Bounded)
    (now : Instant) :
    ∃ tracking records, recoverFrom Memory.store now queue.records = (.ok tracking, records) ∧
      Consistent Memory.holds ledger ⟨tracking, records⟩ ∧
      Restarted ledger now queue.tracking tracking := by
  obtain ⟨keys, hrecover, hids, hagree, hsame⟩ := h.reopen Memory.lawful now
  obtain ⟨htracked, hplain, -⟩ := recover_spec hids now
  have hnew : Consistent Memory.holds ledger ⟨recover keys now,
    (Memory.store.list queue.records).2⟩ :=
    h.of_same hagree hsame
  refine ⟨_, _, hrecover, hnew, hagree, ?_, ?_⟩
  · intro id
    rw [← Tracking.leased_plain, hplain]
    simp [PlainQueue.opened]
  · intro id mail due hsome hledger later
    obtain ⟨key, hkey⟩ := Option.ne_none_iff_exists'.1 hsome
    obtain ⟨other, time, hother, -, heq⟩ := hnew.tracked hkey
    rw [hledger] at hother
    cases hother
    have htime : key.time.nanos = due.floor := by
      rw [heq, RecordKey.time_scheduled (hbounded hledger)]
    obtain ⟨hmem, rfl⟩ := (htracked id key).1 hkey
    rw [(recover_awaits hids now hmem).visible, ← htime]
    rfl

theorem consistent_empty (capacity : Option Nat) :
    Consistent Memory.holds .blank ⟨.empty, .empty capacity⟩ where
  records key := by simp [Memory.holds, Memory.empty, Tracking.key?, Tracking.empty]
  tracked {id key} hkey := by simp [Tracking.key?, Tracking.empty] at hkey

theorem owes_empty (capacity : Option Nat) :
    Owes [] (⟨.empty, .empty capacity⟩ : MailQueue Memory) where
  tracked id := by simp [Tracking.key?, Tracking.empty, not_owed_nil]
  renewed id due hlease := by simp [Tracking.leaseOf?, Tracking.empty] at hlease
  unrenewed id hlease := by simp [Tracking.leaseOf?, Tracking.empty] at hlease

section Stored

variable {σ : Type} {store : RecordStore σ} {holds : σ → Holdings} {sound : σ → Prop}
  {queue queue' : MailQueue σ}

theorem perform_sound (hstore : store.Reliable holds sound) (h : Consistent holds ledger queue)
    (hsound : sound queue.records) (step : QueueStep) :
    sound (queue.perform store step).2.records := by
  obtain ⟨now, call⟩ := step
  cases call with
  | enqueue mail delay => exact enqueue_sound hstore mail delay now hsound
  | dequeue broken =>
      change sound (queue.dequeue (store.interrupted broken) now).2.records
      rcases dequeue_cases hstore.toLawful h broken now with ⟨-, hdequeue⟩ | ⟨-, -, hdequeue⟩ |
        ⟨key, tracking, mail, due, -, -, -, -, ⟨e, -, hdequeue⟩ | ⟨-, records, hread, -, hdequeue⟩⟩
      · rwa [hdequeue]
      · rwa [hdequeue]
      · rwa [hdequeue]
      · rw [hdequeue]
        have hafter := hstore.read_sound key hsound
        rwa [hread] at hafter
  | settle id success =>
      cases success with
      | true => exact complete_sound hstore id now hsound
      | false => exact hsound
  | abandon id => exact hsound
  | flush => exact hsound
  | close => exact hsound

/-- A store that never fails stores every mail that can be written. -/
theorem run_stores (hstore : store.Reliable holds sound) (steps : List QueueStep)
    (h : Consistent holds ledger queue) (hsound : sound queue.records) {events : List QueueEvent}
    (hrun : queue.run store steps = (events, queue')) :
    ∀ event ∈ events, ∀ mail delay, event.step.call = .enqueue mail delay →
      (Record.encode mail).isOk = true → event.reply = .done (.ok ()) := by
  induction steps generalizing queue ledger events with
  | nil =>
      cases hrun
      simp
  | cons step steps ih =>
      obtain ⟨reply, next, others, hperform, hrest, rfl⟩ := run_cons hrun
      have hnext := (perform_consistent hstore.toDependable h step hperform next.size).1
      have hhealthy := perform_sound hstore h hsound step
      rw [hperform] at hhealthy
      intro event hevent mail delay hcall hrecordable
      rcases List.mem_cons.1 hevent with rfl | hevent
      · obtain ⟨now, call⟩ := step
        obtain rfl : call = .enqueue mail delay := hcall
        obtain ⟨written, hwrite⟩ : ∃ written,
            store.write (.scheduled mail.id (dueTime now delay)) mail queue.records =
              (.ok (), written) := hstore.write_recordable hsound hrecordable
        rcases enqueue_cases hstore.toDependable h mail delay now with
          ⟨e, records, hfail, -⟩ | ⟨tracking, records, henqueue, -⟩
        · rw [hwrite] at hfail
          cases hfail
        · simp only [perform, henqueue] at hperform
          cases hperform
          rfl
      · exact ih hnext hhealthy hrest event hevent mail delay hcall hrecordable

end Stored

/-- Whatever calls are made of a queue over a memory store, it tracks what is owed, and its records
are those of the tracked mails in their last versions. Every lease hands such a version out, a mail
that can be written is stored where room is not limited, and a restart restores all that is owed. -/
theorem run_durable (capacity : Option Nat) (steps : List QueueStep) :
    ∃ events queue, MailQueue.run Memory.store steps ⟨.empty, .empty capacity⟩ = (events, queue) ∧
      Durable events queue ∧
      (∀ before event later mail, events = before ++ event :: later →
        event.reply = .lease (.ok (some mail)) →
          ∃ due, Ledger.blank.after before mail.id = some (mail, due)) ∧
      (capacity = none → ∀ event ∈ events, ∀ mail delay, event.step.call = .enqueue mail delay →
        (Record.encode mail).isOk = true → event.reply = .done (.ok ())) ∧
      ∀ now, ∃ tracking records,
        recoverFrom Memory.store now queue.records = (.ok tracking, records) ∧
        Durable events ⟨tracking, records⟩ ∧
        Restarted (Ledger.blank.after events) now queue.tracking tracking := by
  obtain ⟨hconsistent, hleased⟩ :=
    run_consistent Memory.dependable steps (consistent_empty capacity) rfl
  have howes := run_owes Memory.dependable steps (consistent_empty capacity)
    (owes_empty capacity) rfl
  refine ⟨_, _, rfl, hconsistent.durable howes.tracked, hleased, fun hcapacity => ?_, fun now => ?_⟩
  · exact run_stores Memory.reliable steps (consistent_empty capacity) hcapacity rfl
  · obtain ⟨tracking, records, hrecover, hnew, hrestarted⟩ :=
      hconsistent.restart (Ledger.bounded_blank.after _) now
    refine ⟨tracking, records, hrecover, hnew.durable fun id => ?_, hrestarted⟩
    rw [hrestarted.keys]
    exact howes.tracked id

end MailQueue

namespace MailQueue.Sample

/-- One mail is stored with a delay of an hour, and another one is stored, leased and done with. -/
def hourly : List QueueStep :=
  [⟨.epoch, .enqueue first 3600000000000⟩, ⟨.epoch, .enqueue second 0⟩,
    ⟨.epoch, .dequeue fun _ => none⟩, ⟨.epoch, .settle second.id true⟩]

def hourlyKey : RecordKey := .scheduled first.id (.ofMillis 3600000)

/-- The queue that is opened after that has the first mail, as it was stored, but does not show it
before its hour. The second mail is gone. -/
theorem run_durable_of_hourly : ∃ events queue tracking records,
    MailQueue.run Memory.store hourly ⟨.empty, .empty none⟩ = (events, queue) ∧
    Owed first.id events ∧ ¬ Owed second.id events ∧
    recoverFrom Memory.store .epoch queue.records = (.ok tracking, records) ∧
    tracking.key? first.id = some hourlyKey ∧ records.find hourlyKey = .ok first ∧
    first.id ∉ (tracking.promoteDue .epoch).plain.visible ∧
    first.id ∈ (tracking.promoteDue (.ofMillis 3600000)).plain.visible ∧
    tracking.key? second.id = none := by
  obtain ⟨events, queue, hrun, hdurable, -, -, hrestart⟩ := run_durable none hourly
  obtain ⟨tracking, records, hrecover, hafter, hrestarted⟩ := hrestart .epoch
  have hevents : events = _ := (congrArg Prod.fst hrun).symm
  have hqueue : queue = _ := (congrArg Prod.snd hrun).symm
  have hfirst : queue.tracking.key? first.id = some hourlyKey := by
    rw [hqueue]
    decide +kernel
  have hsecond : queue.tracking.key? second.id = none := by
    rw [hqueue]
    decide +kernel
  have hkept : tracking.key? first.id = some hourlyKey := by rw [hrestarted.keys, hfirst]
  have hledger : Ledger.blank.after events first.id = some (first, .ofMillis 3600000) := by
    rw [hevents]
    rfl
  obtain ⟨mail, due, hlast, -, -, hrecord⟩ := hafter.latest hkept
  cases hledger.symm.trans hlast
  have hvisible := hrestarted.visible (by rw [hkept]; simp) hledger
  refine ⟨events, queue, tracking, records, hrun, (hdurable.owed _).1 (by rw [hfirst]; simp),
    fun howed => (hdurable.owed _).2 howed hsecond, hrecover, hkept, hrecord, ?_, ?_, ?_⟩
  · rw [hvisible]
    decide
  · rw [hvisible]
    decide
  · rw [hrestarted.keys, hsecond]

end MailQueue.Sample

end Postroom
