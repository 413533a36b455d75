import Postroom.Queue.Tracking
import Postroom.Store

/-!
The durable mail queue: what it tracks, and the store that holds the records. A mail is stored
before it becomes visible and its record goes only when a lease on it ends with success. The store
may fail at any point; what is tracked is then as the single operations say.
-/

namespace Postroom

structure MailQueue (σ : Type) where
  tracking : Tracking
  records : σ

namespace MailQueue

variable {σ : Type}

/-- The more recently updated of two records, the first of equals. One that cannot be read does not
count. -/
def newer (best : Option (Instant × RecordKey)) (key : RecordKey) :
    Except QueueError Mail → Option (Instant × RecordKey)
  | .error _ => best
  | .ok mail =>
      match best with
      | none => some (mail.updated, key)
      | some (time, _) => if time < mail.updated then some (mail.updated, key) else best

/-- The most recently updated of the candidates that can be read, the first of equals. -/
def newest (store : RecordStore σ) : List RecordKey → Option (Instant × RecordKey) → σ →
    Option (Instant × RecordKey) × σ
  | [], best, records => (best, records)
  | key :: rest, best, records =>
      let (result, records) := store.read key records
      newest store rest (newer best key result) records

/-- Delete records; failures do not matter. -/
def deleteAll (store : RecordStore σ) (keys : List RecordKey) (records : σ) : σ :=
  keys.foldl (fun records key => (store.delete key records).2) records

/-- The last of some keys in key order. -/
def lastKey : List RecordKey → Option RecordKey
  | [] => none
  | key :: rest => some (rest.foldl (fun a b => if (compare a b).isLT then b else a) key)

/-- Settle on one record of a mail. If there are several, the most recently updated one stays, or
the one with the last key if none can be read. -/
def keepLatest (store : RecordStore σ) (candidates : List RecordKey) (records : σ) :
    Option RecordKey × σ :=
  match candidates with
  | [] => (none, records)
  | [key] => (some key, records)
  | _ =>
      let (best, records) := newest store candidates none records
      let keep := match best with
        | some (_, key) => some key
        | none => lastKey candidates
      (keep, deleteAll store (candidates.filter (some · ≠ keep)) records)

/-- The keys of each mail, mails in the order of their ids. -/
def groupById (keys : List RecordKey) : List (List RecordKey) :=
  let ids := (Std.ExtTreeSet.ofList (keys.map RecordKey.id)).toList
  ids.map fun id => keys.filter (·.id = id)

/-- Settle on one record for each group. -/
def keepLatestOfEach (store : RecordStore σ) : List (List RecordKey) → σ → List RecordKey × σ
  | [], records => ([], records)
  | candidates :: rest, records =>
      let (kept, records) := keepLatest store candidates records
      let (others, records) := keepLatestOfEach store rest records
      (kept.toList ++ others, records)

/-- Track one mail for each key, in key order. -/
def recover (keys : List RecordKey) (now : Instant) : Tracking :=
  (Std.ExtTreeSet.ofList keys).toList.foldl
    (fun tracking key => tracking.track key key.time now) .empty

/-- Open a queue over a store and recover what it holds. -/
def recoverFrom (store : RecordStore σ) (now : Instant) (records : σ) : Answer σ Tracking :=
  match store.list records with
  | (.error e, records) => (.error e, records)
  | (.ok keys, records) =>
      let (keys, records) := keepLatestOfEach store (groupById keys) records
      (.ok (recover keys now), records)

/-- When a mail that is enqueued at `now` with a delay becomes visible. -/
def dueTime (now : Instant) (delay : Nat) : Instant :=
  match now.after? delay with
  | some due => due.earlier RecordKey.latest
  | none => RecordKey.latest

/-- Store a mail and make it visible after a delay, given in nanoseconds. This works on a closed
queue too. If the record it supersedes cannot be deleted, that record stays behind. -/
def enqueue (store : RecordStore σ) (mail : Mail) (delay : Nat) (now : Instant)
    (queue : MailQueue σ) : Answer (MailQueue σ) Unit :=
  let due := dueTime now delay
  let key := RecordKey.scheduled mail.id due
  match store.write key mail queue.records with
  | (.error e, records) => (.error e, { queue with records })
  | (.ok (), records) =>
      match queue.tracking.register key due now with
      | (none, tracking) => (.ok (), ⟨tracking, records⟩)
      | (some superseded, tracking) => (.ok (), ⟨tracking, (store.delete superseded records).2⟩)

/-- Lease the first visible mail that can be read, if there is one. A failure that may go away puts
the mail back; a mail whose record can never be read is set aside. -/
def leaseNext (store : RecordStore σ) (now : Instant) (queue : MailQueue σ) :
    Answer (MailQueue σ) (Option Mail) :=
  match _claimed : queue.tracking.claim with
  | none => (.ok none, queue)
  | some (key, tracking) =>
      match store.read key queue.records with
      | (.ok mail, records) => (.ok (some mail), ⟨tracking, records⟩)
      | (.error e, records) =>
          if e.isTransient then (.error e, ⟨tracking.release key.id now, records⟩)
          else
            leaseNext store now ⟨tracking.forget key.id, (store.quarantine key records).2⟩
termination_by queue.tracking.ready.length
decreasing_by
  have := Tracking.claim_ready_length _claimed
  exact this

/-- Lease the next mail. No mail means that the consumer has to wait. -/
def dequeue (store : RecordStore σ) (now : Instant) (queue : MailQueue σ) :
    Answer (MailQueue σ) (Option Mail) :=
  if queue.tracking.closed then (.error .closed, queue)
  else leaseNext store now { queue with tracking := queue.tracking.promoteDue now }

/-- Roll a lease back. -/
def rollBack (id : MailId) (now : Instant) (queue : MailQueue σ) : MailQueue σ :=
  { queue with tracking := queue.tracking.release id now }

/-- End a lease with success. If the record cannot be deleted, the mail is gone from the queue but
its record stays behind. -/
def complete (store : RecordStore σ) (id : MailId) (now : Instant) (queue : MailQueue σ) :
    Answer (MailQueue σ) Unit :=
  match queue.tracking.acknowledge id now with
  | none => (.error (.notFound id), queue)
  | some (none, tracking) => (.ok (), { queue with tracking })
  | some (some key, tracking) =>
      let (result, records) := store.delete key queue.records
      (result, ⟨tracking, records⟩)

/-- Settle a lease. -/
def settle (store : RecordStore σ) (id : MailId) (success : Bool) (now : Instant)
    (queue : MailQueue σ) : Answer (MailQueue σ) Unit :=
  if success then complete store id now queue else (.ok (), rollBack id now queue)

/-- Make every delayed mail visible now; its record keeps the schedule. -/
def flush (queue : MailQueue σ) : Nat × MailQueue σ :=
  let (count, tracking) := queue.tracking.flush
  (count, { queue with tracking })

/-- Hand out no more leases. -/
def close (queue : MailQueue σ) : MailQueue σ :=
  { queue with tracking := queue.tracking.close }

def isClosed (queue : MailQueue σ) : Bool :=
  queue.tracking.closed

def size (queue : MailQueue σ) : Nat :=
  queue.tracking.size

end MailQueue

end Postroom
