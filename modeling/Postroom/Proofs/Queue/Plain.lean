import Postroom.Proofs.Queue.Run
import Postroom.Proofs.Queue.Tracked

/-!
A queue without generations and stale positions. Each mail stands in one place: among the visible
ones, among the delayed ones or, leased, in neither. To schedule a mail anew is to take it away and
put it in its new place. A real queue answers as this one does.
-/

namespace Postroom

@[ext] structure PlainQueue where
  /-- The mails that can be leased, the next one first. -/
  visible : List MailId
  /-- The mails that are not visible yet, by time and, at one time, in the order of scheduling. -/
  delayed : List (Instant × MailId)
  /-- The leased mails, each with the time that an enqueue since asked for. -/
  leased : Std.ExtTreeMap MailId (Option Instant)
  closed : Bool

namespace PlainQueue

/-- The queue that is opened over records with these keys, which are in key order. -/
def opened (keys : List RecordKey) (now : Instant) : PlainQueue where
  visible := (keys.filter fun key => key.time ≤ now).map RecordKey.id
  delayed := (keys.filter fun key => ¬ key.time ≤ now).map fun key => (key.time, key.id)
  leased := ∅
  closed := false

/-- The mails that are visible or delayed. -/
def standing (queue : PlainQueue) : List MailId :=
  queue.visible ++ queue.delayed.map Prod.snd

def size (queue : PlainQueue) : Nat :=
  queue.visible.length + queue.delayed.length + queue.leased.size

/-- Take a mail from wherever it stands. -/
def remove (queue : PlainQueue) (id : MailId) : PlainQueue :=
  { queue with
    visible := queue.visible.filter (· ≠ id)
    delayed := queue.delayed.filter (·.2 ≠ id) }

/-- Put a mail behind the visible ones, or among the delayed ones if its time has not come. -/
def place (queue : PlainQueue) (id : MailId) (due now : Instant) : PlainQueue :=
  if due ≤ now then { queue with visible := queue.visible ++ [id] }
  else
    { queue with
      delayed := queue.delayed.filter (·.1 ≤ due) ++ (due, id) :: queue.delayed.filter (due < ·.1) }

/-- Schedule a mail; of a leased one only the time is noted. -/
def enqueue (queue : PlainQueue) (id : MailId) (due now : Instant) : PlainQueue :=
  if id ∈ queue.leased then { queue with leased := queue.leased.insert id (some due) }
  else (queue.remove id).place id due now

/-- Append the mails whose time has come to the visible ones, in order. -/
def promoteDue (queue : PlainQueue) (now : Instant) : PlainQueue :=
  { queue with
    visible := queue.visible ++ (queue.delayed.filter (·.1 ≤ now)).map Prod.snd
    delayed := queue.delayed.filter (now < ·.1) }

/-- Lease the front. If it cannot be read, it stays where it is. -/
def dequeue (queue : PlainQueue) (broken : MailId → Option IoError) (now : Instant) :
    Except QueueError (Option MailId) × PlainQueue :=
  if queue.closed then (.error .closed, queue)
  else
    let queue := queue.promoteDue now
    match queue.visible with
    | [] => (.ok none, queue)
    | id :: rest =>
        match broken id with
        | some e => (.error (.io e), queue)
        | none =>
            (.ok (some id), { queue with visible := rest, leased := queue.leased.insert id none })

/-- End a lease. A mail that was enqueued since is scheduled; another one goes after a success and
returns to the front after a failure. -/
def settle (queue : PlainQueue) (id : MailId) (success : Bool) (now : Instant) : PlainQueue :=
  match queue.leased[id]? with
  | none => queue
  | some (some due) => { queue with leased := queue.leased.erase id }.place id due now
  | some none =>
      if success then { queue with leased := queue.leased.erase id }
      else { queue with visible := id :: queue.visible, leased := queue.leased.erase id }

/-- What the end of a lease is answered with. Only a success is told that there was no lease. -/
def settled (queue : PlainQueue) (id : MailId) (success : Bool) : Except QueueError Unit :=
  if success && !queue.leased.contains id then .error (.notFound id) else .ok ()

/-- Append every delayed mail to the visible ones, and count them. -/
def flush (queue : PlainQueue) : Nat × PlainQueue :=
  (queue.delayed.length,
    { queue with visible := queue.visible ++ queue.delayed.map Prod.snd, delayed := [] })

/-- Answer a call. -/
def perform (step : QueueStep) (queue : PlainQueue) : QueueReply MailId × PlainQueue :=
  match step.call with
  | .enqueue mail delay =>
      (.done (.ok ()), queue.enqueue mail.id (MailQueue.dueTime step.now delay) step.now)
  | .dequeue broken =>
      let (result, queue) := queue.dequeue broken step.now
      (.lease result, queue)
  | .settle id success => (.done (queue.settled id success), queue.settle id success step.now)
  | .abandon id => (.done (.ok ()), queue.settle id false step.now)
  | .flush =>
      let (count, queue) := queue.flush
      (.count count, queue)
  | .close => (.done (.ok ()), { queue with closed := true })

/-- The answers to the calls of a run, each with the size of the queue after it. -/
def run : List QueueStep → PlainQueue → List (QueueReply MailId × Nat)
  | [], _ => []
  | step :: steps, queue =>
      let (reply, queue) := queue.perform step
      (reply, queue.size) :: run steps queue

end PlainQueue

namespace Tracking

/-- The plain queue that is left if stale positions are disregarded. -/
def plain (t : Tracking) : PlainQueue where
  visible := (t.ready.filter t.isCurrent).map Position.id
  delayed := (t.delayed.toList.filter fun e => t.isCurrent e.2).map fun e => (e.1.time, e.2.id)
  leased := t.entries.filterMap fun _ entry => entry.status.lease?
  closed := t.closed

end Tracking

end Postroom
