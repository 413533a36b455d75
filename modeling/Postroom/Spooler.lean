import Postroom.Registry
import Postroom.Spool

/-!
The consumer of the queue. A pass leases a mail, runs it through its chain, and hands everything
that came out back to the queue before it gives up the lease; so each hop is stored before the one
that led to it is acknowledged. If anything cannot be stored, the lease is rolled back and the mail
is processed again later. In a pool of workers each makes one pass after the other until it has to
wait; the passes that wait come to an end after the queue is closed.
-/

namespace Postroom

/-- How the pass of a leased mail ended. -/
inductive PassEnd where
  | acknowledged
  /-- Something that came out could not be queued; the lease was rolled back. -/
  | rolledBack
  | faulted (fault : PassFault)
  deriving DecidableEq

/-- A pass that has been through its chain and still holds its lease. -/
structure Passage where
  leased : MailId
  /-- Milliseconds that the pass has waited. -/
  waited : Nat
  /-- The mails to queue, in order, unless the pass came to a fault. -/
  result : Except PassFault (List Mail)

structure Spooler (σ : Type) where
  store : RecordStore σ
  registry : Registry
  localDomains : List Domain := []

namespace Spooler

variable {σ : Type}

/-- Queue mails in order, up to the first failure. -/
def enqueueAll (store : RecordStore σ) (now : Instant) :
    List Mail → MailQueue σ → Answer (MailQueue σ) Unit
  | [], queue => (.ok (), queue)
  | mail :: rest, queue =>
      match queue.enqueue store mail 0 now with
      | (.error e, queue) => (.error e, queue)
      | (.ok (), queue) => enqueueAll store now rest queue

/-- The order in which the mails of a pass are queued. Mails that keep the leased id come last,
because queueing them supersedes the record of the lease. -/
def handover (leased : MailId) (routed outgoing : List Mail) : List Mail :=
  routed.filter (·.id ≠ leased) ++ outgoing ++ routed.filter (·.id = leased)

/-- Run a leased mail through its chain. -/
def run (spooler : Spooler σ) (mail : Mail) (now : Instant) (patience : Option Nat)
    (spool : Spool σ) : Passage × Spool σ :=
  let world := spool.currentWorld spooler.store
  let pass := Pass.start now spool.ids spooler.localDomains world patience
  let (result, pass) := spooler.registry.process mail pass
  let mails := result.map fun routed => handover mail.id routed pass.outgoing
  (⟨mail.id, pass.waited, mails⟩, spool.afterPass spooler.store pass)

/-- Queue what came out of a pass and settle its lease. A failure to acknowledge is ignored. -/
def conclude (store : RecordStore σ) (passage : Passage) (now : Instant) (queue : MailQueue σ) :
    PassEnd × MailQueue σ :=
  match passage.result with
  | .error fault => (.faulted fault, queue.rollBack passage.leased now)
  | .ok mails =>
      match enqueueAll store now mails queue with
      | (.error _, queue) => (.rolledBack, queue.rollBack passage.leased now)
      | (.ok (), queue) => (.acknowledged, (queue.settle store passage.leased true now).2)

/-- One pass of a leased mail. -/
def process (spooler : Spooler σ) (mail : Mail) (now : Instant) (spool : Spool σ) :
    PassEnd × Spool σ :=
  let (passage, spool) := spooler.run mail now none spool
  spool.onQueue (conclude spooler.store passage now)

/-- Lease the next visible mail and make its pass. The answer holds the mail as it was leased. -/
def processNext (spooler : Spooler σ) (now : Instant) (spool : Spool σ) :
    Except QueueError (Option (Mail × PassEnd)) × Spool σ :=
  match spool.onQueue (MailQueue.dequeue spooler.store now) with
  | (.error e, spool) => (.error e, spool)
  | (.ok none, spool) => (.ok none, spool)
  | (.ok (some mail), spool) =>
      let (ending, spool) := spooler.process mail now spool
      (.ok (some (mail, ending)), spool)

/-- Workers at work. -/
structure Shift (σ : Type) where
  /-- How many workers are free. -/
  free : Nat
  /-- The passes that wait, in the order in which they began. -/
  waiting : List Passage := []
  /-- The first fault that ended a worker. -/
  fault? : Option PassFault := none
  spool : Spool σ

/-- The shift after a worker has come to the end of a pass. It goes on only if all went well. -/
def Shift.afterEnd (shift : Shift σ) : PassEnd → Shift σ
  | .acknowledged => shift
  | .rolledBack => { shift with free := shift.free - 1 }
  | .faulted fault =>
      { shift with free := shift.free - 1, fault? := shift.fault? <|> some fault }

/-- Let the free workers make passes, one worker after the other, until nothing is visible or none
of them is free. A worker that met a failure or a fault, or that waits in a pass, is not free any
more. At most `limit` passes are made. -/
def work (spooler : Spooler σ) (patience : Nat) (now : Instant) : Nat → Shift σ → Shift σ
  | 0, shift => shift
  | limit + 1, shift =>
      if shift.free = 0 then shift
      else match shift.spool.onQueue (MailQueue.dequeue spooler.store now) with
        | (.error .closed, spool) => { shift with spool }
        | (.error _, spool) =>
            work spooler patience now limit { shift with free := shift.free - 1, spool }
        | (.ok none, spool) => { shift with spool }
        | (.ok (some mail), spool) =>
            let (passage, spool) := spooler.run mail now (some patience) spool
            if 0 < passage.waited then
              work spooler patience now limit
                { shift with
                  free := shift.free - 1
                  waiting := shift.waiting ++ [passage]
                  spool }
            else
              let (ending, spool) := spool.onQueue (conclude spooler.store passage now)
              work spooler patience now limit ({ shift with spool }.afterEnd ending)

/-- Bring passes to their ends, one after the other. How they end matters to nobody any more. -/
def concludeAll (store : RecordStore σ) (passages : List Passage) (now : Instant)
    (queue : MailQueue σ) : MailQueue σ :=
  passages.foldl (fun queue passage => (conclude store passage now queue).2) queue

/-- A pool has at least one worker. -/
def poolSize (workers : Nat) : Nat :=
  max 1 workers

/-- Milliseconds without progress after which a pool is shut down. -/
def quietPeriod : Nat := 200

/-- Run a pool of workers until it has nothing left to do, then close the queue and give the
passes that wait `timeout` milliseconds. They end in the order in which their waiting is over, and
what all of them did is put in the order of its moments. -/
def serve (spooler : Spooler σ) (workers timeout : Nat) (now : Instant) (limit : Nat)
    (spool : Spool σ) : Except PassFault Unit × Spool σ :=
  let shift := spooler.work (quietPeriod + timeout) now limit { free := poolSize workers, spool }
  let waiting := shift.waiting.mergeSort fun a b => decide (a.waited ≤ b.waited)
  let queue := concludeAll spooler.store waiting now shift.spool.queue.close
  let world := spool.world.inOrderSince shift.spool.world
  (match shift.fault? with
    | some fault => .error fault
    | none => .ok (),
   { shift.spool with queue, world })

end Spooler

end Postroom
