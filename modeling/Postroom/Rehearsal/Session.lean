import Postroom.Mail.Change
import Postroom.Queue.Consumer
import Postroom.Server

/-!
Sessions: a queue played by hand, step by step, on a clock that only moves when it is told to.
Leases and waiting consumers have names. A lease that loses its name to another one is dropped; when
the queue is opened anew, leases and consumers are forgotten, as if the server had been killed.
-/

namespace Postroom.Rehearsal

structure Session where
  now : Instant
  spool : Spool Vault
  spooler : Option (Spooler Vault)
  leases : List (String × Mail) := []
  waiters : List (String × Consumer) := []

/-- A name that nothing has. -/
inductive Missing where
  | lease
  | waiter
  deriving DecidableEq

def Missing.message : Missing → String
  | .lease => "no such lease"
  | .waiter => "no such waiter"

/-- Put a value under a name, in the place of what has the name. -/
def putNamed {α : Type} (name : String) (value : α) (named : List (String × α)) :
    List (String × α) :=
  named.filter (·.1 ≠ name) ++ [(name, value)]

def dropNamed {α : Type} (name : String) (named : List (String × α)) : List (String × α) :=
  named.filter (·.1 ≠ name)

/-- A step of a session, with its answer. -/
abbrev Play := StateM Session

namespace Play

/-- Run an operation on the queue. -/
def onQueue {α : Type} (run : Instant → MailQueue Vault → α × MailQueue Vault) : Play α :=
  fun s =>
    let (answer, spool) := s.spool.onQueue (run s.now)
    (answer, { s with spool })

def changeQueue (change : Instant → MailQueue Vault → MailQueue Vault) : Play Unit :=
  onQueue fun now queue => ((), change now queue)

/-- Run an operation on the store behind the queue. -/
def onStore {α : Type} (run : Vault → α × Vault) : Play α :=
  onQueue fun _ queue =>
    let (answer, records) := run queue.records
    (answer, { queue with records })

/-- Change the disk of a directory store; the answer tells whether that went well. -/
def onDisk (change : Disk → Except IoError Disk) : Play Bool :=
  onStore fun vault =>
    match vault with
    | .directory home disk =>
        match change disk with
        | .ok disk => (true, .directory home disk)
        | .error _ => (false, vault)
    | _ => (false, vault)

def writeFile (path : Path) (bytes : List UInt8) : Play Bool :=
  onDisk fun disk =>
    if path.meansDirectory then .error .isDirectory else disk.fill path.components bytes

def removeFile (path : Path) : Play Bool :=
  onDisk fun disk =>
    if path.meansDirectory then .error .notDirectory else disk.remove path.components

/-- Create directories on the disk of a directory store; the answer tells whether all are there. -/
def makeDirectories (path : Path) : Play Bool :=
  onStore fun vault =>
    match vault with
    | .directory home disk =>
        let (result, disk) := disk.makeDirectories path
        (result.isOk, .directory home disk)
    | _ => (false, vault)

/-- Let the clock move on. -/
def advance (nanos : Nat) : Play Unit :=
  modify fun s => { s with now := (s.now.after? nanos).getD s.now }

def enqueue (mail : Mail) (delay : Nat) : Play (Except QueueError Unit) :=
  onQueue fun now => MailQueue.enqueue Vault.store mail delay now

/-- Roll the lease of a mail back. -/
def rollBack (mail : Mail) : Play Unit :=
  changeQueue fun now queue => queue.rollBack mail.id now

/-- Keep a lease under a name. -/
def keepLease (name : String) (mail : Mail) : Play Unit := do
  let former? := (← get).leases.lookup name
  modify fun s => { s with leases := putNamed name mail s.leases }
  match former? with
  | some former => rollBack former
  | none => return

/-- Take a lease away from its name. -/
def takeLease (name : String) : Play (Option Mail) := do
  let found := (← get).leases.lookup name
  modify fun s => { s with leases := dropNamed name s.leases }
  return found

/-- Lease the next mail under a name. -/
def dequeue (name : String) : Play (Except QueueError (Option Mail)) := do
  let result ← onQueue fun now => MailQueue.dequeue Vault.store now
  if let .ok (some mail) := result then keepLease name mail
  return result

/-- Queue a leased mail in its present form. -/
def enqueueLeased (name : String) (delay : Nat) : Play (Option (Except QueueError Unit)) := do
  match (← get).leases.lookup name with
  | some mail => return some (← enqueue mail delay)
  | none => return none

/-- Change a leased mail. -/
def changeLeased (name : String) (change : MailChange) : Play (Option ChangeAnswer) := do
  let s ← get
  match s.leases.lookup name with
  | some mail =>
      let (answer, mail) := change.apply s.now mail
      set { s with leases := putNamed name mail s.leases }
      return some answer
  | none => return none

/-- Settle a lease. -/
def settle (name : String) (success : Bool) : Play (Option (Except QueueError Unit)) := do
  match ← takeLease name with
  | some mail =>
      return some (← onQueue fun now => MailQueue.settle Vault.store mail.id success now)
  | none => return none

/-- Drop a lease; the answer tells whether there was one. -/
def drop (name : String) : Play Bool := do
  match ← takeLease name with
  | some mail =>
      rollBack mail
      return true
  | none => return false

/-- Let a consumer begin to wait. -/
def wait (name : String) : Play Unit :=
  modify fun s => { s with waiters := putNamed name .waiting s.waiters }

/-- Ask a consumer for what it has got. If it has an answer it is gone, and its mail is leased under
the name `lease`. -/
def join (name lease : String) : Play (Option (Except QueueError (Option Mail))) := do
  match (← get).waiters.lookup name with
  | none => return none
  | some .waiting => return some (.ok none)
  | some (.answered result) =>
      modify fun s => { s with waiters := dropNamed name s.waiters }
      if let .ok mail := result then keepLease lease mail
      return some (result.map some)

/-- Cancel a consumer; the answer tells whether there was one. -/
def cancel (name : String) : Play Bool := do
  match (← get).waiters.lookup name with
  | none => return false
  | some consumer =>
      modify fun s => { s with waiters := dropNamed name s.waiters }
      changeQueue consumer.cancel
      return true

/-- Let the waiting consumers proceed. -/
def proceed : Play Unit := fun s =>
  let (waiters, spool) := s.spool.onQueue (Consumer.proceedAll Vault.store s.now s.waiters)
  ((), { s with waiters, spool })

/-- Forget leases and consumers, and open the queue anew over its store. If that fails the queue
stays as it is. -/
def restart : Play (Except QueueError Unit) := do
  modify fun s => { s with leases := [], waiters := [] }
  match ← onStore Vault.prepare with
  | .error e => return .error e
  | .ok () =>
      let s ← get
      match Server.openQueue s.spool.queue.records s.spool.ids s.spool.world s.now with
      | .error e => return .error e
      | .ok spool =>
          set { s with spool }
          return .ok ()

/-- Every record of the store, with what reading it gives. -/
def records : Play (Except QueueError (List (RecordKey × Except QueueError Mail))) := do
  match ← onStore Vault.list with
  | .error e => return .error e
  | .ok keys => return .ok (← keys.mapM fun key => do return (key, ← onStore (Vault.read key)))

/-- Hand in a submission whose message arrives as `stream`. -/
def submit (submission : Submission) (stream : Except IoError Content) :
    Play (Except IngressError Mail) := fun s =>
  let (result, spool) := Ingress.submitStream Vault.store submission stream s.now s.spool
  (result, { s with spool })

/-- Make a pass, if a mail is visible and there is a spooler. -/
def pass : Play (Except QueueError (Option (Mail × PassEnd))) := do
  let s ← get
  match s.spooler with
  | none => return .ok none
  | some spooler =>
      let (result, spool) := spooler.processNext s.now s.spool
      set { s with spool }
      return result

/-- Make passes until no mail is visible, at most `limit`. -/
def drain : Nat → Play (List (Except QueueError (Mail × PassEnd)))
  | 0 => return []
  | limit + 1 => do
      match ← pass with
      | .ok none => return []
      | .ok (some passed) => return .ok passed :: (← drain limit)
      | .error e => return .error e :: (← drain limit)

/-- Run a pool of workers. -/
def serve (workers timeout limit : Nat) : Play (Except PassFault Unit) := do
  let s ← get
  match s.spooler with
  | none => return .ok ()
  | some spooler =>
      let (result, spool) := spooler.serve workers timeout s.now limit s.spool
      set { s with spool }
      return result

/-- Take what was delivered so far. -/
def takeDeliveries : Play (List Delivery) := fun s =>
  let world := s.spool.world
  (world.deliveries,
    { s with spool := { s.spool with world := { world with deliveries := [] } } })

/-- Take what was logged so far. -/
def takeLog : Play (List LogEntry) := fun s =>
  let world := s.spool.world
  (world.log, { s with spool := { s.spool with world := { world with log := [] } } })

end Play

/-- What a server did with some submissions. -/
structure ServerReport where
  submitted : List (Except IngressError Mail)
  /-- Mails in the queue before the workers began. -/
  size : Nat
  flushed : Nat
  result : Except PassFault Unit
  spool : Spool Vault

/-- Hand submissions in, one after the other. -/
def submitAll (now : Instant) :
    List (Submission × Except IoError Content) → Spool Vault →
      List (Except IngressError Mail) × Spool Vault
  | [], spool => ([], spool)
  | (submission, stream) :: rest, spool =>
      let (result, spool) := Ingress.submitStream Vault.store submission stream now spool
      let (results, spool) := submitAll now rest spool
      (result :: results, spool)

/-- Hand submissions in, make everything visible, and let the workers run. -/
def runServer (server : Server) (submissions : List (Submission × Except IoError Content))
    (now : Instant) (limit : Nat) (spool : Spool Vault) : ServerReport :=
  let (submitted, spool) := submitAll now submissions spool
  let size := spool.queue.size
  let (flushed, queue) := spool.queue.flush
  let (result, spool) := server.serve now limit { spool with queue }
  ⟨submitted, size, flushed, result, spool⟩

end Postroom.Rehearsal
