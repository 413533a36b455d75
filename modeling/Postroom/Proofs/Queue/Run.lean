import Postroom.Queue

/-!
Runs of a queue: any calls in any order, each at whatever time the clock shows then, and what the
queue answers to them. Reads may fail for a while, so a lease names the mails whose records cannot
be read when it is asked for.
-/

namespace Postroom

/-- The store while the records of some mails cannot be read. -/
def RecordStore.interrupted {σ : Type} (store : RecordStore σ)
    (broken : MailId → Option IoError) : RecordStore σ :=
  { store with
    read := fun key records =>
      match broken key.id with
      | some e => (.error (.io e), records)
      | none => store.read key records }

inductive QueueCall where
  | enqueue (mail : Mail) (delay : Nat)
  | dequeue (broken : MailId → Option IoError)
  /-- The lease of a mail is settled, as a success or as a failure. -/
  | settle (id : MailId) (success : Bool)
  /-- The lease of a mail is dropped without having been settled. -/
  | abandon (id : MailId)
  | flush
  | close

structure QueueStep where
  /-- What the clock shows. -/
  now : Instant
  call : QueueCall

/-- What a queue answers to a call, with leased mails as `α`. -/
inductive QueueReply (α : Type) where
  | done (result : Except QueueError Unit)
  /-- No mail means that the consumer has to wait. -/
  | lease (result : Except QueueError (Option α))
  | count (n : Nat)

def QueueReply.map {α β : Type} (f : α → β) : QueueReply α → QueueReply β
  | .done result => .done result
  | .lease result => .lease (result.map fun leased => leased.map f)
  | .count n => .count n

/-- A step of a run, the answer to its call, and how many mails are tracked after it. -/
structure QueueEvent where
  step : QueueStep
  reply : QueueReply Mail
  size : Nat

namespace MailQueue

variable {σ : Type}

/-- Answer a call. -/
def perform (store : RecordStore σ) (step : QueueStep) (queue : MailQueue σ) :
    QueueReply Mail × MailQueue σ :=
  match step.call with
  | .enqueue mail delay =>
      let (result, queue) := queue.enqueue store mail delay step.now
      (.done result, queue)
  | .dequeue broken =>
      let (result, queue) := queue.dequeue (store.interrupted broken) step.now
      (.lease result, queue)
  | .settle id success =>
      let (result, queue) := queue.settle store id success step.now
      (.done result, queue)
  | .abandon id => (.done (.ok ()), queue.rollBack id step.now)
  | .flush =>
      let (count, queue) := queue.flush
      (.count count, queue)
  | .close => (.done (.ok ()), queue.close)

/-- Take the steps of a run. -/
def run (store : RecordStore σ) : List QueueStep → MailQueue σ → List QueueEvent × MailQueue σ
  | [], queue => ([], queue)
  | step :: steps, queue =>
      let (reply, queue) := queue.perform store step
      let (events, final) := run store steps queue
      (⟨step, reply, queue.size⟩ :: events, final)

/-- A run answers its first call and goes on from there. -/
theorem run_cons {store : RecordStore σ} {step : QueueStep} {steps : List QueueStep}
    {queue final : MailQueue σ} {events : List QueueEvent}
    (h : queue.run store (step :: steps) = (events, final)) :
    ∃ reply next others, queue.perform store step = (reply, next) ∧
      next.run store steps = (others, final) ∧ events = ⟨step, reply, next.size⟩ :: others := by
  cases h
  exact ⟨_, _, _, rfl, rfl, rfl⟩

end MailQueue

end Postroom
